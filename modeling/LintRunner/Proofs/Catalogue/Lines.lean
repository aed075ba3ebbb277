import LintRunner.Catalogue
import LintRunner.Proofs.Format.Words
import LintRunner.Proofs.Listing.Decoding

/-!
# Lines of the built-in tools

The built-in formats read the lines of their tools as these were written (`Catalogue.reads_written`). What
a tool writes is said by `Catalogue.Writes`, one constructor for each kind of line. All lines begin with
the position of a finding, which colons delimit (`splits_position_iff`); behind it each format leaves one way
to split its line, or one that is greater than all others.
-/

set_option autoImplicit false

namespace LintRunner

open Regex Text

/-! ## Findings -/

/-- What a tool has found: where, and what it says about it. -/
structure Finding where
  filename : String
  line : Nat
  column : Nat
  message : String
  filename_run : IsRun isFilenameChar filename.toList
  line_pos : 0 < line
  line_lt : line < 10 ^ 18
  column_lt : column < 10 ^ 18
  message_run : IsRun isMessageChar message.toList

namespace Finding

def diagnostic (f : Finding) (severity : Severity) (code : Option String) : Diagnostic where
  filename := f.filename
  line := f.line
  column := some f.column
  message := f.message
  severity := severity
  code := code
  line_pos := f.line_pos

def place (f : Finding) : String :=
  f.filename ++ ":" ++ numberText f.line ++ ":" ++ numberText f.column

def placeSegments (f : Finding) : List Segment :=
  [⟨.filename, f.filename.toList⟩, ⟨.literal ":", [':']⟩, ⟨.line, digits f.line⟩, ⟨.literal ":", [':']⟩,
    ⟨.column, digits f.column⟩]

theorem toList_place (f : Finding) :
    f.place.toList = f.filename.toList ++ ':' :: (digits f.line ++ ':' :: digits f.column) := by
  have hnumber : ∀ n, (numberText n).toList = digits n := fun n => String.toList_ofList
  simp only [place, String.toList_append, hnumber, List.append_assoc]
  rfl

end Finding

/-! ## Labels -/

namespace Catalogue

def compilerWords : List (String × Severity) :=
  [("fatal error", .error), ("error", .error), ("warning", .warning), ("note", .info)]

def checkerWords : List (String × Severity) :=
  [("error", .error), ("warning", .warning), ("note", .info)]

def letterWords : List (String × Severity) :=
  [("C", .info), ("R", .info), ("W", .warning), ("E", .error), ("F", .error), ("I", .info)]

def scriptWords : List (String × Severity) := [("Error", .error), ("Warning", .warning)]

/-- How the tools of the built-in formats write a finding: the format, the line, and the severity and the
code that the line carries. -/
inductive Writes (f : Finding) : Format → String → Severity → Option String → Prop
  | gcc : Writes f gccFormat (f.place ++ ": " ++ f.message) (Classifier.blanks.classify f.message) none
  | govet : Writes f govetFormat (f.place ++ ": " ++ f.message) .warning none
  | cc {word : String} {severity : Severity} (label : (word, severity) ∈ compilerWords) :
      Writes f ccFormat (f.place ++ ": " ++ word ++ ": " ++ f.message) severity none
  | mypy {word : String} {severity : Severity} (label : (word, severity) ∈ checkerWords) :
      Writes f mypyFormat (f.place ++ ": " ++ word ++ ": " ++ f.message) severity none
  | ruff {code blanks : String} (identifier : IsCode code.toList)
      (run : IsRun isInlineBlank blanks.toList)
      (start : ∀ c ∈ f.message.toList.head?, isInlineBlank c = false) :
      Writes f ruffFormat (f.place ++ ": " ++ code ++ blanks ++ f.message) .warning (some code)
  | pylint {word code blanks : String} {severity : Severity} (label : (word, severity) ∈ letterWords)
      (identifier : IsCode code.toList) (run : IsRun isInlineBlank blanks.toList)
      (start : ∀ c ∈ f.message.toList.head?, isInlineBlank c = false) :
      Writes f pylintFormat (f.place ++ ":" ++ word ++ ":" ++ code ++ blanks ++ f.message) severity
        (some code)
  | eslint {word : String} {severity : Severity} (label : (word, severity) ∈ scriptWords) :
      Writes f eslintFormat (f.place ++ ": " ++ f.message ++ " [" ++ word ++ "]") severity none
  | eslintRule {word code : String} {severity : Severity} (label : (word, severity) ∈ scriptWords)
      (identifier : IsCode code.toList) :
      Writes f eslintFormat (f.place ++ ": " ++ f.message ++ " [" ++ word ++ "/" ++ code ++ "]") severity
        (some code)

end Catalogue

/-! ## The order of splits -/

theorem AtMost.refl (a : List Nat) : AtMost a a := by
  induction a with
  | nil => trivial
  | cons n a ih => exact Or.inr ⟨rfl, ih⟩

/-- Equal lengths in front do not matter. -/
theorem AtMost.append_left {a b : List Nat} (h : AtMost a b) (common : List Nat) :
    AtMost (common ++ a) (common ++ b) := by
  induction common with
  | nil => exact h
  | cons n common ih => exact Or.inr ⟨rfl, ih⟩

theorem lengths_append (a b : List Segment) : lengths (a ++ b) = lengths a ++ lengths b :=
  List.map_append

/-! ## Unique cuts -/

/-- The last character of a kind is where it is. -/
theorem cut_last_unique {c : Char} {a b x y : List Char} (hx : c ∉ x) (hy : c ∉ y)
    (h : a ++ c :: x = b ++ c :: y) : a = b ∧ x = y := by
  have hreverse : x.reverse ++ c :: a.reverse = y.reverse ++ c :: b.reverse := by
    simpa using congrArg List.reverse h
  obtain ⟨hafter, hbefore⟩ := cut_unique (by simpa using hx) (by simpa using hy) hreverse
  exact ⟨List.reverse_inj.mp hbefore, List.reverse_inj.mp hafter⟩

/-- Characters outside a class end where the class begins. -/
theorem takeWhile_not_append {p : Char → Bool} {a x : List Char} (ha : ∀ c ∈ a, p c = false)
    (hne : x ≠ []) (hx : ∀ c ∈ x.head?, p c = true) :
    (a ++ x).takeWhile (fun c => !p c) = a := by
  obtain ⟨c, x, rfl⟩ := List.exists_cons_of_ne_nil hne
  have hc : p c = true := hx c rfl
  rw [List.takeWhile_append_of_pos (fun d hd => by simp [ha d hd]), List.takeWhile_cons_of_neg (by simp [hc]),
    List.append_nil]

/-- A code, blanks and a message that does not begin with a blank: any other way to cut the text has the
same code, and fewer blanks unless it is the same way. -/
theorem code_unique {code blanks message code' blanks' message' : List Char}
    (hcode : ∀ c ∈ code, isInlineBlank c = false) (hcode' : ∀ c ∈ code', isInlineBlank c = false)
    (hblanks : IsRun isInlineBlank blanks) (hblanks' : IsRun isInlineBlank blanks')
    (hstart : ∀ c ∈ message.head?, isInlineBlank c = false)
    (h : code ++ (blanks ++ message) = code' ++ (blanks' ++ message')) :
    code' = code ∧ (blanks'.length < blanks.length ∨ blanks' = blanks ∧ message' = message) := by
  have hends : ∀ {code blanks message : List Char}, (∀ c ∈ code, isInlineBlank c = false) →
      IsRun isInlineBlank blanks →
      (code ++ (blanks ++ message)).takeWhile (fun c => !isInlineBlank c) = code := by
    intro code blanks message hcode hblanks
    refine takeWhile_not_append hcode (List.append_ne_nil_of_left_ne_nil hblanks.1 _) fun c hc => ?_
    obtain ⟨d, rest, rfl⟩ := List.exists_cons_of_ne_nil hblanks.1
    obtain rfl : d = c := by simpa using hc
    exact hblanks.2 d List.mem_cons_self
  obtain rfl : code' = code := by
    rw [← hends hcode' hblanks', ← h, hends hcode hblanks]
  refine ⟨rfl, ?_⟩
  have hlater := List.append_cancel_left h
  -- the blanks are all the blanks at the beginning, and the other ones are some of them
  have hmessage : message.takeWhile isInlineBlank = [] := by
    cases message with
    | nil => rfl
    | cons c message => exact List.takeWhile_cons_of_neg (by simp [hstart c rfl])
  have hall : blanks = blanks' ++ message'.takeWhile isInlineBlank := by
    rw [← List.takeWhile_append_of_pos hblanks'.2, ← hlater, List.takeWhile_append_of_pos hblanks.2, hmessage,
      List.append_nil]
  have hlength := congrArg List.length hall
  rw [List.length_append] at hlength
  by_cases hsame : blanks'.length < blanks.length
  · exact Or.inl hsame
  · obtain ⟨hblank, hrest⟩ := List.append_inj hlater (by omega)
    exact Or.inr ⟨hblank.symm, hrest.symm⟩

/-! ## Places -/

/-- **The place of a finding and the text behind it split in one way**, up to how what follows is split. -/
theorem splits_position_iff {labels : String → List Char → Prop} (f : Finding) {lead : String}
    {tail : List Char} (hlead : lead.toList = ':' :: tail) {tokens : List Token} {rest : List Char}
    {segments : List Segment} :
    Splits labels (Catalogue.position ++ .literal lead :: tokens) (f.place.toList ++ lead.toList ++ rest)
        segments ↔
      ∃ later, segments = f.placeSegments ++ ⟨.literal lead, lead.toList⟩ :: later ∧
        Splits labels tokens rest later := by
  rw [f.toList_place]
  simp only [Catalogue.position, List.cons_append, List.nil_append, splits_cons]
  constructor
  · rintro ⟨filename, _, _, rfl, htext, hfilename, _, _, _, rfl, rfl, rfl, line, _, _, rfl, rfl, hline, _, _, _,
      rfl, rfl, rfl, column, _, _, rfl, rfl, hcolumn, _, rest', later, rfl, rfl, rfl, hlater⟩
    have hcolon : (":" : String).toList = [':'] := rfl
    simp only [hcolon, hlead, List.append_assoc, List.cons_append, List.nil_append] at htext
    -- each of the three parts ends in front of the first colon that is left
    obtain ⟨rfl, hbehindFile⟩ := cut_unique (colon_not_mem_run (by decide) f.filename_run)
      (colon_not_mem_run (by decide) hfilename) htext
    obtain ⟨rfl, hbehindLine⟩ := cut_unique (colon_not_mem_digits f.line)
      (colon_not_mem_run (by decide) hline) hbehindFile
    obtain ⟨rfl, hbehindColumn⟩ := cut_unique (colon_not_mem_digits f.column)
      (colon_not_mem_run (by decide) hcolumn) hbehindLine
    obtain rfl := List.append_cancel_left hbehindColumn
    exact ⟨later, rfl, hlater⟩
  · rintro ⟨later, rfl, hlater⟩
    refine ⟨f.filename.toList, _, _, rfl, ?_, f.filename_run, [':'], _, _, rfl, rfl, rfl, digits f.line, _, _,
      rfl, rfl, isRun_digits _, [':'], _, _, rfl, rfl, rfl, digits f.column, _, _, rfl, rfl, isRun_digits _,
      lead.toList, rest, later, rfl, rfl, rfl, hlater⟩
    simp only [List.append_assoc, List.cons_append, List.nil_append]

/-! ## What stands behind a place -/

/-- How a format reads the text behind a place and the colon after it: as segments that are a greatest
split of that text, and that say what the line of a finding carries. -/
structure Finding.ReadBehind (f : Finding) (format : Format) (lead rest : String) (severity : Severity)
    (code : Option String) (later : List Segment) : Prop where
  tokens : format.tokens = Catalogue.position ++ .literal lead :: later.map Segment.token
  splits : Splits MatchesAlone (later.map Segment.token) rest.toList later
  greatest : ∀ others, Splits MatchesAlone (later.map Segment.token) rest.toList others →
    AtMost (lengths others) (lengths later)
  readable : ∀ segment ∈ later, segment.fault? = none ∧ segment.isRefused = false
  plain : ∀ c ∈ rest.toList, isMessageChar c = true
  message : fieldText? .message later = some f.message.toList
  code : fieldText? .code later = code.map String.toList
  severity : ∀ earlier, severityFrom earlier later = some severity

namespace Finding

variable {f : Finding}

theorem isMessageChar_of_mem_place {c : Char} (h : c ∈ f.place.toList) : isMessageChar c = true := by
  rw [f.toList_place] at h
  have hcolon : isMessageChar ':' = true := by decide
  simp only [List.mem_append, List.mem_cons] at h
  rcases h with h | rfl | h | rfl | h
  · exact isMessageChar_of_isFilenameChar (f.filename_run.2 c h)
  · exact hcolon
  · exact isMessageChar_of_mem_digits h
  · exact hcolon
  · exact isMessageChar_of_mem_digits h

/-- The place of a finding is not refused. -/
theorem readable_placeSegments :
    ∀ segment ∈ f.placeSegments, segment.fault? = none ∧ segment.isRefused = false := by
  have hline : Segment.isRefused ⟨.line, digits f.line⟩ = false := by
    rw [Segment.isRefused, Bool.or_eq_false_iff]
    refine ⟨decide_eq_false (length_digits_position f.line_lt), ?_⟩
    rw [numeral_digits, beq_eq_false_iff_ne]
    exact Nat.ne_of_gt f.line_pos
  have hcolumn : Segment.isRefused ⟨.column, digits f.column⟩ = false :=
    decide_eq_false (length_digits_position f.column_lt)
  simp only [placeSegments, List.forall_mem_cons]
  exact ⟨⟨rfl, rfl⟩, ⟨rfl, rfl⟩, ⟨rfl, hline⟩, ⟨rfl, rfl⟩, ⟨rfl, hcolumn⟩, fun _ h => (by cases h)⟩

/-- Segments behind the place of a finding say what the finding says. -/
theorem diagnostic_of_says {format : Format} {lead : String} {later : List Segment} {d : Diagnostic}
    {severity : Severity} {code : Option String}
    (hmeaning : format.Says (f.placeSegments ++ ⟨.literal lead, lead.toList⟩ :: later) d)
    (hmessage : fieldText? .message later = some f.message.toList)
    (hcode : fieldText? .code later = code.map String.toList)
    (hseverity : severityFrom [] (f.placeSegments ++ ⟨.literal lead, lead.toList⟩ :: later) = some severity) :
    d = f.diagnostic severity code := by
  have hfield : ∀ field, field ∈ [Field.message, .code] →
      fieldText? field (f.placeSegments ++ ⟨.literal lead, lead.toList⟩ :: later) =
        fieldText? field later := by
    intro field hfield
    simp only [List.mem_cons, List.not_mem_nil, or_false] at hfield
    rcases hfield with rfl | rfl <;> rfl
  obtain ⟨text, htext, hposition⟩ := hmeaning.line
  have hline : d.line = f.line := by
    obtain rfl : digits f.line = text := Option.some.inj htext
    exact Option.some.inj (hposition.symm.trans (position?_digits f.line_lt))
  have hcolumn : d.column = some f.column := by
    have hread : some (position? (digits f.column)) = d.column.map some := hmeaning.column
    rw [position?_digits f.column_lt] at hread
    obtain ⟨n, hn, hsame⟩ := Option.map_eq_some_iff.mp hread.symm
    rw [hn, Option.some.inj hsame]
  have hfilename : d.filename = f.filename :=
    String.toList_inj.mp (Option.some.inj hmeaning.filename).symm
  have hmessage' : d.message = f.message := by
    refine String.toList_inj.mp (Option.some.inj ?_)
    rw [← hmeaning.message, hfield .message (by decide), hmessage]
  have hcode' : d.code = code := by
    rw [hmeaning.code, hfield .code (by decide), hcode, Option.map_map]
    cases code with
    | none => rfl
    | some code => exact congrArg some (String.ofList_toList)
  have hseverity' : d.severity = severity := by
    rw [hmeaning.severity, hseverity]
    rfl
  have htool : d.tool = none := hmeaning.tool
  -- field by field these are the same diagnostic
  obtain ⟨⟩ := d
  simp only at *
  subst_vars
  rfl

/-- **A line whose end is read is read as a whole.** -/
theorem ReadBehind.apply_eq {format : Format} {pattern : Pattern} {lead rest : String} {severity : Severity}
    {code : Option String} {later : List Segment} (h : f.ReadBehind format lead rest severity code later)
    (hlead : lead = ":" ∨ lead = ": ") (hgreatest : format.GreatestBy pattern) :
    Matcher.apply { format, pattern } (f.place ++ lead ++ rest) =
      .ok (some (f.diagnostic severity code)) := by
  obtain ⟨tail, htail⟩ : ∃ tail, lead.toList = ':' :: tail := by
    rcases hlead with rfl | rfl <;> exact ⟨_, rfl⟩
  have hplain : ∀ c ∈ lead.toList, isMessageChar c = true := by
    rcases hlead with rfl | rfl <;> exact List.all_eq_true.mp rfl
  have htext : matchedText (f.place ++ lead ++ rest).toList = f.place.toList ++ lead.toList ++ rest.toList := by
    rw [String.toList_append, String.toList_append]
    refine matchedText_of_isMessageChar fun c hc => ?_
    rcases List.mem_append.mp hc with hc | hc
    · rcases List.mem_append.mp hc with hc | hc
      · exact isMessageChar_of_mem_place hc
      · exact hplain c hc
    · exact h.plain c hc
  have hiff := @splits_position_iff MatchesAlone f lead tail htail (later.map Segment.token) rest.toList
  rw [← htext, ← h.tokens] at hiff
  -- any other split has the same place and the same lead
  have hothers : ∀ others, Splits MatchesAlone format.tokens (matchedText (f.place ++ lead ++ rest).toList)
      others → AtMost (lengths others)
        (lengths (f.placeSegments ++ ⟨.literal lead, lead.toList⟩ :: later)) := by
    intro others hsplits
    obtain ⟨later', rfl, hlater'⟩ := hiff.mp hsplits
    rw [lengths_append, lengths_append]
    exact ((h.greatest later' hlater').append_left [lead.toList.length]).append_left _
  have hreadable : ∀ segment ∈ f.placeSegments ++ ⟨.literal lead, lead.toList⟩ :: later,
      segment.fault? = none ∧ segment.isRefused = false := by
    simp only [List.forall_mem_append, List.forall_mem_cons]
    exact ⟨readable_placeSegments, ⟨rfl, rfl⟩, h.readable⟩
  obtain ⟨d, happly, hmeaning⟩ := hgreatest.exists_says (hiff.mpr ⟨later, rfl, h.splits⟩) hothers hreadable
  have hseverity : severityFrom [] (f.placeSegments ++ ⟨.literal lead, lead.toList⟩ :: later) = some severity :=
    h.severity _
  rw [happly, diagnostic_of_says hmeaning h.message h.code hseverity]

end Finding

end LintRunner
