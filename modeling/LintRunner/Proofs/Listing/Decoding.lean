import LintRunner.Listing
import LintRunner.Proofs.Format.Soundness
import LintRunner.Proofs.Format.Words

/-!
# Reading listings back

A listing of diagnostics can be read back without loss. The lines are the lines that were written
(`splitLines_terminated`); a line with a column is read by one format and a line without by another, each
of which refuses the lines of the other (`listing_decodable`). The colons make the reading unique: none of
the fields before the message holds one.
-/

set_option autoImplicit false

namespace LintRunner

open Regex Text

/-! ## Lines of diagnostics -/

def lineText (d : Diagnostic) : List Char :=
  d.filename.toList ++ ':' :: (digits d.line ++ ':' :: ((d.column.map digits).getD [] ++
    ':' :: (d.severity.name.toList ++ ':' :: d.message.toList)))

theorem toList_asLine (d : Diagnostic) : d.asLine.toList = lineText d := by
  have hnumber : ∀ n, (numberText n).toList = digits n := fun n => String.toList_ofList
  have hcolumn : ((d.column.map numberText).getD "").toList = (d.column.map digits).getD [] := by
    cases d.column with
    | none => rfl
    | some n => exact hnumber n
  rw [Diagnostic.asLine, lineText]
  simp only [String.toList_append, hnumber, hcolumn, List.append_assoc]
  rfl

/-- What can be written as a line and read back. -/
structure Diagnostic.Writable (d : Diagnostic) : Prop where
  filename : IsRun isFilenameChar d.filename.toList
  line : d.line < 10 ^ 18
  column : ∀ column, d.column = some column → column < 10 ^ 18
  message : IsRun isMessageChar d.message.toList

/-- What a matcher makes of a line if the labels of its format are valid. -/
def Diagnostic.Produced (d : Diagnostic) : Prop :=
  ∃ (format : Format) (matcher : Matcher) (line : String), format.LabelsValid ∧
    format.compile = .ok matcher ∧ matcher.apply line = .ok (some d)

theorem Diagnostic.Produced.writable {d : Diagnostic} (h : d.Produced) : d.Writable := by
  obtain ⟨format, matcher, line, hvalid, hcompile, happly⟩ := h
  have hwell := (Matcher.wellFormed_of_apply hvalid hcompile happly).1
  exact ⟨hwell.filename, hwell.line_lt, hwell.column_lt, hwell.message⟩

/-! ## Characters -/

theorem isMessageChar_of_isFilenameChar {c : Char} (h : isFilenameChar c = true) :
    isMessageChar c = true :=
  isMessageChar_of_accepts (by decide) (by decide) (by decide) h

theorem isMessageChar_of_isAsciiDigit {c : Char} (h : isAsciiDigit c = true) :
    isMessageChar c = true :=
  isMessageChar_of_accepts (by decide) (by decide) (by decide) h

theorem isMessageChar_of_mem_digits {n : Nat} {c : Char} (h : c ∈ digits n) :
    isMessageChar c = true :=
  isMessageChar_of_isAsciiDigit (isAsciiDigit_of_mem_digits h)

/-- The line of a diagnostic that can be written holds no end of a line and no NUL. -/
theorem isMessageChar_of_mem_lineText {d : Diagnostic} (h : d.Writable) :
    ∀ c ∈ lineText d, isMessageChar c = true := by
  have hcolon : isMessageChar ':' = true := by decide
  have hseverity : ∀ severity : Severity, severity.name.toList.all isMessageChar = true := by
    intro severity
    cases severity <;> decide
  have hcolumn : ∀ c ∈ (d.column.map digits).getD [], isMessageChar c = true := by
    cases d.column with
    | none => exact fun c hc => (by cases hc)
    | some n => exact fun c hc => isMessageChar_of_mem_digits hc
  simp only [lineText, List.forall_mem_append, List.forall_mem_cons]
  exact ⟨fun c hc => isMessageChar_of_isFilenameChar (h.filename.2 c hc), hcolon,
    fun c hc => isMessageChar_of_mem_digits hc, hcolon, hcolumn, hcolon,
    List.all_eq_true.mp (hseverity d.severity), hcolon,
    h.message.2⟩

/-- A text without ends of lines and NUL is matched as a whole. -/
theorem matchedText_of_isMessageChar {text : List Char} (h : ∀ c ∈ text, isMessageChar c = true) :
    matchedText text = text := by
  have hnone : ∀ c ∈ ['\r', '\n', '\x00'], c ∉ text := by
    intro c hc hmem
    have hnot := h c hmem
    rw [isMessageChar, List.contains_iff_mem.mpr hc] at hnot
    cases hnot
  rw [matchedText, dropFinal_of_not_mem (hnone '\n' (by decide)),
    dropFinal_of_not_mem (hnone '\r' (by decide))]
  exact (upTo_iff.mp ⟨hnone '\x00' (by decide), Or.inl rfl⟩).symm

/-! ## The formats of lines -/

def severityWords : String := "info|warning|error"

def severityLabel : Token := .severityPattern severityWords [] .blanks

def columnFormat : Format where
  tokens := [.filename, .literal ":", .line, .literal ":", .column, .literal ":", severityLabel,
    .literal ":", .message "message"]
  fallback := .warning
  valid := by decide

def lineFormat : Format where
  tokens := [.filename, .literal ":", .line, .literal "::", severityLabel, .literal ":",
    .message "message"]
  fallback := .warning
  valid := by decide

def severityTree : Node :=
  .ofList [.alt (.ofList (literalNodes "info".toList))
    (.alt (.ofList (literalNodes "warning".toList)) (.ofList (literalNodes "error".toList)))]

theorem read_severityWords :
    Pattern.read severityWords.toList = .ok { node := severityTree, names := [] } := by
  decide +kernel

theorem isRegularText_severityWords : isRegularText severityWords.toList = true := by
  decide +kernel

theorem choice_severityWords :
    Choice severityWords ["info".toList, "warning".toList, "error".toList] :=
  Choice.ofWords isRegularText_severityWords (List.cons_ne_nil _ _) read_severityWords (by decide)

/-- The pattern of the words for severities matches exactly these words. -/
theorem matchesAlone_severityWords (text : List Char) :
    MatchesAlone severityWords text ↔ ∃ severity : Severity, text = severity.name.toList := by
  rw [choice_severityWords.matchesAlone_iff]
  constructor
  · intro h
    simp only [List.mem_cons, List.not_mem_nil, or_false] at h
    rcases h with rfl | rfl | rfl
    · exact ⟨.info, rfl⟩
    · exact ⟨.warning, rfl⟩
    · exact ⟨.error, rfl⟩
  · rintro ⟨severity, rfl⟩
    cases severity <;> decide

/-! ## Unique reading -/

/-- The first colon of a text is where it is. -/
theorem cut_unique {c : Char} {a b x y : List Char} (ha : c ∉ a) (hb : c ∉ b)
    (h : a ++ c :: x = b ++ c :: y) : a = b ∧ x = y := by
  have hbefore : ∀ {a x : List Char}, c ∉ a → a = (a ++ c :: x).takeWhile (· != c) :=
    fun ha => upTo_iff.mp ⟨ha, Or.inr ⟨_, rfl⟩⟩
  obtain rfl : a = b := (hbefore ha).trans (h ▸ (hbefore hb).symm)
  exact ⟨rfl, (List.cons.inj (List.append_cancel_left h)).2⟩

theorem colon_not_mem_digits (n : Nat) : ':' ∉ digits n := fun h => by
  cases isAsciiDigit_of_mem_digits h

theorem colon_not_mem_column (d : Diagnostic) : ':' ∉ (d.column.map digits).getD [] := by
  cases d.column with
  | none => exact List.not_mem_nil
  | some n => exact colon_not_mem_digits n

theorem colon_not_mem_run {p : Char → Bool} (hp : p ':' = false) {text : List Char} (h : IsRun p text) :
    ':' ∉ text := fun hmem => by
  rw [h.2 ':' hmem] at hp
  cases hp

theorem colon_not_mem_name (severity : Severity) : ':' ∉ severity.name.toList := by
  cases severity <;> decide

/-- The fields in front of the severity, and what follows them. -/
theorem fields_unique {d : Diagnostic} (hd : d.Writable) {filename line rest : List Char}
    (hfilename : IsRun isFilenameChar filename) (hline : IsRun isAsciiDigit line)
    (h : lineText d = filename ++ ':' :: (line ++ ':' :: rest)) :
    filename = d.filename.toList ∧ line = digits d.line ∧
      rest = (d.column.map digits).getD [] ++ ':' :: (d.severity.name.toList ++ ':' :: d.message.toList) := by
  obtain ⟨hfile, hlater⟩ := cut_unique (colon_not_mem_run (by decide) hd.filename)
    (colon_not_mem_run (by decide) hfilename) h
  obtain ⟨hnumber, hrest⟩ := cut_unique (colon_not_mem_digits d.line)
    (colon_not_mem_run (by decide) hline) hlater
  exact ⟨hfile.symm, hnumber.symm, hrest.symm⟩

/-- The severity and the message. -/
theorem severity_unique {d : Diagnostic} {word message : List Char} (hword : MatchesAlone severityWords word)
    (h : d.severity.name.toList ++ ':' :: d.message.toList = word ++ ':' :: message) :
    word = d.severity.name.toList ∧ message = d.message.toList := by
  obtain ⟨severity, rfl⟩ := (matchesAlone_severityWords word).mp hword
  obtain ⟨hname, hmessage⟩ := cut_unique (colon_not_mem_name _) (colon_not_mem_name _) h
  exact ⟨hname.symm, hmessage.symm⟩

def columnSegments (d : Diagnostic) (column : Nat) : List Segment :=
  [⟨.filename, d.filename.toList⟩, ⟨.literal ":", [':']⟩, ⟨.line, digits d.line⟩, ⟨.literal ":", [':']⟩,
    ⟨.column, digits column⟩, ⟨.literal ":", [':']⟩, ⟨severityLabel, d.severity.name.toList⟩,
    ⟨.literal ":", [':']⟩, ⟨.message "message", d.message.toList⟩]

def lineSegments (d : Diagnostic) : List Segment :=
  [⟨.filename, d.filename.toList⟩, ⟨.literal ":", [':']⟩, ⟨.line, digits d.line⟩,
    ⟨.literal "::", [':', ':']⟩, ⟨severityLabel, d.severity.name.toList⟩, ⟨.literal ":", [':']⟩,
    ⟨.message "message", d.message.toList⟩]

theorem isRun_digits (n : Nat) : IsRun isAsciiDigit (digits n) :=
  ⟨digits_ne_nil n, fun _ hc => isAsciiDigit_of_mem_digits hc⟩

/-- A line splits with a column exactly if it has one, and then in one way. -/
theorem splits_columnFormat_iff {d : Diagnostic} (hd : d.Writable) {segments : List Segment} :
    Splits MatchesAlone columnFormat.tokens (lineText d) segments ↔
      ∃ column, d.column = some column ∧ segments = columnSegments d column := by
  constructor
  · intro h
    simp only [columnFormat, splits_cons, splits_nil] at h
    obtain ⟨filename, _, _, rfl, htext, hfilename, _, _, _, rfl, rfl, rfl, line, _, _, rfl, rfl, hline,
      _, _, _, rfl, rfl, rfl, column, _, _, rfl, rfl, hcolumn, _, _, _, rfl, rfl, rfl, word, _, _, rfl,
      rfl, hword, _, _, _, rfl, rfl, rfl, message, _, _, rfl, rfl, hmessage, rfl, rfl⟩ := h
    rw [List.append_nil] at htext
    -- a colon ends each of the first fields, since there is none in a path or a number
    obtain ⟨rfl, rfl, hrest⟩ := fields_unique hd hfilename hline htext
    obtain ⟨hposition, hlater⟩ := cut_unique (colon_not_mem_run (by decide) hcolumn)
      (colon_not_mem_column d) hrest
    obtain ⟨rfl, rfl⟩ := severity_unique hword hlater.symm
    cases hd : d.column with
    | none =>
        rw [hd] at hposition
        exact absurd hposition hcolumn.1
    | some n =>
        rw [hd] at hposition
        obtain rfl : column = digits n := hposition
        exact ⟨n, rfl, rfl⟩
  · rintro ⟨column, hcolumn, rfl⟩
    refine ⟨rfl, ?_, ?_⟩
    · rw [lineText, hcolumn]
      simp [columnSegments]
    · simp only [columnSegments, List.forall_mem_cons]
      exact ⟨hd.filename, rfl, isRun_digits _, rfl, isRun_digits _, rfl,
        (matchesAlone_severityWords _).mpr ⟨d.severity, rfl⟩, rfl, hd.message, fun _ h => (by cases h)⟩

/-- A line splits without a column exactly if it has none, and then in one way. -/
theorem splits_lineFormat_iff {d : Diagnostic} (hd : d.Writable) {segments : List Segment} :
    Splits MatchesAlone lineFormat.tokens (lineText d) segments ↔
      d.column = none ∧ segments = lineSegments d := by
  constructor
  · intro h
    simp only [lineFormat, splits_cons, splits_nil] at h
    obtain ⟨filename, _, _, rfl, htext, hfilename, _, _, _, rfl, rfl, rfl, line, _, _, rfl, rfl, hline,
      _, _, _, rfl, rfl, rfl, word, _, _, rfl, rfl, hword, _, _, _, rfl, rfl, rfl, message, _, _, rfl,
      rfl, hmessage, rfl, rfl⟩ := h
    rw [List.append_nil] at htext
    obtain ⟨rfl, rfl, hrest⟩ := fields_unique hd hfilename hline htext
    cases hcolumn : d.column with
    | some n =>
        -- a digit would have to be the second of the two colons
        rw [hcolumn] at hrest
        obtain ⟨c, rest, hdigits⟩ := List.exists_cons_of_ne_nil (digits_ne_nil n)
        rw [Option.map_some, Option.getD_some, hdigits] at hrest
        obtain rfl : ':' = c := (List.cons.inj hrest).1
        exact absurd (hdigits ▸ List.mem_cons_self) (colon_not_mem_digits n)
    | none =>
        rw [hcolumn] at hrest
        obtain ⟨rfl, rfl⟩ := severity_unique hword (List.cons.inj hrest).2.symm
        exact ⟨rfl, rfl⟩
  · rintro ⟨hcolumn, rfl⟩
    refine ⟨rfl, ?_, ?_⟩
    · rw [lineText, hcolumn]
      simp [lineSegments]
    · simp only [lineSegments, List.forall_mem_cons]
      exact ⟨hd.filename, rfl, isRun_digits _, rfl,
        (matchesAlone_severityWords _).mpr ⟨d.severity, rfl⟩, rfl, hd.message, fun _ h => (by cases h)⟩

/-! ## Reading back -/

/-- Two diagnostics say the same, whatever their codes and tools. -/
structure Diagnostic.SameFinding (a b : Diagnostic) : Prop where
  filename : a.filename = b.filename
  line : a.line = b.line
  column : a.column = b.column
  severity : a.severity = b.severity
  message : a.message = b.message

theorem Diagnostic.SameFinding.trans {a b c : Diagnostic} (h : a.SameFinding b)
    (h' : b.SameFinding c) : a.SameFinding c :=
  ⟨h.filename.trans h'.filename, h.line.trans h'.line, h.column.trans h'.column,
    h.severity.trans h'.severity, h.message.trans h'.message⟩

theorem Diagnostic.SameFinding.symm {a b : Diagnostic} (h : a.SameFinding b) : b.SameFinding a :=
  ⟨h.filename.symm, h.line.symm, h.column.symm, h.severity.symm, h.message.symm⟩

theorem length_digits_position {n : Nat} (h : n < 10 ^ 18) : ¬ maxPositionDigits < (digits n).length :=
  Nat.not_lt.mpr (length_digits_le (by decide) h)

theorem position?_digits {n : Nat} (h : n < 10 ^ 18) : position? (digits n) = some n := by
  rw [position?, if_neg (length_digits_position h), numeral_digits]

theorem severityOfLabel_name (severity : Severity) :
    severityOfLabel [] .blanks (String.ofList severity.name.toList) = .ok severity := by
  cases severity <;> decide +kernel

theorem sameFinding_of_says {format : Format} {segments : List Segment} {d read : Diagnostic}
    (hmeaning : format.Says segments read) (hd : d.Writable)
    (hfilename : fieldText? .filename segments = some d.filename.toList)
    (hline : fieldText? .line segments = some (digits d.line))
    (hmessage : fieldText? .message segments = some d.message.toList)
    (hcolumn : fieldText? .column segments = d.column.map digits)
    (hseverity : severityFrom [] segments = some d.severity) : read.SameFinding d where
  filename := String.toList_inj.mp (Option.some.inj (hmeaning.filename.symm.trans hfilename))
  line := by
    obtain ⟨text, htext, hposition⟩ := hmeaning.line
    obtain rfl := Option.some.inj (htext.symm.trans hline)
    exact Option.some.inj (hposition.symm.trans (position?_digits hd.line))
  column := by
    have hread := hmeaning.column
    rw [hcolumn, Option.map_map] at hread
    cases hwhere : d.column with
    | none =>
        rw [hwhere] at hread
        exact Option.map_eq_none_iff.mp hread.symm
    | some n =>
        rw [hwhere, Option.map_some, Function.comp, position?_digits (hd.column n hwhere)] at hread
        obtain ⟨n', hn', hsame⟩ := Option.map_eq_some_iff.mp hread.symm
        rw [hn', Option.some.inj hsame]
  severity := by rw [hmeaning.severity, hseverity]; rfl
  message := String.toList_inj.mp (Option.some.inj (hmeaning.message.symm.trans hmessage))

/-- The segments of a line cause no failure, and none of them is refused. -/
theorem readable_of_writable {d : Diagnostic} (hd : d.Writable) :
    (∀ segment ∈ lineSegments d, segment.fault? = none ∧ segment.isRefused = false) ∧
      ∀ column, d.column = some column →
        ∀ segment ∈ columnSegments d column, segment.fault? = none ∧ segment.isRefused = false := by
  have hline : Segment.isRefused ⟨.line, digits d.line⟩ = false := by
    rw [Segment.isRefused, Bool.or_eq_false_iff]
    refine ⟨decide_eq_false (length_digits_position hd.line), ?_⟩
    rw [numeral_digits, beq_eq_false_iff_ne]
    exact Nat.ne_of_gt d.line_pos
  have hword : Segment.fault? ⟨severityLabel, d.severity.name.toList⟩ = none := by
    simp only [severityLabel, Segment.fault?, severityOfLabel_name]
  refine ⟨?_, fun column hcolumn => ?_⟩
  · simp only [lineSegments, List.forall_mem_cons]
    exact ⟨⟨rfl, rfl⟩, ⟨rfl, rfl⟩, ⟨rfl, hline⟩, ⟨rfl, rfl⟩, ⟨hword, rfl⟩, ⟨rfl, rfl⟩, ⟨rfl, rfl⟩,
      fun _ h => (by cases h)⟩
  · have hposition : Segment.isRefused ⟨.column, digits column⟩ = false :=
      decide_eq_false (length_digits_position (hd.column column hcolumn))
    simp only [columnSegments, List.forall_mem_cons]
    exact ⟨⟨rfl, rfl⟩, ⟨rfl, rfl⟩, ⟨rfl, hline⟩, ⟨rfl, rfl⟩, ⟨rfl, hposition⟩, ⟨rfl, rfl⟩, ⟨hword, rfl⟩,
      ⟨rfl, rfl⟩, ⟨rfl, rfl⟩, fun _ h => (by cases h)⟩

/-- The severity of the word for it. -/
theorem severity?_label (severity : Severity) (earlier : List Segment) :
    Segment.severity? earlier ⟨severityLabel, severity.name.toList⟩ = some severity := by
  show (severityOfLabel [] .blanks (String.ofList severity.name.toList)).toOption = some severity
  rw [severityOfLabel_name]
  rfl

theorem matchedText_asLine {d : Diagnostic} (hd : d.Writable) :
    matchedText d.asLine.toList = lineText d := by
  rw [toList_asLine, matchedText_of_isMessageChar (isMessageChar_of_mem_lineText hd)]

/-- A line that splits in one way is read as it splits. -/
theorem exists_read {format : Format} {pattern : Pattern} {d : Diagnostic} {segments : List Segment}
    (hd : d.Writable) (hmatched : format.MatchedBy pattern)
    (honly : ∀ others, Splits MatchesAlone format.tokens (lineText d) others ↔ others = segments)
    (hreadable : ∀ segment ∈ segments, segment.fault? = none ∧ segment.isRefused = false) :
    ∃ read, Matcher.apply { format, pattern } d.asLine = .ok (some read) ∧ format.Says segments read := by
  obtain ⟨m, hmatch⟩ := Option.isSome_iff_exists.mp
    ((hmatched.isSome_iff (lineText d)).mpr ⟨segments, (honly segments).mpr rfl⟩)
  obtain ⟨others, hsplits, hrecords⟩ := hmatched.reads (lineText d) m hmatch
  obtain rfl := (honly others).mp hsplits
  rw [← matchedText_asLine hd] at hmatch hsplits
  exact Matcher.exists_says hmatch hsplits hrecords (fun segment h => (hreadable segment h).1)
    fun segment h => (hreadable segment h).2

/-- A format that has no severity but the word for one can be compiled. -/
theorem exists_matchedBy_of_severityLabel {format : Format}
    (h : ∀ token ∈ format.tokens, token.isSeverity = true → token = severityLabel) :
    ∃ pattern, format.compile = .ok { format, pattern } ∧ format.MatchedBy pattern := by
  refine Format.exists_matchedBy (fun label table classifier hmem => ?_) fun word hword => ?_
  · obtain ⟨rfl, -, -⟩ := Token.severityPattern.inj (h _ hmem rfl)
    exact ⟨isRegularText_severityWords, _, read_severityWords⟩
  · cases h _ hword rfl

/-- A diagnostic with a column is read back by the one format and refused by the other. -/
theorem read_of_column {columnPattern linePattern : Pattern} {d : Diagnostic} {column : Nat}
    (hd : d.Writable) (hcolumn : d.column = some column) (hmatched : columnFormat.MatchedBy columnPattern)
    (hother : lineFormat.MatchedBy linePattern) :
    (∃ read, Matcher.apply { format := columnFormat, pattern := columnPattern } d.asLine
        = .ok (some read) ∧ read.SameFinding d) ∧
      Matcher.apply { format := lineFormat, pattern := linePattern } d.asLine = .ok none := by
  have honly : ∀ others, Splits MatchesAlone columnFormat.tokens (lineText d) others ↔
      others = columnSegments d column := by
    intro others
    rw [splits_columnFormat_iff hd, hcolumn]
    simp
  obtain ⟨read, happly, hmeaning⟩ :=
    exists_read hd hmatched honly ((readable_of_writable hd).2 column hcolumn)
  have hseverity : severityFrom [] (columnSegments d column) = some d.severity :=
    severityFrom_of_mem (valid_of_layout columnFormat.valid)
      (show ⟨severityLabel, d.severity.name.toList⟩ ∈ columnSegments d column by simp [columnSegments])
      rfl (severity?_label d.severity)
  refine ⟨⟨read, happly, sameFinding_of_says hmeaning hd rfl rfl rfl (by rw [hcolumn]; rfl) hseverity⟩,
    Matcher.apply_of_unsplit hother fun segments h => ?_⟩
  rw [matchedText_asLine hd, splits_lineFormat_iff hd, hcolumn] at h
  cases h.1

/-- A diagnostic without a column is read back by the other format and refused by the first. -/
theorem read_of_no_column {columnPattern linePattern : Pattern} {d : Diagnostic} (hd : d.Writable)
    (hcolumn : d.column = none) (hmatched : lineFormat.MatchedBy linePattern)
    (hother : columnFormat.MatchedBy columnPattern) :
    (∃ read, Matcher.apply { format := lineFormat, pattern := linePattern } d.asLine
        = .ok (some read) ∧ read.SameFinding d) ∧
      Matcher.apply { format := columnFormat, pattern := columnPattern } d.asLine = .ok none := by
  have honly : ∀ others, Splits MatchesAlone lineFormat.tokens (lineText d) others ↔
      others = lineSegments d := by
    intro others
    rw [splits_lineFormat_iff hd]
    exact and_iff_right hcolumn
  obtain ⟨read, happly, hmeaning⟩ := exists_read hd hmatched honly (readable_of_writable hd).1
  have hseverity : severityFrom [] (lineSegments d) = some d.severity :=
    severityFrom_of_mem (valid_of_layout lineFormat.valid)
      (show ⟨severityLabel, d.severity.name.toList⟩ ∈ lineSegments d by simp [lineSegments])
      rfl (severity?_label d.severity)
  refine ⟨⟨read, happly, sameFinding_of_says hmeaning hd rfl rfl rfl (by rw [hcolumn]; rfl) hseverity⟩,
    Matcher.apply_of_unsplit hother fun segments h => ?_⟩
  rw [matchedText_asLine hd, splits_columnFormat_iff hd, hcolumn] at h
  obtain ⟨column, hsome, -⟩ := h
  cases hsome

/-- **A listing can be read back without loss.** Diagnostics that matchers have made are listed in lines
that are told apart again. Two formats read the lines: one those with a column, the other those
without, and each refuses the lines of the other. So the line decides what the diagnostic says. -/
theorem listing_decodable :
    (∀ ds : List Diagnostic, (∀ d ∈ ds, d.Produced) →
      splitLines (terminated (ds.map fun d => d.asLine.toList)) = ds.map fun d => d.asLine.toList) ∧
    (∃ withColumn withoutColumn : Matcher,
      columnFormat.compile = .ok withColumn ∧ lineFormat.compile = .ok withoutColumn ∧
      ∀ d : Diagnostic, d.Produced →
        (d.column.isSome = true →
          (∃ read, withColumn.apply d.asLine = .ok (some read) ∧ read.SameFinding d) ∧
            withoutColumn.apply d.asLine = .ok none) ∧
        (d.column = none →
          (∃ read, withoutColumn.apply d.asLine = .ok (some read) ∧ read.SameFinding d) ∧
            withColumn.apply d.asLine = .ok none)) ∧
    ∀ a b : Diagnostic, a.Produced → b.Produced → a.asLine = b.asLine → a.SameFinding b := by
  obtain ⟨columnPattern, hcolumnCompile, hcolumn⟩ :=
    @exists_matchedBy_of_severityLabel columnFormat (by decide)
  obtain ⟨linePattern, hlineCompile, hline⟩ :=
    @exists_matchedBy_of_severityLabel lineFormat (by decide)
  refine ⟨fun ds hds => splitLines_terminated fun line hmem => ?_,
    ⟨_, _, hcolumnCompile, hlineCompile, fun d hd => ⟨fun hsome => ?_, fun hnone => ?_⟩⟩,
    fun a b ha hb hsame => ?_⟩
  · obtain ⟨d, hd, rfl⟩ := List.mem_map.mp hmem
    have hchars := isMessageChar_of_mem_lineText (hds d hd).writable
    rw [toList_asLine]
    exact ⟨fun h => absurd (hchars _ h) (by decide), fun h => absurd (hchars _ h) (by decide)⟩
  · obtain ⟨column, hwhere⟩ := Option.isSome_iff_exists.mp hsome
    exact read_of_column hd.writable hwhere hcolumn hline
  · exact read_of_no_column hd.writable hnone hline hcolumn
  · -- both are read back from the same line, and by the same format
    have hread : ∀ {d : Diagnostic}, d.Produced → ∃ read,
        (Matcher.apply { format := columnFormat, pattern := columnPattern } d.asLine = .ok (some read) ∨
          Matcher.apply { format := columnFormat, pattern := columnPattern } d.asLine = .ok none ∧
          Matcher.apply { format := lineFormat, pattern := linePattern } d.asLine = .ok (some read)) ∧
        read.SameFinding d := by
      intro d hd
      cases hwhere : d.column with
      | some column =>
          obtain ⟨⟨read, happly, hfinding⟩, -⟩ := read_of_column hd.writable hwhere hcolumn hline
          exact ⟨read, Or.inl happly, hfinding⟩
      | none =>
          obtain ⟨⟨read, happly, hfinding⟩, hrefused⟩ :=
            read_of_no_column hd.writable hwhere hline hcolumn
          exact ⟨read, Or.inr ⟨hrefused, happly⟩, hfinding⟩
    obtain ⟨read, hreadA, hfindingA⟩ := hread ha
    obtain ⟨read', hreadB, hfindingB⟩ := hread hb
    rw [hsame] at hreadA
    obtain rfl : read = read' := by
      rcases hreadA with hA | ⟨hA, hA'⟩ <;> rcases hreadB with hB | ⟨hB, hB'⟩
      · exact Option.some.inj (Except.ok.inj (hA.symm.trans hB))
      · cases Except.ok.inj (hA.symm.trans hB)
      · cases Except.ok.inj (hA.symm.trans hB)
      · exact Option.some.inj (Except.ok.inj (hA'.symm.trans hB'))
    exact hfindingA.symm.trans hfindingB

def colonFinding : Diagnostic where
  filename := "a.c"
  line := 12
  message := "x: y"
  severity := .warning
  line_pos := by decide

theorem colonFinding_produced : colonFinding.Produced := by
  obtain ⟨matcher, hcompile⟩ : ∃ matcher, colonFormat.compile = .ok matcher :=
    exists_of_isSome_toOption (by decide +kernel)
  have happly : (colonFormat.compile.bind fun matcher => matcher.apply "a.c:12:x: y") =
      .ok (some colonFinding) := by decide +kernel
  refine ⟨colonFormat, matcher, "a.c:12:x: y", fun label table classifier h => ?_, hcompile, ?_⟩
  · simp [colonFormat] at h
  · rwa [hcompile] at happly

theorem colonFinding_decodable :
    splitLines (terminated [colonFinding.asLine.toList, colonFinding.asLine.toList]) =
        [colonFinding.asLine.toList, colonFinding.asLine.toList] ∧
      ∃ matcher read, lineFormat.compile = .ok matcher ∧
        matcher.apply colonFinding.asLine = .ok (some read) ∧ read.SameFinding colonFinding := by
  obtain ⟨hlines, ⟨_, matcher, -, hcompile, hread⟩, -⟩ := listing_decodable
  obtain ⟨⟨read, happly, hfinding⟩, -⟩ := (hread colonFinding colonFinding_produced).2 rfl
  refine ⟨hlines [colonFinding, colonFinding] fun d hd => ?_, matcher, read, hcompile, happly, hfinding⟩
  simp only [List.mem_cons, List.not_mem_nil, or_false, or_self] at hd
  exact hd ▸ colonFinding_produced

end LintRunner
