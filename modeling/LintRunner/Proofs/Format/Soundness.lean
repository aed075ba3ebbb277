import LintRunner.Proofs.Format.Conformance
import LintRunner.Proofs.Severity.Labels

/-!
# Sound matchers

A matcher is sound if every label of its format is a pattern on its own, whatever else is written in it:
every line has an answer (`Matcher.exists_apply`), and every diagnostic is well formed
(`Diagnostic.WellFormed`). A label that is none may close the group that it is put into, and then a
match can lack the group of a position (`splicing_not_total`).
-/

set_option autoImplicit false

namespace LintRunner

open Regex Text

instance decidableEqExcept {ε α : Type} [DecidableEq ε] [DecidableEq α] : DecidableEq (Except ε α)
  | .error a, .error b => decidable_of_iff (a = b) (by simp)
  | .ok a, .ok b => decidable_of_iff (a = b) (by simp)
  | .error _, .ok _ => isFalse nofun
  | .ok _, .error _ => isFalse nofun

/-- The labels of a format are patterns on their own. -/
def Format.LabelsValid (format : Format) : Prop :=
  ∀ label table classifier, .severityPattern label table classifier ∈ format.tokens →
    ∃ alone, Pattern.read label.toList = .ok alone

def Format.LevelsKnown (format : Format) : Prop :=
  (∀ word, .severityFixed (.unknown word) ∉ format.tokens) ∧
    ∀ label table classifier, .severityPattern label table classifier ∈ format.tokens →
      ∀ entry ∈ table, ∃ severity, entry.2 = .known severity

/-! ## Matches -/

/-- A match of a format whose labels are valid splits its text, and its groups hold what the segments
say. -/
theorem Format.exists_segments {format : Format} {matcher : Matcher} {text : List Char}
    {m : Regex.Match} (hvalid : format.LabelsValid) (hcompile : format.compile = .ok matcher)
    (hmatch : matcher.pattern.fullMatch? text = some m) :
    ∃ segments, Splits (fun _ _ => True) matcher.format.tokens text segments ∧ Records m 0 segments := by
  obtain ⟨hformat, hread⟩ := compile_eq_ok hcompile
  obtain ⟨slots, hlayout⟩ := layout_of_read hvalid hread
  rw [hformat]
  exact hlayout.exists_segments (fun _ _ _ _ _ _ _ _ _ _ _ => trivial) hmatch

theorem fault?_eq_none {format : Format} (hlevels : format.LevelsKnown) {segment : Segment}
    (h : segment.token ∈ format.tokens) : segment.fault? = none := by
  obtain ⟨token, text⟩ := segment
  cases token with
  | severityPattern label table classifier =>
      obtain ⟨severity, hseverity⟩ := exists_severityOfLabel
        (hlevels.2 label table classifier h) classifier (String.ofList text)
      simp only [Segment.fault?, hseverity]
  | severityFixed level =>
      cases level with
      | known severity => rfl
      | unknown word => exact absurd h (hlevels.1 word)
  | _ => rfl

/-- **A matcher whose labels are valid and whose levels are known has an answer for every line.** -/
theorem Matcher.exists_apply {format : Format} {matcher : Matcher} (hvalid : format.LabelsValid)
    (hlevels : format.LevelsKnown) (hcompile : format.compile = .ok matcher) (line : String) :
    ∃ result, matcher.apply line = .ok result := by
  cases hmatch : matcher.pattern.fullMatch? (matchedText line.toList) with
  | none => exact ⟨none, by rw [Matcher.apply, hmatch]⟩
  | some m =>
      obtain ⟨segments, hsplits, hrecords⟩ := format.exists_segments hvalid hcompile hmatch
      have hformat := (Format.compile_eq_ok hcompile).1
      obtain ⟨conforms, hverdict⟩ := @exists_verdict segments fun segment hsegment =>
        fault?_eq_none hlevels (hformat ▸ hsplits.mem_tokens hsegment)
      exact ⟨_, by rw [Matcher.apply_eq hmatch hsplits hrecords, hverdict]; rfl⟩

/-- A format whose label looks ahead and does not mind the case of letters. -/
def guardedFormat : Format where
  tokens := [.filename, .literal ":", .line, .literal ":",
    .severityPattern "(?=e)error|(?i:warning)" [] .blanks, .literal ":", .message "message"]
  fallback := .info
  valid := by decide

theorem guardedFormat_labelsValid : guardedFormat.LabelsValid := by
  intro label table classifier hlabel
  simp only [guardedFormat, List.mem_cons, List.not_mem_nil, or_false, reduceCtorEq, false_or,
    Token.severityPattern.injEq] at hlabel
  rw [hlabel.1]
  exact exists_of_isSome_toOption (by decide +kernel)

theorem guardedFormat_levelsKnown : guardedFormat.LevelsKnown := by
  refine ⟨by simp [guardedFormat], fun label table classifier hlabel => ?_⟩
  simp only [guardedFormat, List.mem_cons, List.not_mem_nil, or_false, reduceCtorEq, false_or,
    Token.severityPattern.injEq] at hlabel
  rw [hlabel.2.1]
  simp

theorem guardedFormat_compile : ∃ matcher, guardedFormat.compile = .ok matcher :=
  exists_of_isSome_toOption (by decide +kernel)

theorem guardedFormat_answers : ∃ matcher, guardedFormat.compile = .ok matcher ∧
    ∀ line, ∃ result, matcher.apply line = .ok result := by
  obtain ⟨matcher, hcompile⟩ := guardedFormat_compile
  exact ⟨matcher, hcompile,
    Matcher.exists_apply guardedFormat_labelsValid guardedFormat_levelsKnown hcompile⟩

/-- A format whose label closes the group that it is put into. -/
def splicedFormat : Format where
  tokens := [.severityPattern "a))|(?:(?:b" [] .blanks, .filename, .literal ":", .line, .literal ":",
    .message "message"]
  fallback := .warning
  valid := by decide

/-- Without valid labels a line can have no answer: one that matches without a position. -/
theorem splicing_not_total :
    ¬ ∀ (format : Format) (matcher : Matcher) (line : String), format.LevelsKnown →
      format.compile = .ok matcher → ∃ result, matcher.apply line = .ok result := by
  intro h
  have hlevels : splicedFormat.LevelsKnown := by
    refine ⟨by simp [splicedFormat], fun label table classifier hlabel => ?_⟩
    simp only [splicedFormat, List.mem_cons, List.not_mem_nil, or_false, reduceCtorEq, or_false,
      Token.severityPattern.injEq] at hlabel
    rw [hlabel.2.1]
    simp
  obtain ⟨matcher, hcompile⟩ : ∃ matcher, splicedFormat.compile = .ok matcher :=
    exists_of_isSome_toOption (by decide +kernel)
  have hfails : (splicedFormat.compile.bind fun matcher => matcher.apply "a") =
      .error .absentPosition := by decide +kernel
  have happly : matcher.apply "a" = .error .absentPosition := by rwa [hcompile] at hfails
  obtain ⟨result, hresult⟩ := h splicedFormat matcher "a" hlevels hcompile
  rw [happly] at hresult
  cases hresult

/-! ## Well-formed diagnostics -/

/-- What every diagnostic of a format guarantees. -/
structure Diagnostic.WellFormed (format : Format) (d : Diagnostic) : Prop where
  filename : IsRun isFilenameChar d.filename.toList
  line_pos : 1 ≤ d.line
  line_lt : d.line < 10 ^ 18
  column : d.column.isSome = true ↔ .column ∈ format.tokens
  column_lt : ∀ column, d.column = some column → column < 10 ^ 18
  message : IsRun isMessageChar d.message.toList
  code : ∀ code, d.code = some code → IsCode code.toList
  code_absent : d.code = none → ∀ lead optional, .code lead optional ∈ format.tokens → optional = true

theorem position?_lt {text : List Char} {n : Nat} (h : position? text = some n)
    (hdigits : ∀ c ∈ text, isAsciiDigit c = true) : n < 10 ^ 18 := by
  rw [position?] at h
  split at h
  · cases h
  · rename_i hlen
    obtain rfl := Option.some.inj h
    have hpow : 10 ^ text.length ≤ 10 ^ 18 := Nat.pow_le_pow_right (by decide) (Nat.not_lt.mp hlen)
    exact Nat.lt_of_lt_of_le (numeral_lt hdigits) hpow

def Field.isChar : Field → Char → Bool
  | .filename => isFilenameChar
  | .line | .column => isAsciiDigit
  | .code => isCodeChar
  | .message => isMessageChar

section

variable {format : Format} {segments : List Segment} {text whole : List Char} {field : Field}
  {labels : String → List Char → Prop}

/-- The text of a field is a run of its characters. -/
theorem isRun_of_fieldText? (hsplits : Splits labels format.tokens whole segments)
    (hfield : field ≠ .code) (h : fieldText? field segments = some text) : IsRun field.isChar text := by
  obtain ⟨⟨token, text'⟩, hsegment, htoken, hcaptured⟩ := exists_of_fieldText? h
  have haccepts := hsplits.accepts _ hsegment
  cases token with
  | filename | line | column | message =>
      obtain rfl := Option.some.inj htoken
      obtain rfl := Option.some.inj hcaptured
      exact haccepts
  | code => exact absurd (Option.some.inj htoken).symm hfield
  | _ => cases htoken

/-- The text of a code is an identifier. -/
theorem isCode_of_fieldText? (hsplits : Splits labels format.tokens whole segments)
    (h : fieldText? .code segments = some text) : IsCode text := by
  obtain ⟨⟨token, text'⟩, hsegment, htoken, hcaptured⟩ := exists_of_fieldText? h
  have haccepts := hsplits.accepts _ hsegment
  cases token with
  | code lead optional =>
      simp only [Token.captured?] at hcaptured
      split at hcaptured
      · cases hcaptured
      · rename_i hpresent
        obtain rfl := Option.some.inj hcaptured
        obtain ⟨code, rfl, hcode⟩ | ⟨-, habsent⟩ := haccepts
        · rwa [List.drop_left]
        · exact absurd habsent hpresent
  | _ => cases htoken

/-- A code is absent only if it is optional. -/
theorem optional_of_fieldText? (hsplits : Splits labels format.tokens whole segments)
    (h : fieldText? .code segments = none) {lead : String} {optional : Bool}
    (hmem : .code lead optional ∈ format.tokens) : optional = true := by
  have hvalid := valid_of_layout format.valid
  rw [← hsplits.tokens] at hmem hvalid
  obtain ⟨⟨token, text⟩, hsegment, htoken⟩ := List.mem_map.mp hmem
  obtain rfl : token = .code lead optional := htoken
  have haccepts := hsplits.accepts _ hsegment
  rw [fieldText?_of_mem (hvalid.single .code (by decide)) hsegment rfl] at h
  simp only [Token.captured?, ite_eq_left_iff, reduceCtorEq, imp_false, Decidable.not_not] at h
  subst h
  obtain ⟨code, habsent, c, rest, rfl, -⟩ | ⟨hoptional, -⟩ := haccepts
  · exact absurd (List.append_eq_nil_iff.mp habsent.symm).2 (List.cons_ne_nil c rest)
  · exact hoptional

/-- A column has a text if the format has columns. -/
theorem isSome_column_iff (hsplits : Splits labels format.tokens whole segments) :
    (fieldText? .column segments).isSome = true ↔ .column ∈ format.tokens := by
  have hvalid := valid_of_layout format.valid
  rw [← hsplits.tokens] at hvalid ⊢
  constructor
  · intro hsome
    obtain ⟨digits, hdigits⟩ := Option.isSome_iff_exists.mp hsome
    obtain ⟨⟨token, text⟩, hsegment, hfield, -⟩ := exists_of_fieldText? hdigits
    cases token with
    | column => exact List.mem_map_of_mem hsegment
    | _ => cases hfield
  · intro hmem
    obtain ⟨⟨token, text⟩, hsegment, htoken⟩ := List.mem_map.mp hmem
    obtain rfl : token = .column := htoken
    rw [fieldText?_of_mem (hvalid.single .column (by decide)) hsegment rfl]
    rfl

/-- What a split text says is well formed. -/
theorem Format.Says.wellFormed {d : Diagnostic} (h : format.Says segments d)
    (hsplits : Splits labels format.tokens whole segments) : d.WellFormed format where
  filename := isRun_of_fieldText? hsplits (by decide) h.filename
  line_pos := d.line_pos
  line_lt := by
    obtain ⟨digits, hdigits, hposition⟩ := h.line
    exact position?_lt hposition (isRun_of_fieldText? hsplits (by decide) hdigits).2
  column := by
    rw [← isSome_column_iff hsplits, ← Option.isSome_map (f := some), ← h.column, Option.isSome_map]
  column_lt := by
    intro column hd
    have hsome := h.column
    rw [hd] at hsome
    obtain ⟨digits, hdigits, hposition⟩ := Option.map_eq_some_iff.mp hsome
    exact position?_lt hposition (isRun_of_fieldText? hsplits (by decide) hdigits).2
  message := isRun_of_fieldText? hsplits (by decide) h.message
  code := by
    intro code hd
    rw [h.code] at hd
    obtain ⟨captured, hcode, rfl⟩ := Option.map_eq_some_iff.mp hd
    rw [String.toList_ofList]
    exact isCode_of_fieldText? hsplits hcode
  code_absent := by
    intro hd lead optional hmem
    rw [h.code, Option.map_eq_none_iff] at hd
    exact optional_of_fieldText? hsplits hd hmem

end

/-- **Every diagnostic of a matcher whose labels are valid is well formed.** -/
theorem Matcher.wellFormed_of_apply {format : Format} {matcher : Matcher} {line : String}
    {d : Diagnostic} (hvalid : format.LabelsValid) (hcompile : format.compile = .ok matcher)
    (happly : matcher.apply line = .ok (some d)) : d.WellFormed format ∧ d.tool = none := by
  cases hmatch : matcher.pattern.fullMatch? (matchedText line.toList) with
  | none =>
      rw [apply, hmatch] at happly
      cases happly
  | some m =>
      obtain ⟨segments, hsplits, hrecords⟩ := format.exists_segments hvalid hcompile hmatch
      obtain ⟨rfl, -⟩ := Format.compile_eq_ok hcompile
      rw [apply_eq hmatch hsplits hrecords] at happly
      obtain ⟨conforms, -, hd⟩ : ∃ conforms, verdict segments = .ok conforms ∧
          matcher.format.diagnosticOf? segments = some d := by
        cases hverdict : verdict segments with
        | error failure => rw [hverdict] at happly; cases happly
        | ok conforms => rw [hverdict] at happly; exact ⟨conforms, rfl, Except.ok.inj happly⟩
      have hmeaning := Format.says_of_diagnosticOf? hd
      exact ⟨hmeaning.wellFormed hsplits, hmeaning.tool⟩

end LintRunner
