import LintRunner.Format.Matcher

/-!
# Compilation

When a format can be compiled, and what its matcher is then. Compiling fails for the first severity
whose word is none, and otherwise exactly if the pattern of the format cannot be read.
-/

set_option autoImplicit false

namespace LintRunner

open Regex Text

/-- A result that is no failure. -/
theorem exists_of_isSome_toOption {ε α : Type} {x : Except ε α} (h : x.toOption.isSome = true) :
    ∃ a, x = .ok a := by
  cases x with
  | ok a => exact ⟨a, rfl⟩
  | error failure => cases h

theorem exists_of_unknownLevel? {tokens : List Token} {failure : Failure}
    (h : unknownLevel? tokens = some failure) :
    ∃ word, .severityFixed (.unknown word) ∈ tokens ∧ failure = .unknownSeverity (quoted word) := by
  fun_induction unknownLevel? tokens with
  | case1 => cases h
  | case2 word rest => exact ⟨word, List.mem_cons_self, (Option.some.inj h).symm⟩
  | case3 token rest _ ih =>
      obtain ⟨word, hword, hfailure⟩ := ih h
      exact ⟨word, List.mem_cons_of_mem _ hword, hfailure⟩

theorem unknownLevel?_eq_none {tokens : List Token} (h : ∀ word, .severityFixed (.unknown word) ∉ tokens) :
    unknownLevel? tokens = none := by
  cases hunknown : unknownLevel? tokens with
  | none => rfl
  | some failure =>
      obtain ⟨word, hword, -⟩ := exists_of_unknownLevel? hunknown
      exact absurd hword (h word)

theorem not_mem_of_unknownLevel?_eq_none {tokens : List Token} (h : unknownLevel? tokens = none)
    (word : String) : .severityFixed (.unknown word) ∉ tokens := by
  fun_induction unknownLevel? tokens with
  | case1 => exact List.not_mem_nil
  | case2 => cases h
  | case3 token rest hother ih =>
      rw [List.mem_cons, not_or]
      exact ⟨fun htoken => hother word htoken.symm, ih h⟩

namespace Format

variable {format : Format}

/-- A format whose levels are known and whose pattern can be read can be compiled. -/
theorem compile_eq {pattern : Pattern} (hlevels : ∀ word, .severityFixed (.unknown word) ∉ format.tokens)
    (hread : Pattern.read format.source = .ok pattern) : format.compile = .ok { format, pattern } := by
  rw [compile, unknownLevel?_eq_none hlevels]
  simp only [hread]

/-- A format that has been compiled has known levels and a pattern that can be read. -/
theorem compile_eq_ok {matcher : Matcher} (h : format.compile = .ok matcher) :
    matcher.format = format ∧ Pattern.read format.source = .ok matcher.pattern := by
  rw [compile] at h
  split at h
  · cases h
  · split at h
    · rename_i pattern hread
      obtain rfl := Except.ok.inj h
      exact ⟨rfl, hread⟩
    all_goals cases h

theorem levels_of_compile {matcher : Matcher} (h : format.compile = .ok matcher) (word : String) :
    .severityFixed (.unknown word) ∉ format.tokens := by
  unfold compile at h
  split at h
  · cases h
  · exact not_mem_of_unknownLevel?_eq_none ‹_› word

/-- The failures of compilation. -/
theorem compile_eq_error {failure : Failure} (h : format.compile = .error failure) :
    (∃ word, .severityFixed (.unknown word) ∈ format.tokens ∧ failure = .unknownSeverity (quoted word)) ∨
      failure = .format (.invalidPattern (String.ofList format.source)) ∨
      (Pattern.read format.source = .error .countTooLarge ∧ failure = .countTooLarge) ∨
      ∃ digits, Pattern.read format.source = .error (.digitLimit digits) ∧
        failure = .digitLimit (some digits) := by
  rw [compile] at h
  split at h
  · rename_i unknown hunknown
    obtain rfl := Except.error.inj h
    exact Or.inl (exists_of_unknownLevel? hunknown)
  · split at h
    · cases h
    · exact Or.inr (Or.inl (Except.error.inj h).symm)
    · rename_i hread
      exact Or.inr (Or.inr (Or.inl ⟨hread, (Except.error.inj h).symm⟩))
    · rename_i digits hread
      exact Or.inr (Or.inr (Or.inr ⟨digits, hread, (Except.error.inj h).symm⟩))

end Format

end LintRunner
