import LintRunner.Listing
import LintRunner.Format.Matcher
import LintRunner.Proofs.Results
import LintRunner.Proofs.Text.Digits

/-!
# Positions that can be written

A matcher refuses positions with more digits than `maxPositionDigits`. So the line and the column of every
diagnostic of a matcher can be written (`Matcher.isWritable_of_apply`), whatever the labels of its format
do to the groups of a match.
-/

set_option autoImplicit false

namespace LintRunner

open Text

theorem Text.isWritable_of_lt {n : Nat} (h : n < 10 ^ maxPositionDigits) : isWritable n = true :=
  isWritable_iff_lt.mpr (Nat.lt_of_lt_of_le h (Nat.pow_le_pow_right (by decide) (by decide)))

theorem positionAt_lt {m : Regex.Match} {index : Nat} {i : Int}
    (h : positionAt m index = .ok (some i)) : i.natAbs < 10 ^ maxPositionDigits := by
  obtain ⟨captured, -, h⟩ := bind_eq_ok.mp h
  cases captured with
  | none => cases h
  | some text =>
      simp only [pure, Except.pure] at h
      split at h
      · cases h
      · rename_i hshort
        have hlt : i.natAbs < 10 ^ text.toList.length := natAbs_integer?_lt (Except.ok.inj h)
        have hmono : 10 ^ text.toList.length ≤ 10 ^ maxPositionDigits :=
          Nat.pow_le_pow_right (by decide) (by rw [String.length_toList]; omega)
        omega

/-- The positions found so far have few digits. -/
structure Fields.Short (fields : Fields) : Prop where
  line : ∀ n, fields.line = some n → n < 10 ^ maxPositionDigits
  column : ∀ i, fields.column = some i → i.natAbs < 10 ^ maxPositionDigits

variable {m : Regex.Match} {index : Nat} {lastMessage : Option String} {fields fields' : Fields}

theorem Fields.Short.fillField {token : Token} (h : fields.Short)
    (hfill : LintRunner.fillField m index lastMessage fields token = .ok (some fields')) :
    fields'.Short := by
  cases token with
  | literal text =>
      obtain rfl : fields = fields' := by simpa [LintRunner.fillField] using hfill
      exact h
  | whitespace =>
      obtain rfl : fields = fields' := by simpa [LintRunner.fillField] using hfill
      exact h
  | filename | code | message =>
      obtain ⟨captured, -, hfill⟩ := bind_eq_ok.mp hfill
      obtain rfl := Option.some.inj (Except.ok.inj hfill)
      exact ⟨h.line, h.column⟩
  | line =>
      obtain ⟨position, hposition, hfill⟩ := bind_eq_ok.mp hfill
      split at hfill
      · rename_i n
        obtain rfl := Option.some.inj (Except.ok.inj hfill)
        refine ⟨fun line hline => ?_, h.column⟩
        obtain rfl := Option.some.inj hline
        exact positionAt_lt hposition
      · cases hfill
  | column =>
      obtain ⟨position, hposition, hfill⟩ := bind_eq_ok.mp hfill
      split at hfill
      · obtain rfl := Option.some.inj (Except.ok.inj hfill)
        refine ⟨h.line, fun column hcolumn => ?_⟩
        obtain rfl := Option.some.inj hcolumn
        exact positionAt_lt hposition
      · cases hfill
  | severityFromMessage source classifier =>
      rw [LintRunner.fillField] at hfill
      split at hfill
      · obtain rfl := Option.some.inj (Except.ok.inj hfill)
        exact ⟨h.line, h.column⟩
      · cases hfill
  | severityFixed level =>
      cases level with
      | known severity =>
          obtain rfl := Option.some.inj (Except.ok.inj hfill)
          exact ⟨h.line, h.column⟩
      | unknown word => cases hfill
  | severityPattern pattern labels classifier =>
      obtain ⟨captured, -, hfill⟩ := bind_eq_ok.mp hfill
      cases captured with
      | none => cases hfill
      | some label =>
          simp only [pure, Except.pure] at hfill
          split at hfill
          · obtain rfl := Option.some.inj (Except.ok.inj hfill)
            exact ⟨h.line, h.column⟩
          · cases hfill

theorem Fields.Short.fillFields {tokens : List Token} (h : fields.Short)
    (hfill : LintRunner.fillFields m index lastMessage fields tokens = .ok (some fields')) :
    fields'.Short := by
  induction tokens generalizing index lastMessage fields with
  | nil =>
      obtain rfl := Option.some.inj (Except.ok.inj hfill)
      exact h
  | cons token rest ih =>
      obtain ⟨filled, hfirst, hfill⟩ := bind_eq_ok.mp hfill
      cases filled with
      | none => cases hfill
      | some next => exact ih (h.fillField hfirst) hfill

/-- A diagnostic has the positions of its fields. -/
theorem Fields.positions_of_diagnostic? {name : String} {fallback : Severity} {d : Diagnostic}
    (h : fields.diagnostic? name fallback = some d) :
    fields.line = some d.line ∧ fields.column = d.column.map Int.ofNat := by
  simp only [Fields.diagnostic?, Option.bind_eq_bind, Option.bind_eq_some_iff] at h
  obtain ⟨filename, -, line, hline, text, -, message, -, h⟩ := h
  cases hcolumn : fields.column with
  | none =>
      simp only [hcolumn, Option.bind_some] at h
      split at h
      · obtain rfl := Option.some.inj h
        exact ⟨hline, rfl⟩
      · cases h
  | some i =>
      cases i with
      | ofNat n =>
          simp only [hcolumn, Option.bind_some] at h
          split at h
          · obtain rfl := Option.some.inj h
            exact ⟨hline, rfl⟩
          · cases h
      | negSucc n => simp [hcolumn] at h

theorem Fields.Short.isWritable {name : String} {fallback : Severity} {d : Diagnostic}
    (h : fields.Short) (hfound : fields.diagnostic? name fallback = some d) : d.isWritable = true := by
  obtain ⟨hline, hcolumn⟩ := positions_of_diagnostic? hfound
  rw [Diagnostic.isWritable, Bool.and_eq_true, Option.all_eq_true]
  refine ⟨isWritable_of_lt (h.line _ hline), fun n hn => isWritable_of_lt ?_⟩
  rw [show d.column = some n from hn] at hcolumn
  exact h.column _ hcolumn

/-- **The positions of a diagnostic of a matcher can be written.** -/
theorem Matcher.isWritable_of_apply {matcher : Matcher} {line : String} {d : Diagnostic}
    (h : matcher.apply line = .ok (some d)) : d.isWritable = true := by
  rw [Matcher.apply] at h
  split at h
  · cases h
  · obtain ⟨filled, hfill, h⟩ := bind_eq_ok.mp h
    cases filled with
    | none => cases h
    | some fields =>
        have hempty : ({} : Fields).Short := ⟨fun _ hline => (by cases hline), fun _ h => (by cases h)⟩
        exact (hempty.fillFields hfill).isWritable (Except.ok.inj h)

end LintRunner
