import Mathlib.Data.List.Infix
import LintRunner.Proofs.Text.Case

/-!
# Lower case and ASCII

Lower case makes an ASCII letter out of that letter and its capital, and out of two more characters: the
Kelvin sign becomes a `k`, and the capital I with a dot becomes an `i` with a dot above behind it. So what
is no letter can be skipped before a text is put in lower case as well as afterwards
(`dropWhile_lowerAfter`), and a word without these traps begins a text in lower case if and only if it
begins the text itself, the case of ASCII letters aside (`prefix_lowerAfter_iff`).
-/

set_option autoImplicit false

namespace LintRunner.Text

variable {before after cs word : List Char} {c d : Char}

/-! ## Characters -/

def kelvin : Char := '\u212a'

/-- Whether an entry of the table of lower case stays out of ASCII, but for the capitals of ASCII and the
Kelvin sign. -/
def sparesAscii : Nat × Nat × Nat × Int → Bool
  | (first, last, _, shift) =>
      128 ≤ first + shift || last < 128 || first == kelvin.toNat && last == kelvin.toNat

theorem sparesAscii_lower : Table.lower.all sparesAscii = true := by
  decide +kernel

/-- What holds of the first 128 code points holds of the characters of ASCII. -/
theorem of_forall_lt {P : Char → Prop} (h : ∀ n < 128, P (Char.ofNat n)) (hc : c.toNat < 128) : P c := by
  have hP := h c.toNat hc
  rwa [Char.ofNat_toNat] at hP

theorem lowerChar_of_lt (h : c.toNat < 128) : lowerChar c = asciiLower c :=
  of_forall_lt (P := fun c => lowerChar c = asciiLower c) (by decide +kernel) h

theorem lowerBetween_of_lt (h : c.toNat < 128) (before after : List Char) :
    lowerBetween before c after = [asciiLower c] := by
  have hsigma : c ≠ 'Σ' := by
    rintro rfl
    exact absurd h (by decide)
  have hdotted : c ≠ 'İ' := by
    rintro rfl
    exact absurd h (by decide)
  simp [lowerBetween, hsigma, hdotted, lowerChar_of_lt h]

theorem asciiLower_of_le (h : 128 ≤ c.toNat) : asciiLower c = c := by
  have hnot : ¬ c ≤ 'Z' := by
    intro hle
    have : c.toNat ≤ 90 := hle
    omega
  simp [asciiLower, hnot]

/-- What is in ASCII without capitals was so before, capitals aside. -/
theorem lt_of_asciiLower_lt (h : (asciiLower c).toNat < 128) : c.toNat < 128 := by
  by_contra hge
  rw [asciiLower_of_le (by omega)] at h
  exact hge h

/-- A character that becomes one of ASCII in lower case is one of ASCII, or the Kelvin sign or the capital
I with a dot. -/
theorem lowerChar_of_lowerChar_lt (h : (lowerChar c).toNat < 128) :
    lowerChar c = asciiLower c ∨ c = kelvin ∨ c = 'İ' := by
  by_cases hc : c.toNat < 128
  · exact Or.inl (lowerChar_of_lt hc)
  · by_cases hdotted : c = 'İ'
    · exact Or.inr (Or.inr hdotted)
    · have hlower : lowerChar c = Char.ofNat (shiftIn Table.lower c.toNat) := by
        rw [lowerChar, if_neg (by simpa using hdotted)]
      have hmoved : shiftIn Table.lower c.toNat ≠ c.toNat := by
        intro hsame
        rw [hlower, hsame, Char.ofNat_toNat] at h
        exact hc h
      -- so it is mapped by an entry of the table, whose images are known
      obtain ⟨first, last, step, shift, hmem, hfirst, hlast, -, heq⟩ := exists_of_shiftIn_ne hmoved
      have hvalid := (settled_of_shiftIn_ne hmoved).2.1
      have htoNat : (lowerChar c).toNat = (c.toNat + shift).toNat := by
        rw [hlower, Char.ofNat, dif_pos hvalid, ← heq]
        rfl
      have hspares := List.all_eq_true.mp sparesAscii_lower _ hmem
      simp only [sparesAscii, Bool.or_eq_true, Bool.and_eq_true, decide_eq_true_eq, beq_iff_eq]
        at hspares
      right; left
      have hkelvin : c.toNat = kelvin.toNat := by omega
      rw [← Char.ofNat_toNat c, hkelvin, Char.ofNat_toNat]

/-- A character of ASCII comes from itself or its capital, from the Kelvin sign or from the capital I with
a dot. -/
theorem of_mem_lowerBetween_of_lt (hd : d.toNat < 128) (h : d ∈ lowerBetween before c after) :
    d = asciiLower c ∨ c = kelvin ∧ d = 'k' ∨ c = 'İ' ∧ d = 'i' := by
  rw [lowerBetween] at h
  split at h
  · rw [List.mem_singleton] at h
    subst h
    split at hd <;> exact absurd hd (by decide)
  · split at h
    · rename_i hdotted
      rw [List.mem_cons, List.mem_singleton] at h
      rcases h with rfl | rfl
      · exact Or.inr (Or.inr ⟨beq_iff_eq.mp hdotted, rfl⟩)
      · exact absurd hd (by decide)
    · rename_i hdotted
      obtain rfl := List.mem_singleton.mp h
      rcases lowerChar_of_lowerChar_lt hd with heq | rfl | hdotted'
      · exact Or.inl heq
      · exact Or.inr (Or.inl ⟨rfl, by decide +kernel⟩)
      · exact absurd hdotted' (by simpa using hdotted)

/-! ## Skipping -/

def IsUnlettered (p : Char → Bool) : Prop := ∀ c, p c = true → c.toNat < 128 ∧ isAsciiLetter c = false

theorem asciiLower_of_not_letter (h : isAsciiLetter c = false) : asciiLower c = c := by
  simp only [isAsciiLetter, Bool.or_eq_false_iff] at h
  simp [asciiLower, h.2]

theorem isAsciiLetter_asciiLower (c : Char) : isAsciiLetter (asciiLower c) = isAsciiLetter c := by
  by_cases hc : c.toNat < 128
  · exact of_forall_lt (P := fun c => isAsciiLetter (asciiLower c) = isAsciiLetter c)
      (by decide +kernel) hc
  · rw [asciiLower_of_le (by omega)]

namespace IsUnlettered

variable {p : Char → Bool}

/-- What such a class holds stays in lower case. -/
theorem lowerBetween_eq (hp : IsUnlettered p) (hc : p c = true) (before after : List Char) :
    lowerBetween before c after = [c] := by
  obtain ⟨hlt, hletter⟩ := hp c hc
  rw [lowerBetween_of_lt hlt, asciiLower_of_not_letter hletter]

/-- What is in such a class in lower case was in it before. -/
theorem of_mem_lowerBetween (hp : IsUnlettered p) (hd : p d = true)
    (h : d ∈ lowerBetween before c after) : p c = true := by
  obtain ⟨hlt, hletter⟩ := hp d hd
  rcases of_mem_lowerBetween_of_lt hlt h with rfl | ⟨-, rfl⟩ | ⟨-, rfl⟩
  · rw [isAsciiLetter_asciiLower] at hletter
    rwa [asciiLower_of_not_letter hletter] at hd
  · exact absurd hletter (by decide)
  · exact absurd hletter (by decide)

/-- **Skipping characters that are no letters commutes with lower case.** -/
theorem dropWhile_lowerAfter (hp : IsUnlettered p) (before cs : List Char) :
    (lowerAfter before cs).dropWhile p
      = lowerAfter ((cs.takeWhile p).reverse ++ before) (cs.dropWhile p) := by
  induction cs generalizing before with
  | nil => rfl
  | cons c cs ih =>
      by_cases hc : p c = true
      · rw [lowerAfter, hp.lowerBetween_eq hc, List.singleton_append, List.dropWhile_cons_of_pos hc,
          ih, List.takeWhile_cons_of_pos hc, List.dropWhile_cons_of_pos hc, List.reverse_cons,
          List.append_assoc, List.singleton_append]
      · -- the first character of the text stops the skipping, and so does what becomes of it
        obtain ⟨d, ds, hds⟩ := List.exists_cons_of_ne_nil (lowerBetween_ne_nil before cs c)
        have hd : ¬ p d = true := by
          intro hd
          have hmem : d ∈ lowerBetween before c cs := by rw [hds]; exact List.mem_cons_self
          exact hc (hp.of_mem_lowerBetween hd hmem)
        rw [List.takeWhile_cons_of_neg hc, List.dropWhile_cons_of_neg hc, lowerAfter, hds,
          List.cons_append, List.dropWhile_cons_of_neg hd, List.reverse_nil, List.nil_append, lowerAfter,
          hds, List.cons_append]

/-- What is no letter is in a text in lower case if and only if it is in the text. -/
theorem mem_lowerAfter_iff (hp : IsUnlettered p) (hd : p d = true) (before cs : List Char) :
    d ∈ lowerAfter before cs ↔ d ∈ cs := by
  have hbetween : ∀ {before c after}, d ∈ lowerBetween before c after ↔ d = c := by
    intro before c after
    constructor
    · intro h
      rw [hp.lowerBetween_eq (hp.of_mem_lowerBetween hd h)] at h
      exact List.mem_singleton.mp h
    · rintro rfl
      rw [hp.lowerBetween_eq hd]
      exact List.mem_singleton_self d
  induction cs generalizing before with
  | nil => rfl
  | cons c cs ih =>
      rw [lowerAfter, List.mem_append, hbetween, List.mem_cons]
      exact or_congr Iff.rfl (ih (c :: before))

end IsUnlettered

/-! ## Parts -/

/-- What two parts become in lower case lies one behind the other. -/
theorem exists_lowerAfter_append (before a b : List Char) :
    ∃ lowered, lowerAfter before (a ++ b) = lowered ++ lowerAfter (a.reverse ++ before) b ∧
      (lowered = [] ↔ a = []) := by
  induction a generalizing before with
  | nil => exact ⟨[], rfl, Iff.rfl⟩
  | cons c a ih =>
      obtain ⟨lowered, hlowered, -⟩ := ih (c :: before)
      refine ⟨lowerBetween before c (a ++ b) ++ lowered, ?_, ?_⟩
      · rw [List.cons_append, lowerAfter, hlowered, List.reverse_cons, List.append_assoc,
          List.append_assoc]
        rfl
      · simp [lowerBetween_ne_nil]

/-- A text that is in ASCII in lower case holds no sigma, so it does not matter what stands before it. -/
theorem lowerAfter_of_ascii (h : ∀ d ∈ lowerAfter before cs, d.toNat < 128) (before' : List Char) :
    lowerAfter before' cs = lowerAfter before cs := by
  induction cs generalizing before before' with
  | nil => rfl
  | cons c cs ih =>
      rw [lowerAfter, List.forall_mem_append] at h
      obtain ⟨hfirst, hrest⟩ := h
      have hsigma : c ≠ 'Σ' := by
        rintro rfl
        by_cases hfinal : isFinalSigma before cs = true
        · exact absurd (hfirst 'ς' (by simp [lowerBetween, hfinal])) (by decide)
        · exact absurd (hfirst 'σ' (by simp [lowerBetween, hfinal])) (by decide)
      have hbetween : lowerBetween before' c cs = lowerBetween before c cs := by
        simp [lowerBetween, hsigma]
      rw [lowerAfter, lowerAfter, hbetween, ih hrest]

/-! ## Words -/

/-- Whether a word cannot come from other characters than its letters and their capitals: it consists of
small letters other than `k`, and no `i` ends it. -/
def isClear : List Char → Bool
  | [] => true
  | c :: cs => 'a' ≤ c && c ≤ 'z' && c != 'k' && (c != 'i' || !cs.isEmpty) && isClear cs

theorem isClear_cons {w : Char} (h : isClear (w :: word) = true) :
    w.toNat < 128 ∧ w ≠ 'k' ∧ (w = 'i' → word ≠ []) ∧ isClear word = true := by
  simp only [isClear, Bool.and_eq_true, Bool.or_eq_true, decide_eq_true_eq, bne_iff_ne,
    Bool.not_eq_true', List.isEmpty_eq_false_iff] at h
  obtain ⟨⟨⟨⟨-, hle⟩, hk⟩, hi⟩, hrest⟩ := h
  have hle' : w.toNat ≤ 122 := hle
  exact ⟨by omega, hk, hi.resolve_left ∘ not_not.mpr, hrest⟩

/-- A clear word does not begin with what becomes of the capital I with a dot: behind an `i` it goes on with
a letter, and not with a dot above. -/
theorem not_dotted_of_isClear {w : Char} (h : isClear (w :: word) = true) (behind : List Char) :
    ¬ w :: word <+: 'i' :: '\u0307' :: behind := by
  intro hin
  obtain ⟨-, -, hi, hrest⟩ := isClear_cons h
  obtain ⟨rfl, hdot⟩ := List.cons_prefix_cons.mp hin
  obtain ⟨v, word, rfl⟩ := List.exists_cons_of_ne_nil (hi rfl)
  obtain ⟨rfl, -⟩ := List.cons_prefix_cons.mp hdot
  exact absurd (isClear_cons hrest).1 (by decide)

/-- Any other character becomes one character, which is a letter of a clear word only if the character is
that letter or its capital. -/
theorem exists_lowerBetween_eq (hdotted : c ≠ 'İ') (before after : List Char) :
    ∃ d, lowerBetween before c after = [d] ∧
      ∀ w : Char, w.toNat < 128 → w ≠ 'k' → (w = d ↔ w = asciiLower c) := by
  have hsingle : ∃ d, lowerBetween before c after = [d] := by
    unfold lowerBetween
    split
    · exact ⟨_, rfl⟩
    · simp [hdotted]
  obtain ⟨d, hd⟩ := hsingle
  refine ⟨d, hd, fun w hw hk => ⟨?_, ?_⟩⟩
  · rintro rfl
    have hmem : w ∈ lowerBetween before c after := by simp [hd]
    rcases of_mem_lowerBetween_of_lt hw hmem with heq | ⟨-, rfl⟩ | ⟨rfl, -⟩
    · exact heq
    · exact absurd rfl hk
    · exact absurd rfl hdotted
  · rintro rfl
    rw [lowerBetween_of_lt (lt_of_asciiLower_lt hw)] at hd
    exact List.singleton_inj.mp hd

/-- **A clear word begins a text in lower case if and only if it begins the text**, the case of ASCII
letters aside. -/
theorem prefix_lowerAfter_iff (h : isClear word = true) (before cs : List Char) :
    word <+: lowerAfter before cs ↔ word <+: cs.map asciiLower := by
  induction word generalizing before cs with
  | nil => simp
  | cons w word ih =>
      obtain ⟨hw, hk, -, hrest⟩ := isClear_cons h
      cases cs with
      | nil => simp [lowerAfter]
      | cons c cs =>
          rw [lowerAfter, List.map_cons, List.cons_prefix_cons]
          by_cases hdotted : c = 'İ'
          · -- neither side: the dot above is in the way, and the capital is not in ASCII
            subst hdotted
            have hleft : ¬ w :: word <+: lowerBetween before 'İ' cs ++ lowerAfter ('İ' :: before) cs :=
              not_dotted_of_isClear h _
            have hright : w ≠ asciiLower 'İ' := by
              rintro rfl
              exact absurd hw (by decide)
            simp [hleft, hright]
          · obtain ⟨d, hd, hletter⟩ := exists_lowerBetween_eq hdotted before cs
            rw [hd, List.singleton_append, List.cons_prefix_cons, hletter w hw hk, ih hrest]

end LintRunner.Text
