import Mathlib.Algebra.Group.Nat.Defs
import LintRunner.Text.Integer

/-!
# Numerals

`numeral` is the number that a run of ASCII digits writes. Writing a number and reading its digits
gives the number back (`numeral_digits`), so different numbers have different digits
(`digits_injective`), and what reads whole numbers of every form reads a run of ASCII digits as its
numeral (`integer?_numeral`).
-/

set_option autoImplicit false

namespace LintRunner.Text

def numeral (cs : List Char) : Nat := ofDigits (cs.map fun c => c.toNat - 48)

/-! ## ASCII digits -/

theorem isAsciiDigit_iff {c : Char} : isAsciiDigit c = true ↔ 48 ≤ c.toNat ∧ c.toNat ≤ 57 := by
  rw [isAsciiDigit, Bool.and_eq_true, decide_eq_true_iff, decide_eq_true_iff]
  exact Iff.rfl

theorem digitValue?_of_isAsciiDigit {c : Char} (h : isAsciiDigit c = true) :
    digitValue? c = some (c.toNat - 48) := by
  obtain ⟨hlo, hhi⟩ := isAsciiDigit_iff.mp h
  obtain ⟨zeros, hzeros⟩ : ∃ zeros, Table.zeros = 48 :: zeros := ⟨_, rfl⟩
  rw [digitValue?, hzeros, digitIn, if_neg (by omega), if_pos (by omega)]

theorem digitIn_lt {zeros : List Nat} {n d : Nat} (h : digitIn zeros n = some d) : d < 10 := by
  induction zeros with
  | nil => cases h
  | cons base zeros ih =>
      rw [digitIn] at h
      split at h
      · cases h
      · split at h
        · obtain rfl := Option.some.inj h
          omega
        · exact ih h

theorem digitValue?_lt {c : Char} {d : Nat} (h : digitValue? c = some d) : d < 10 := digitIn_lt h

theorem not_isBlank_of_isAsciiDigit {c : Char} (h : isAsciiDigit c = true) : isBlank c = false := by
  obtain ⟨hlo, hhi⟩ := isAsciiDigit_iff.mp h
  have h32 : ¬ c.toNat ≤ 32 := by omega
  have h13 : ¬ c.toNat ≤ 13 := by omega
  simp only [isBlank, inRanges]
  rw [if_neg (by omega), if_neg (by omega), if_pos (by omega)]
  simp [h13, h32]

/-! ## Reading -/

theorem digitRun?_of_isAsciiDigit {cs : List Char} (hne : cs ≠ [])
    (h : ∀ c ∈ cs, isAsciiDigit c = true) : digitRun? cs = some (cs.map fun c => c.toNat - 48) := by
  induction cs with
  | nil => exact absurd rfl hne
  | cons c cs ih =>
      have hc := digitValue?_of_isAsciiDigit (h c List.mem_cons_self)
      cases cs with
      | nil => rw [digitRun?, hc]; rfl
      | cons d cs =>
          have hd : d ≠ '_' := by
            rintro rfl
            exact absurd (h '_' (by simp)) (by decide)
          have hrest := ih (List.cons_ne_nil d cs) fun e he => h e (List.mem_cons_of_mem c he)
          rw [digitRun?.eq_4 c (d :: cs) (by simp) (by rintro _ ⟨⟩; exact hd rfl), hc, hrest]
          rfl

/-- There is nothing to trim where no character is to be trimmed. -/
theorem trimBoth_eq_self {p : Char → Bool} {cs : List Char} (h : ∀ c ∈ cs, p c = false) :
    trimBoth p cs = cs := by
  have hdrop : ∀ l : List Char, (∀ c ∈ l, p c = false) → l.dropWhile p = l := by
    intro l hl
    cases l with
    | nil => rfl
    | cons c l => rw [List.dropWhile_cons, hl c List.mem_cons_self]; rfl
  rw [trimBoth, hdrop cs h, hdrop _ fun c hc => h c (List.mem_reverse.mp hc), List.reverse_reverse]

/-- A run of ASCII digits is read as the number that it writes. -/
theorem integer?_numeral {cs : List Char} (hne : cs ≠ []) (h : ∀ c ∈ cs, isAsciiDigit c = true)
    (hlen : cs.length ≤ maxDigits) : integer? cs = some (Int.ofNat (numeral cs)) := by
  have hnatural : natural? cs = some (numeral cs) := by
    rw [natural?, digitRun?_of_isAsciiDigit hne h]
    show (if (cs.map _).length ≤ maxDigits then _ else _) = _
    rw [List.length_map, if_pos hlen]
    rfl
  have htrim : trimBoth isNumberBlank cs = cs := trimBoth_eq_self fun c hc => by
    simp [isNumberBlank, not_isBlank_of_isAsciiDigit (h c hc)]
  rw [integer?, htrim]
  split
  · exact absurd (h '-' List.mem_cons_self) (by decide)
  · exact absurd (h '+' List.mem_cons_self) (by decide)
  · rw [hnatural]
    rfl

/-! ## Size -/

theorem ofDigits_append (a b : List Nat) :
    ofDigits (a ++ b) = b.foldl (fun n d => 10 * n + d) (ofDigits a) := List.foldl_append

theorem ofDigits_concat (values : List Nat) (d : Nat) :
    ofDigits (values ++ [d]) = 10 * ofDigits values + d := ofDigits_append values [d]

theorem numeral_concat (cs : List Char) (c : Char) :
    numeral (cs ++ [c]) = 10 * numeral cs + (c.toNat - 48) := by
  rw [numeral, List.map_append]
  exact ofDigits_concat _ _

theorem foldl_digits_lt {values : List Nat} (h : ∀ d ∈ values, d < 10) (n : Nat) :
    values.foldl (fun n d => 10 * n + d) n < (n + 1) * 10 ^ values.length := by
  induction values generalizing n with
  | nil => simp
  | cons d values ih =>
      have hd := h d List.mem_cons_self
      calc values.foldl (fun n d => 10 * n + d) (10 * n + d)
          < (10 * n + d + 1) * 10 ^ values.length := ih (fun e he => h e (List.mem_cons_of_mem d he)) _
        _ ≤ (n + 1) * 10 * 10 ^ values.length := Nat.mul_le_mul_right _ (by omega)
        _ = (n + 1) * 10 ^ (d :: values).length := by
            rw [List.length_cons, Nat.pow_succ, Nat.mul_assoc, Nat.mul_comm 10]

/-- A number with so many digits lies below the power of ten with that exponent. -/
theorem numeral_lt {cs : List Char} (h : ∀ c ∈ cs, isAsciiDigit c = true) :
    numeral cs < 10 ^ cs.length := by
  have hlt := @foldl_digits_lt (cs.map fun c => c.toNat - 48) (by
    intro d hd
    obtain ⟨c, hc, rfl⟩ := List.mem_map.mp hd
    have := isAsciiDigit_iff.mp (h c hc)
    omega) 0
  rwa [List.length_map, Nat.zero_add, Nat.one_mul] at hlt

/-- The digits of a run are below ten, and there are no more of them than characters. -/
theorem digitRun?_bounds {cs : List Char} {values : List Nat} (h : digitRun? cs = some values) :
    values.length ≤ cs.length ∧ ∀ d ∈ values, d < 10 := by
  induction cs using digitRun?.induct generalizing values with
  | case1 => simp [digitRun?] at h
  | case2 c =>
      obtain ⟨d, hd, rfl⟩ := Option.map_eq_some_iff.mp h
      simpa using digitValue?_lt hd
  | case3 c rest ih =>
      simp only [digitRun?, Option.bind_eq_bind, Option.bind_eq_some_iff, Option.pure_def,
        Option.some.injEq] at h
      obtain ⟨d, hd, later, hlater, rfl⟩ := h
      obtain ⟨hlength, hbelow⟩ := ih hlater
      simp only [List.length_cons, List.forall_mem_cons]
      exact ⟨by omega, digitValue?_lt hd, hbelow⟩
  | case4 c rest hne hlow ih =>
      rw [digitRun?.eq_4 c rest hne hlow] at h
      simp only [Option.bind_eq_bind, Option.bind_eq_some_iff, Option.pure_def,
        Option.some.injEq] at h
      obtain ⟨d, hd, later, hlater, rfl⟩ := h
      obtain ⟨hlength, hbelow⟩ := ih hlater
      simp only [List.length_cons, List.forall_mem_cons]
      exact ⟨by omega, digitValue?_lt hd, hbelow⟩

theorem natural?_lt {cs : List Char} {n : Nat} (h : natural? cs = some n) : n < 10 ^ cs.length := by
  simp only [natural?, Option.bind_eq_bind, Option.bind_eq_some_iff] at h
  obtain ⟨values, hvalues, h⟩ := h
  obtain ⟨hlength, hbelow⟩ := digitRun?_bounds hvalues
  split at h
  · obtain rfl := Option.some.inj h
    have hlt : ofDigits values < (0 + 1) * 10 ^ values.length := foldl_digits_lt hbelow 0
    have hmono : 10 ^ values.length ≤ 10 ^ cs.length := Nat.pow_le_pow_right (by decide) hlength
    rw [ofDigits] at hlt ⊢
    omega
  · cases h

theorem length_trimBoth_le (p : Char → Bool) (cs : List Char) : (trimBoth p cs).length ≤ cs.length := by
  have hfront := (List.dropWhile_suffix (l := cs) p).length_le
  have hback := (List.dropWhile_suffix (l := (cs.dropWhile p).reverse) p).length_le
  rw [List.length_reverse] at hback
  rw [trimBoth, List.length_reverse]
  omega

/-- A whole number that is read lies below the power of ten with so many zeros as there are characters. -/
theorem natAbs_integer?_lt {cs : List Char} {i : Int} (h : integer? cs = some i) :
    i.natAbs < 10 ^ cs.length := by
  have hbelow : ∀ {rest : List Char} {n : Nat}, natural? rest = some n →
      rest.length ≤ (trimBoth isNumberBlank cs).length → n < 10 ^ cs.length := by
    intro rest n hn hrest
    have hlt := natural?_lt hn
    have hmono : 10 ^ rest.length ≤ 10 ^ cs.length :=
      Nat.pow_le_pow_right (by decide) (Nat.le_trans hrest (length_trimBoth_le _ cs))
    omega
  rw [integer?] at h
  split at h
  · rename_i rest htrim
    obtain ⟨n, hn, rfl⟩ := Option.map_eq_some_iff.mp h
    have hlt := hbelow hn (by simp [htrim])
    omega
  · rename_i rest htrim
    obtain ⟨n, hn, rfl⟩ := Option.map_eq_some_iff.mp h
    exact hbelow hn (by simp [htrim])
  · obtain ⟨n, hn, rfl⟩ := Option.map_eq_some_iff.mp h
    exact hbelow hn (Nat.le_refl _)

/-! ## Writing -/

theorem toNat_digitChar {n : Nat} (h : n < 10) : (digitChar n).toNat = 48 + n :=
  (by decide : ∀ n < 10, (digitChar n).toNat = 48 + n) n h

theorem isAsciiDigit_digitChar {n : Nat} (h : n < 10) : isAsciiDigit (digitChar n) = true := by
  rw [isAsciiDigit_iff, toNat_digitChar h]
  omega

theorem digits_ne_nil (n : Nat) : digits n ≠ [] := by
  rw [digits]
  split <;> simp

theorem isAsciiDigit_of_mem_digits {n : Nat} {c : Char} (h : c ∈ digits n) :
    isAsciiDigit c = true := by
  fun_induction digits n with
  | case1 n hn => rw [List.mem_singleton.mp h]; exact isAsciiDigit_digitChar hn
  | case2 n hn ih =>
      rcases List.mem_append.mp h with h | h
      · exact ih h
      · rw [List.mem_singleton.mp h]
        exact isAsciiDigit_digitChar (Nat.mod_lt n (by decide))

/-- The digits of a number write that number. -/
theorem numeral_digits (n : Nat) : numeral (digits n) = n := by
  fun_induction digits n with
  | case1 n hn =>
      rw [numeral, List.map_singleton, toNat_digitChar hn]
      show 10 * 0 + (48 + n - 48) = n
      omega
  | case2 n hn ih =>
      rw [numeral_concat, ih, toNat_digitChar (Nat.mod_lt n (by decide))]
      omega

theorem digits_injective {n m : Nat} (h : digits n = digits m) : n = m := by
  rw [← numeral_digits n, h, numeral_digits]

/-- A number below a power of ten has no more digits than its exponent says. -/
theorem length_digits_le {n k : Nat} (hk : 0 < k) (h : n < 10 ^ k) : (digits n).length ≤ k := by
  induction k generalizing n with
  | zero => exact absurd hk (Nat.lt_irrefl 0)
  | succ k ih =>
      rw [digits]
      split
      · exact Nat.succ_le_succ (Nat.zero_le k)
      · rename_i hn
        have hk' : 0 < k := by
          rcases Nat.eq_zero_or_pos k with rfl | hk'
          · simp at h; omega
          · exact hk'
        have hdiv : n / 10 < 10 ^ k := by
          rw [Nat.pow_succ] at h
          omega
        rw [List.length_append]
        exact Nat.succ_le_succ (ih hk' hdiv)

/-- The numbers that can be written lie below a power of ten. -/
theorem isWritable_iff_lt {n : Nat} : isWritable n = true ↔ n < 10 ^ maxDigits := by
  rw [isWritable, decide_eq_true_iff]
  constructor
  · intro h
    have hlt : numeral (digits n) < 10 ^ (digits n).length := numeral_lt fun c => isAsciiDigit_of_mem_digits
    rw [numeral_digits] at hlt
    exact Nat.lt_of_lt_of_le hlt (Nat.pow_le_pow_right (by decide) h)
  · exact length_digits_le (by decide)

end LintRunner.Text
