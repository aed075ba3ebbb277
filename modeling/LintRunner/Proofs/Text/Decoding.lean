import LintRunner.Text.Utf8

/-!
# Bytes and the characters they make up

What is known while bytes are read (`Pending.Proper`), and what follows from it. A line feed is a character
of its own wherever it stands, also behind an unfinished character, so that bytes can be cut at their line
feeds before they are read or after (`decodeLossy_lineFeed`, `lineFeed_not_mem_decodeLossy`). And the bytes
that a text is written with are read as that text (`decodeLossy_of_toUTF8`).
-/

set_option autoImplicit false

namespace LintRunner.Text.Utf8

/-! ## Unfinished characters -/

/-- What is known of an unfinished character: the next byte is none of ASCII, and its bits are too many for
a character of ASCII, or will be with the next byte. -/
structure Pending.Proper (p : Pending) : Prop where
  least : 0x80 ≤ p.least
  greatest : p.greatest ≤ 0xBF
  beyond : 2 ≤ p.bits ∨ 2 ≤ p.owed ∧ (1 ≤ p.bits ∨ 0x82 ≤ p.least)

def Reachable (state : Option Pending) : Prop := ∀ p, state = some p → p.Proper

theorem reachable_none : Reachable none := by
  intro p h
  cases h

theorem reachable_some {p : Pending} (h : p.Proper) : Reachable (some p) := by
  intro q hq
  cases hq
  exact h

theorem first_eq_char {b : Nat} {c : Char} (h : first b = .char c) : b < 0x80 ∧ c = Char.ofNat b := by
  unfold first at h
  by_cases hb : b < 0x80
  · rw [if_pos hb] at h
    exact ⟨hb, (First.char.inj h).symm⟩
  · rw [if_neg hb] at h
    repeat' split at h
    all_goals cases h

theorem proper_of_first {b : Nat} {p : Pending} (h : first b = .pending p) : p.Proper := by
  unfold first at h
  repeat' split at h
  all_goals cases h
  all_goals constructor <;> simp <;> omega

/-- A byte that fits either completes a character or is owed more bytes. -/
theorem Pending.add_cases (p : Pending) (b : Nat) :
    (p.owed ≤ 1 ∧ p.add b = .char (Char.ofNat (p.bits * 64 + b % 64))) ∨
      (2 ≤ p.owed ∧ p.add b = .pending ⟨p.owed - 1, 0x80, 0xBF, p.bits * 64 + b % 64⟩) := by
  unfold Pending.add
  by_cases h : p.owed ≤ 1
  · exact Or.inl ⟨h, if_pos h⟩
  · exact Or.inr ⟨by omega, if_neg h⟩

theorem eq_ten_of_ofNat {n : Nat} (h : Char.ofNat n = '\n') : n = 10 := by
  unfold Char.ofNat at h
  by_cases hn : n.isValidChar
  · rw [dif_pos hn] at h
    exact congrArg Char.toNat h
  · rw [dif_neg hn] at h
    exact absurd (congrArg Char.toNat h) (by decide)

/-! ## One byte -/

/-- What one byte does to a state, whatever comes behind it: the units that are finished with it, and the
state behind it. -/
structure Step (state : Option Pending) (b : UInt8) (found : List (Option Char))
    (next : Option Pending) : Prop where
  reachable : Reachable next
  lineFeed : some '\n' ∈ found → b = 0x0A
  progress : found ≠ [] ∨ next ≠ none
  units : ∀ rest, unitsFrom state (b :: rest) = found ++ unitsFrom next rest

theorem exists_step_none (b : UInt8) : ∃ found next, Step none b found next := by
  cases h : first b.toNat with
  | char c =>
      refine ⟨[some c], none, reachable_none, ?_, Or.inl (by simp), fun rest => by simp [unitsFrom, h]⟩
      intro hc
      obtain rfl : '\n' = c := by simpa using hc
      have hb : b.toNat = 10 := eq_ten_of_ofNat (first_eq_char h).2.symm
      exact UInt8.toNat_inj.mp hb
  | pending p =>
      exact ⟨[], some p, reachable_some (proper_of_first h), by simp, Or.inr (by simp),
        fun rest => by simp [unitsFrom, h]⟩
  | faulty =>
      exact ⟨[none], none, reachable_none, by simp, Or.inl (by simp), fun rest => by simp [unitsFrom, h]⟩

/-- A byte that does not fit behind an unfinished character is read as a first byte. -/
theorem unitsFrom_of_not_fits {p : Pending} {b : UInt8} (h : ¬ (p.least ≤ b.toNat ∧ b.toNat ≤ p.greatest))
    (rest : List UInt8) : unitsFrom (some p) (b :: rest) = none :: unitsFrom none (b :: rest) := by
  have hfits : (decide (p.least ≤ b.toNat) && decide (b.toNat ≤ p.greatest)) = false := by simpa using h
  conv => lhs; unfold unitsFrom
  rw [hfits]
  rfl

theorem exists_step_some {p : Pending} (hp : p.Proper) (b : UInt8) :
    ∃ found next, Step (some p) b found next := by
  by_cases hfits : p.least ≤ b.toNat ∧ b.toNat ≤ p.greatest
  · have hleast := hp.least
    have hgreatest := hp.greatest
    have hbeyond := hp.beyond
    obtain ⟨howed, hadd⟩ | ⟨howed, hadd⟩ := p.add_cases b.toNat
    · -- the last byte of a character, which is beyond the line feed
      refine ⟨[some (Char.ofNat (p.bits * 64 + b.toNat % 64))], none, reachable_none, ?_,
        Or.inl (by simp), fun rest => by simp [unitsFrom, hfits, hadd]⟩
      intro hc
      have hchar : '\n' = Char.ofNat (p.bits * 64 + b.toNat % 64) := by simpa using hc
      have hbits := eq_ten_of_ofNat hchar.symm
      omega
    · refine ⟨[], some ⟨p.owed - 1, 0x80, 0xBF, p.bits * 64 + b.toNat % 64⟩, reachable_some ?_, by simp,
        Or.inr (by simp), fun rest => by simp [unitsFrom, hfits, hadd]⟩
      constructor
      · simp
      · simp
      · left
        show 2 ≤ p.bits * 64 + b.toNat % 64
        omega
  · obtain ⟨found, next, hstep⟩ := exists_step_none b
    refine ⟨none :: found, next, hstep.reachable, ?_, Or.inl (by simp), fun rest => ?_⟩
    · intro hc
      exact hstep.lineFeed (by simpa using hc)
    · rw [unitsFrom_of_not_fits hfits, hstep.units]
      rfl

theorem exists_step {state : Option Pending} (h : Reachable state) (b : UInt8) :
    ∃ found next, Step state b found next := by
  cases state with
  | none => exact exists_step_none b
  | some p => exact exists_step_some (h p rfl) b

/-- A line feed ends an unfinished character and is a character of its own. -/
theorem unitsFrom_lineFeed {state : Option Pending} (h : Reachable state) (rest : List UInt8) :
    unitsFrom state (0x0A :: rest) = unitsFrom state [] ++ some '\n' :: unitsFrom none rest := by
  have hnone : unitsFrom none (0x0A :: rest) = some '\n' :: unitsFrom none rest := by
    have hfirst : first 10 = .char '\n' := by decide
    simp [unitsFrom, hfirst]
  cases state with
  | none => rw [hnone]; simp [unitsFrom]
  | some p =>
      have hleast := (h p rfl).least
      have hfits : ¬ (p.least ≤ (0x0A : UInt8).toNat ∧ (0x0A : UInt8).toNat ≤ p.greatest) := by
        have hten : (0x0A : UInt8).toNat = 10 := rfl
        omega
      rw [unitsFrom_of_not_fits hfits, hnone]
      simp [unitsFrom]

/-! ## All bytes -/

section

variable {state : Option Pending} {bytes : List UInt8}

theorem unitsFrom_append_lineFeed (h : Reachable state) (bytes rest : List UInt8) :
    unitsFrom state (bytes ++ 0x0A :: rest)
      = unitsFrom state bytes ++ some '\n' :: unitsFrom none rest := by
  induction bytes generalizing state with
  | nil => exact unitsFrom_lineFeed h rest
  | cons b bytes ih =>
      obtain ⟨found, next, hstep⟩ := exists_step h b
      rw [List.cons_append, hstep.units, hstep.units, ih hstep.reachable, List.append_assoc]

theorem lineFeed_mem_of_unitsFrom (h : Reachable state) (hunits : some '\n' ∈ unitsFrom state bytes) :
    0x0A ∈ bytes := by
  induction bytes generalizing state with
  | nil => cases state <;> simp [unitsFrom] at hunits
  | cons b bytes ih =>
      obtain ⟨found, next, hstep⟩ := exists_step h b
      rw [hstep.units, List.mem_append] at hunits
      rcases hunits with hfound | hlater
      · rw [hstep.lineFeed hfound]
        exact List.mem_cons_self
      · exact List.mem_cons_of_mem _ (ih hstep.reachable hlater)

theorem unitsFrom_ne_nil (h : Reachable state) (hbytes : bytes ≠ [] ∨ state ≠ none) :
    unitsFrom state bytes ≠ [] := by
  induction bytes generalizing state with
  | nil =>
      cases state with
      | none => simp at hbytes
      | some p => simp [unitsFrom]
  | cons b bytes ih =>
      obtain ⟨found, next, hstep⟩ := exists_step h b
      rw [hstep.units]
      rcases hstep.progress with hfound | hnext
      · exact List.append_ne_nil_of_left_ne_nil hfound _
      · exact List.append_ne_nil_of_right_ne_nil _ (ih hstep.reachable (Or.inr hnext))

end

/-- **Bytes can be cut at a line feed**, before they are read or after. -/
theorem decodeLossy_lineFeed (bytes rest : List UInt8) :
    decodeLossy (bytes ++ 0x0A :: rest) = decodeLossy bytes ++ '\n' :: decodeLossy rest := by
  unfold decodeLossy units
  rw [unitsFrom_append_lineFeed reachable_none, List.map_append, List.map_cons]
  rfl

/-- No other byte is read as a line feed. -/
theorem lineFeed_not_mem_decodeLossy {bytes : List UInt8} (h : 0x0A ∉ bytes) :
    '\n' ∉ decodeLossy bytes := by
  unfold decodeLossy units
  rw [List.mem_map]
  rintro ⟨unit, hunit, hc⟩
  cases unit with
  | none => exact absurd hc (by decide)
  | some c =>
      obtain rfl : c = '\n' := hc
      exact h (lineFeed_mem_of_unitsFrom reachable_none hunit)

theorem decodeLossy_ne_nil {bytes : List UInt8} (h : bytes ≠ []) : decodeLossy bytes ≠ [] := by
  unfold decodeLossy units
  rw [ne_eq, List.map_eq_nil_iff]
  exact unitsFrom_ne_nil reachable_none (Or.inl h)

/-! ## Bytes of a text -/

theorem first_of_two : ∀ d < 32, 2 ≤ d → first (d + 0xC0) = .pending ⟨1, 0x80, 0xBF, d⟩ := by decide

theorem first_of_three : ∀ d < 16, first (d + 0xE0)
    = .pending ⟨2, if d = 0 then 0xA0 else 0x80, if d = 13 then 0x9F else 0xBF, d⟩ := by decide

theorem first_of_four : ∀ d < 5, first (d + 0xF0)
    = .pending ⟨3, if d = 0 then 0x90 else 0x80, if d = 4 then 0x8F else 0xBF, d⟩ := by decide

theorem unitsFrom_lead {b : Nat} {p : Pending} (hb : b < 256) (h : first b = .pending p)
    (rest : List UInt8) : unitsFrom none (UInt8.ofNat b :: rest) = unitsFrom (some p) rest := by
  have hbyte : (UInt8.ofNat b).toNat = b := by
    rw [UInt8.toNat_ofNat']
    omega
  conv => lhs; unfold unitsFrom
  rw [hbyte, h]

/-- A byte behind the first one carries the low six bits of a number. -/
theorem unitsFrom_tail {p : Pending} {n : Nat}
    (hfits : p.least ≤ n % 64 + 0x80 ∧ n % 64 + 0x80 ≤ p.greatest) (rest : List UInt8) :
    unitsFrom (some p) (UInt8.ofNat (n % 64 + 0x80) :: rest)
      = if p.owed ≤ 1 then some (Char.ofNat (p.bits * 64 + n % 64)) :: unitsFrom none rest
        else unitsFrom (some ⟨p.owed - 1, 0x80, 0xBF, p.bits * 64 + n % 64⟩) rest := by
  have hbyte : (UInt8.ofNat (n % 64 + 0x80)).toNat = n % 64 + 0x80 := by
    rw [UInt8.toNat_ofNat']
    omega
  have hbits : (n % 64 + 0x80) % 64 = n % 64 := by omega
  conv => lhs; unfold unitsFrom
  rw [hbyte]
  by_cases howed : p.owed ≤ 1
  · simp [hfits, Pending.add, hbits, howed]
  · simp [hfits, Pending.add, hbits, howed]

/-- The bytes of a character are read as that character. -/
theorem unitsFrom_utf8EncodeChar (c : Char) (rest : List UInt8) :
    unitsFrom none (String.utf8EncodeChar c ++ rest) = some c :: unitsFrom none rest := by
  have hvalid : c.val.toNat < 0xD800 ∨ 0xDFFF < c.val.toNat ∧ c.val.toNat < 0x110000 := c.valid
  have hc : ∀ n, n = c.val.toNat → Char.ofNat n = c := by
    rintro n rfl
    exact Char.ofNat_toNat c
  generalize hv : c.val.toNat = v at hvalid hc
  unfold String.utf8EncodeChar
  rw [hv]
  -- one case for each length: the first byte tells how many are owed, each of the others carries six bits
  by_cases hone : v ≤ 0x7F
  · have hfirst : first v = .char c := by
      unfold first
      rw [if_pos (by omega), hc v rfl]
    have hbyte : (UInt8.ofNat v).toNat = v := by
      rw [UInt8.toNat_ofNat']
      omega
    rw [if_pos hone, List.singleton_append]
    conv => lhs; unfold unitsFrom
    rw [hbyte, hfirst]
  by_cases htwo : v ≤ 0x7FF
  · have hlead := first_of_two (v / 64 % 0x20) (by omega) (by omega)
    simp only [hone, htwo, if_true, if_false, List.cons_append, List.nil_append]
    rw [unitsFrom_lead (by omega) hlead, unitsFrom_tail (by simp; omega), if_pos (by simp),
      hc _ (by simp; omega)]
  by_cases hthree : v ≤ 0xFFFF
  · have hlead := first_of_three (v / 4096 % 0x10) (by omega)
    simp only [hone, htwo, hthree, if_true, if_false, List.cons_append, List.nil_append]
    rw [unitsFrom_lead (by omega) hlead, unitsFrom_tail (by simp; split <;> split <;> omega),
      if_neg (by simp), unitsFrom_tail (by simp; omega), if_pos (by simp), hc _ (by simp; omega)]
  · have hlead := first_of_four (v / 262144 % 0x08) (by omega)
    simp only [hone, htwo, hthree, if_false, List.cons_append, List.nil_append]
    rw [unitsFrom_lead (by omega) hlead, unitsFrom_tail (by simp; split <;> split <;> omega),
      if_neg (by simp), unitsFrom_tail (by simp; omega), if_neg (by simp),
      unitsFrom_tail (by simp; omega), if_pos (by simp), hc _ (by simp; omega)]

theorem units_flatMap_utf8EncodeChar (cs : List Char) :
    units (cs.flatMap String.utf8EncodeChar) = cs.map some := by
  unfold units
  induction cs with
  | nil => rfl
  | cons c cs ih => rw [List.flatMap_cons, unitsFrom_utf8EncodeChar, ih, List.map_cons]

/-- **The bytes that a text is written with are read as that text.** -/
theorem decodeLossy_of_toUTF8 {bytes : List UInt8} {text : String} (h : bytes.toByteArray = text.toUTF8) :
    decodeLossy bytes = text.toList := by
  have htext : text.toUTF8 = (text.toList.flatMap String.utf8EncodeChar).toByteArray := by
    rw [String.toUTF8_eq_toByteArray, ← String.ofList_toList (s := text), String.toByteArray_ofList,
      String.toList_ofList]
    rfl
  obtain rfl := List.toByteArray_inj.mp (h.trans htext)
  unfold decodeLossy
  rw [units_flatMap_utf8EncodeChar, List.map_map]
  exact List.map_id _

end LintRunner.Text.Utf8
