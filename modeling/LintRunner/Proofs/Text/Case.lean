import Mathlib.Data.List.DropRight
import LintRunner.Text.Case

/-!
# Lower case

What is in lower case is not changed by putting it in lower case once more (`lower_lower`), and neither
of its ends is a blank unless that end was one before, so that a trimmed text stays trimmed
(`Trimmed.lower`). Both come down to the table of shifts: no code point that it maps to is mapped again,
and neither side of it holds blanks. A sigma does not look past a blank either, so a text may be trimmed
before it is put in lower case or after that (`lower_trim`).
-/

set_option autoImplicit false

namespace LintRunner.Text

/-! ## Tables of shifts -/

/-- Whether a table of shifts maps none of the code points `first`, `first + step`, …, `last`. Letters
that stand in pairs of upper and lower case are told apart by their parity. -/
def leavesAlone (first last step : Nat) : List (Nat × Nat × Nat × Int) → Bool
  | [] => true
  | (first', last', step', _) :: rest =>
      last.blt first' ||
        (last'.blt first ||
            (step == 2 || first == last) && step' == 2 && (first + first') % 2 == 1) &&
          leavesAlone first last step rest

/-- Whether the code points from `first` to `last` lie in none of some ranges. -/
def outsideOf (ranges : List (Nat × Nat)) (first last : Nat) : Bool :=
  ranges.all fun range => last.blt range.1 || range.2.blt first

def blankRanges : List (Nat × Nat) :=
  [(9, 13), (28, 32), (133, 133), (160, 160), (5760, 5760), (8192, 8202), (8232, 8233),
    (8239, 8239), (8287, 8287), (12288, 12288)]

/-- Whether an entry of the table of lower case maps letters to characters that have no other lower
case: none of them is mapped by the table or is the capital I with a dot. -/
def isSettled : Nat × Nat × Nat × Int → Bool
  | (first, last, step, shift) =>
      let first' := (first + shift).toNat
      let last' := (last + shift).toNat
      0 ≤ first + shift && leavesAlone first' last' step Table.lower &&
        outsideOf ((304, 304) :: blankRanges) first' last' && outsideOf blankRanges first last &&
        (last' < 0xd800 || 0xdfff < first' && last' < 0x110000)

theorem shiftIn_of_leavesAlone {table : List (Nat × Nat × Nat × Int)} {first last step n : Nat}
    (h : leavesAlone first last step table = true) (hfirst : first ≤ n) (hlast : n ≤ last)
    (hstep : (n - first) % step = 0) : shiftIn table n = n := by
  induction table with
  | nil => rfl
  | cons entry table ih =>
      obtain ⟨first', last', step', shift⟩ := entry
      simp only [leavesAlone, Bool.or_eq_true, Bool.and_eq_true, Nat.blt_eq, beq_iff_eq] at h
      rw [shiftIn]
      split
      · rfl
      · rename_i hbegun
        obtain hbefore | ⟨hapart, hrest⟩ := h
        · omega
        · have hmissed : ¬ (n ≤ last' ∧ (n - first') % step' = 0) := by
            rintro ⟨hle, hmod⟩
            obtain hlt | ⟨⟨rfl | rfl, rfl⟩, hodd⟩ := hapart
            · omega
            · omega
            · omega
          rw [if_neg (by simpa using hmissed)]
          exact ih hrest

/-- What a table of shifts changes it changes by one of its entries. -/
theorem exists_of_shiftIn_ne {table : List (Nat × Nat × Nat × Int)} {n : Nat}
    (h : shiftIn table n ≠ n) : ∃ first last step shift, (first, last, step, shift) ∈ table ∧
      first ≤ n ∧ n ≤ last ∧ (n - first) % step = 0 ∧ shiftIn table n = (n + shift).toNat := by
  induction table with
  | nil => exact absurd rfl h
  | cons entry table ih =>
      obtain ⟨first, last, step, shift⟩ := entry
      rw [shiftIn] at h ⊢
      split at h
      · exact absurd rfl h
      · rename_i hbegun
        rw [if_neg hbegun]
        split at h
        · rename_i hin
          rw [if_pos hin]
          simp only [Bool.and_eq_true, decide_eq_true_eq, beq_iff_eq] at hin
          exact ⟨first, last, step, shift, List.mem_cons_self, by omega, hin.1, hin.2, rfl⟩
        · rename_i hout
          rw [if_neg hout]
          obtain ⟨first', last', step', shift', hmem, hfound⟩ := ih h
          exact ⟨first', last', step', shift', List.mem_cons_of_mem _ hmem, hfound⟩

theorem inRanges_of_outsideOf {ranges : List (Nat × Nat)} {first last n : Nat}
    (h : outsideOf ranges first last = true) (hfirst : first ≤ n) (hlast : n ≤ last) :
    inRanges ranges n = false := by
  induction ranges with
  | nil => rfl
  | cons range ranges ih =>
      obtain ⟨lo, hi⟩ := range
      simp only [outsideOf, List.all_cons, Bool.and_eq_true, Bool.or_eq_true, Nat.blt_eq] at h
      rw [inRanges]
      split
      · rfl
      · rw [ih h.2, Bool.or_false]
        simp only [decide_eq_false_iff_not]
        omega

theorem isSettled_lower : Table.lower.all isSettled = true := by
  decide +kernel

/-- **A code point that lower case changes is no blank, and neither is what it becomes, which is not
changed again.** -/
theorem settled_of_shiftIn_ne {n : Nat} (h : shiftIn Table.lower n ≠ n) :
    let m := shiftIn Table.lower n
    shiftIn Table.lower m = m ∧ m.isValidChar ∧ m ≠ 304 ∧ inRanges blankRanges m = false ∧
      inRanges blankRanges n = false := by
  obtain ⟨first, last, step, shift, hmem, hfirst, hlast, hstep, heq⟩ := exists_of_shiftIn_ne h
  -- the table is checked entry by entry, for a whole range at once
  have hsettled := List.all_eq_true.mp isSettled_lower _ hmem
  simp only [isSettled, Bool.and_eq_true, Bool.or_eq_true, decide_eq_true_eq] at hsettled
  obtain ⟨⟨⟨⟨hpos, halone⟩, hclear⟩, hclear'⟩, hvalid⟩ := hsettled
  rw [heq]
  have hlo : (first + shift).toNat ≤ (n + shift).toNat := by omega
  have hhi : (n + shift).toNat ≤ (last + shift).toNat := by omega
  have hmod : ((n + shift).toNat - (first + shift).toNat) % step = 0 := by
    rw [show (n + shift).toNat - (first + shift).toNat = n - first by omega]
    exact hstep
  have hout := inRanges_of_outsideOf hclear hlo hhi
  rw [inRanges] at hout
  refine ⟨shiftIn_of_leavesAlone halone hlo hhi hmod, ?_, ?_, ?_,
    inRanges_of_outsideOf hclear' hfirst hlast⟩
  · rw [Nat.isValidChar]
    omega
  · intro h304
    rw [h304] at hout
    simp at hout
  · have hblanks : outsideOf blankRanges (first + shift).toNat (last + shift).toNat = true := by
      rw [outsideOf, List.all_cons, Bool.and_eq_true] at hclear
      exact hclear.2
    exact inRanges_of_outsideOf hblanks hlo hhi

/-! ## Characters -/

theorem isBlank_eq (c : Char) : isBlank c = inRanges blankRanges c.toNat := rfl

/-- What one character becomes in lower case: it stays, or it is no blank and becomes another
character that is no blank and stays. -/
theorem lowerChar_cases (c : Char) : lowerChar c = c ∨
    lowerChar (lowerChar c) = lowerChar c ∧ isBlank c = false ∧ isBlank (lowerChar c) = false := by
  by_cases hdotted : c = 'İ'
  · subst hdotted
    right
    decide +kernel
  · have hlower : lowerChar c = Char.ofNat (shiftIn Table.lower c.toNat) := by
      rw [lowerChar, if_neg (by simpa using hdotted)]
    by_cases hsame : shiftIn Table.lower c.toNat = c.toNat
    · left
      rw [hlower, hsame, Char.ofNat_toNat]
    · right
      obtain ⟨hagain, hvalid, h304, hblank, hblank'⟩ := settled_of_shiftIn_ne hsame
      have htoNat : (lowerChar c).toNat = shiftIn Table.lower c.toNat := by
        rw [hlower, Char.ofNat, dif_pos hvalid]
        rfl
      refine ⟨?_, hblank', by rw [isBlank_eq, htoNat]; exact hblank⟩
      have hne : lowerChar c ≠ 'İ' := by
        intro heq
        rw [heq] at htoNat
        exact h304 htoNat.symm
      rw [lowerChar, if_neg (by simpa using hne), htoNat, hagain, hlower]

theorem lowerChar_lowerChar (c : Char) : lowerChar (lowerChar c) = lowerChar c := by
  rcases lowerChar_cases c with h | ⟨h, -, -⟩
  · rw [h, h]
  · exact h

theorem isBlank_lowerChar (c : Char) : isBlank (lowerChar c) = isBlank c := by
  rcases lowerChar_cases c with h | ⟨-, h, h'⟩
  · rw [h]
  · rw [h, h']

/-- A character in lower case stays, wherever it stands. -/
theorem lowerBetween_of_lowered {c : Char} (h : lowerChar c = c) (before after : List Char) :
    lowerBetween before c after = [c] := by
  have hsigma : c ≠ 'Σ' := by
    rintro rfl
    exact absurd h (by decide +kernel)
  have hdotted : c ≠ 'İ' := by
    rintro rfl
    exact absurd h (by decide +kernel)
  rw [lowerBetween, if_neg (by simpa using hsigma), if_neg (by simpa using hdotted), h]

/-- What a character becomes between its neighbours is in lower case, and blank if and only if the
character is. -/
theorem of_mem_lowerBetween {before after : List Char} {c d : Char}
    (h : d ∈ lowerBetween before c after) : lowerChar d = d ∧ isBlank d = isBlank c := by
  rw [lowerBetween] at h
  split at h
  · rename_i hsigma
    obtain rfl := beq_iff_eq.mp hsigma
    rw [List.mem_singleton] at h
    subst h
    split <;> decide +kernel
  · split at h
    · rename_i hdotted
      obtain rfl := beq_iff_eq.mp hdotted
      rw [List.mem_cons, List.mem_singleton] at h
      rcases h with rfl | rfl <;> decide +kernel
    · obtain rfl := List.mem_singleton.mp h
      exact ⟨lowerChar_lowerChar c, isBlank_lowerChar c⟩

theorem lowerBetween_ne_nil (before after : List Char) (c : Char) :
    lowerBetween before c after ≠ [] := by
  rw [lowerBetween]
  split
  · exact List.cons_ne_nil _ _
  · split <;> exact List.cons_ne_nil _ _

/-! ## Texts -/

theorem lowered_of_mem_lowerAfter {before cs : List Char} {d : Char}
    (h : d ∈ lowerAfter before cs) : lowerChar d = d := by
  induction cs generalizing before with
  | nil => cases h
  | cons c cs ih =>
      rw [lowerAfter, List.mem_append] at h
      rcases h with h | h
      · exact (of_mem_lowerBetween h).1
      · exact ih h

theorem lowerAfter_of_lowered {before cs : List Char} (h : ∀ c ∈ cs, lowerChar c = c) :
    lowerAfter before cs = cs := by
  induction cs generalizing before with
  | nil => rfl
  | cons c cs ih =>
      rw [List.forall_mem_cons] at h
      rw [lowerAfter, lowerBetween_of_lowered h.1, ih h.2]
      rfl

/-- **Lower case is a normal form.** -/
theorem lower_lower (cs : List Char) : lower (lower cs) = lower cs :=
  lowerAfter_of_lowered fun _ => lowered_of_mem_lowerAfter

/-! ## Trimmed texts -/

structure Trimmed (cs : List Char) : Prop where
  head : ∀ c ∈ cs.head?, isBlank c = false
  last : ∀ c ∈ cs.getLast?, isBlank c = false

theorem dropWhile_of_head {p : Char → Bool} {cs : List Char} (h : ∀ c ∈ cs.head?, p c = false) :
    cs.dropWhile p = cs := by
  cases cs with
  | nil => rfl
  | cons c cs => rw [List.dropWhile_cons_of_neg (by simpa using h c rfl)]

theorem Trimmed.trim_eq {cs : List Char} (h : Trimmed cs) : trim cs = cs := by
  have hlast : ∀ c ∈ cs.reverse.head?, isBlank c = false := by
    rw [List.head?_reverse]
    exact h.last
  rw [trim, trimBoth, dropWhile_of_head h.head, dropWhile_of_head hlast, List.reverse_reverse]

theorem head?_dropWhile {p : Char → Bool} {cs : List Char} :
    ∀ c ∈ (cs.dropWhile p).head?, p c = false := by
  intro c hc
  have h := List.head?_dropWhile_not p cs
  rw [Option.mem_def.mp hc] at h
  exact h

theorem trimmed_trim (cs : List Char) : Trimmed (trim cs) := by
  constructor
  · intro c hc
    -- what is cut off at the end leaves the first character alone
    obtain ⟨cut, hcut⟩ := List.rdropWhile_prefix isBlank (cs.dropWhile isBlank)
    have hfirst : c ∈ (cs.dropWhile isBlank).head? := by
      rw [← hcut, List.head?_append]
      exact Option.or_eq_some_iff.mpr (Or.inl hc)
    exact head?_dropWhile c hfirst
  · intro c hc
    rw [trim, trimBoth, List.getLast?_reverse] at hc
    exact head?_dropWhile c hc

theorem head?_lowerAfter {before cs : List Char} {d : Char} (h : d ∈ (lowerAfter before cs).head?) :
    ∃ c ∈ cs.head?, isBlank d = isBlank c := by
  cases cs with
  | nil => cases h
  | cons c cs =>
      rw [lowerAfter, List.head?_append] at h
      rcases Option.or_eq_some_iff.mp h with h | ⟨hnone, -⟩
      · exact ⟨c, rfl, (of_mem_lowerBetween (List.mem_of_mem_head? h)).2⟩
      · exact absurd (List.head?_eq_none_iff.mp hnone) (lowerBetween_ne_nil _ _ _)

theorem getLast?_lowerAfter {before cs : List Char} {d : Char}
    (h : d ∈ (lowerAfter before cs).getLast?) : ∃ c ∈ cs.getLast?, isBlank d = isBlank c := by
  induction cs generalizing before with
  | nil => cases h
  | cons c cs ih =>
      rw [lowerAfter] at h
      cases cs with
      | nil =>
          rw [lowerAfter, List.append_nil] at h
          exact ⟨c, rfl, (of_mem_lowerBetween (List.mem_of_mem_getLast? h)).2⟩
      | cons c' cs =>
          have hne : lowerAfter (c :: before) (c' :: cs) ≠ [] := by
            rw [lowerAfter]
            exact List.append_ne_nil_of_left_ne_nil (lowerBetween_ne_nil _ _ _) _
          rw [List.getLast?_append_of_ne_nil _ hne] at h
          rw [List.getLast?_cons_cons]
          exact ih h

theorem Trimmed.lower {cs : List Char} (h : Trimmed cs) : Trimmed (lower cs) := by
  constructor
  · intro d hd
    obtain ⟨c, hc, heq⟩ := head?_lowerAfter hd
    rw [heq, h.head c hc]
  · intro d hd
    obtain ⟨c, hc, heq⟩ := getLast?_lowerAfter hd
    rw [heq, h.last c hc]

/-- **Trimming and lower case give a normal form together.** -/
theorem lower_trim_idempotent (cs : List Char) :
    Text.lower (trim (Text.lower (trim cs))) = Text.lower (trim cs) := by
  rw [(trimmed_trim cs).lower.trim_eq, lower_lower]

/-! ## Blanks around a text -/

def AllBlank (cs : List Char) : Prop := ∀ c ∈ cs, isBlank c = true

/-- A trimmed text is what lies between the blanks at both ends. -/
theorem exists_blanks_around (cs : List Char) :
    ∃ lead tail, AllBlank lead ∧ AllBlank tail ∧ cs = lead ++ (trim cs ++ tail) := by
  have hsplit : ∀ xs : List Char, xs = xs.takeWhile isBlank ++ xs.dropWhile isBlank := fun _ =>
    List.takeWhile_append_dropWhile.symm
  have hblank : ∀ xs : List Char, AllBlank (xs.takeWhile isBlank) := fun _ =>
    List.all_eq_true.mp List.all_takeWhile
  refine ⟨cs.takeWhile isBlank, ((cs.dropWhile isBlank).reverse.takeWhile isBlank).reverse,
    hblank cs, fun c hc => hblank _ c (List.mem_reverse.mp hc), ?_⟩
  rw [trim, trimBoth, ← List.reverse_append, ← hsplit, List.reverse_reverse, ← hsplit]

theorem trim_of_blanks_around {lead core tail : List Char} (hlead : AllBlank lead)
    (htail : AllBlank tail) (hcore : Trimmed core) : trim (lead ++ (core ++ tail)) = core := by
  have htail' : ∀ c ∈ tail.reverse, isBlank c = true := fun c hc => htail c (List.mem_reverse.mp hc)
  rw [trim, trimBoth, List.dropWhile_append_of_pos hlead]
  cases core with
  | nil =>
      rw [List.nil_append, List.dropWhile_eq_nil_iff.mpr htail]
      rfl
  | cons c core =>
      have hfirst : ¬ isBlank c = true := by simpa using hcore.head c rfl
      have hlast : ∀ d ∈ (c :: core).reverse.head?, isBlank d = false := by
        rw [List.head?_reverse]
        exact hcore.last
      rw [List.cons_append, List.dropWhile_cons_of_neg hfirst, ← List.cons_append, List.reverse_append,
        List.dropWhile_append_of_pos htail', dropWhile_of_head hlast, List.reverse_reverse]

theorem exists_range_of_inRanges {ranges : List (Nat × Nat)} {n : Nat} (h : inRanges ranges n = true) :
    ∃ range ∈ ranges, range.1 ≤ n ∧ n ≤ range.2 := by
  induction ranges with
  | nil => cases h
  | cons range ranges ih =>
      obtain ⟨lo, hi⟩ := range
      rw [inRanges] at h
      split at h
      · cases h
      · rename_i hbegun
        rcases Bool.or_eq_true_iff.mp h with h | h
        · exact ⟨(lo, hi), List.mem_cons_self, Nat.not_lt.mp hbegun, of_decide_eq_true h⟩
        · obtain ⟨range, hmem, hrange⟩ := ih h
          exact ⟨range, List.mem_cons_of_mem _ hmem, hrange⟩

theorem blankRanges_uncased : (blankRanges.all fun range =>
    outsideOf Table.caseIgnorable range.1 range.2 && outsideOf Table.cased range.1 range.2) = true := by
  decide +kernel

/-- A blank ends the search for a letter with case: it is not skipped, and it is none. -/
theorem uncased_of_isBlank {c : Char} (h : isBlank c = true) :
    inRanges Table.caseIgnorable c.toNat = false ∧ inRanges Table.cased c.toNat = false := by
  obtain ⟨range, hrange, hlo, hhi⟩ := exists_range_of_inRanges ((isBlank_eq c).symm.trans h)
  obtain ⟨hignorable, hcased⟩ := Bool.and_eq_true_iff.mp (List.all_eq_true.mp blankRanges_uncased _ hrange)
  exact ⟨inRanges_of_outsideOf hignorable hlo hhi, inRanges_of_outsideOf hcased hlo hhi⟩

/-- What begins with a blank, or is empty, is not looked at in the search for a letter with case. -/
theorem nextIsCased_append {cs far : List Char} (h : ∀ c ∈ far.head?, isBlank c = true) :
    nextIsCased (cs ++ far) = nextIsCased cs := by
  induction cs with
  | nil =>
      cases far with
      | nil => rfl
      | cons c far =>
          obtain ⟨hignorable, hcased⟩ := uncased_of_isBlank (h c rfl)
          simp [nextIsCased, hignorable, hcased]
  | cons c cs ih =>
      cases hignorable : inRanges Table.caseIgnorable c.toNat with
      | true =>
          have hskip : ∀ rest, nextIsCased (c :: rest) = nextIsCased rest := fun rest => by
            simp [nextIsCased, hignorable]
          rw [List.cons_append, hskip, hskip, ih]
      | false => simp [nextIsCased, hignorable]

/-- **Lower case does not look past blanks**: a text becomes the same whether blanks lie around it, with
whatever is behind them, or nothing does. -/
theorem lowerAfter_append {before far cs rest : List Char} (hfar : ∀ c ∈ far.head?, isBlank c = true)
    (hrest : ∀ c ∈ rest.head?, isBlank c = true) :
    lowerAfter (before ++ far) (cs ++ rest)
      = lowerAfter before cs ++ lowerAfter (cs.reverse ++ (before ++ far)) rest := by
  induction cs generalizing before with
  | nil => rfl
  | cons c cs ih =>
      -- only a sigma looks around, and its search ends at the first blank on either side
      have hsigma : isFinalSigma (before ++ far) (cs ++ rest) = isFinalSigma before cs := by
        rw [isFinalSigma, nextIsCased_append hfar, nextIsCased_append hrest, isFinalSigma]
      have hbetween : lowerBetween (before ++ far) c (cs ++ rest) = lowerBetween before c cs := by
        rw [lowerBetween, hsigma, lowerBetween]
      rw [List.cons_append, lowerAfter, hbetween, lowerAfter, ← List.cons_append, ih, List.append_assoc,
        List.reverse_cons, List.append_assoc]
      rfl

theorem lowerChar_of_isBlank {c : Char} (h : isBlank c = true) : lowerChar c = c := by
  rcases lowerChar_cases c with hsame | ⟨-, hnot, -⟩
  · exact hsame
  · rw [h] at hnot
    cases hnot

theorem lowerAfter_of_allBlank {before cs : List Char} (h : AllBlank cs) : lowerAfter before cs = cs :=
  lowerAfter_of_lowered fun c hc => lowerChar_of_isBlank (h c hc)

theorem lower_blanks_around {lead core tail : List Char} (hlead : AllBlank lead) (htail : AllBlank tail) :
    Text.lower (lead ++ (core ++ tail)) = lead ++ (Text.lower core ++ tail) := by
  -- the blanks in front stay and are what stands before the rest
  have hbefore : ∀ before, lowerAfter before (lead ++ (core ++ tail))
      = lead ++ lowerAfter (lead.reverse ++ before) (core ++ tail) := by
    clear htail
    induction lead with
    | nil => exact fun _ => rfl
    | cons c lead ih =>
        obtain ⟨hc, hlead⟩ := List.forall_mem_cons.mp hlead
        intro before
        rw [List.cons_append, lowerAfter, lowerBetween_of_lowered (lowerChar_of_isBlank hc), ih hlead,
          List.reverse_cons, List.append_assoc]
        rfl
  have hfar : ∀ c ∈ lead.reverse.head?, isBlank c = true := fun c hc =>
    hlead c (List.mem_reverse.mp (List.mem_of_mem_head? hc))
  have hrest : ∀ c ∈ tail.head?, isBlank c = true := fun c hc => htail c (List.mem_of_mem_head? hc)
  have hcore : lowerAfter ([] ++ lead.reverse) (core ++ tail)
      = lowerAfter [] core ++ lowerAfter (core.reverse ++ ([] ++ lead.reverse)) tail :=
    lowerAfter_append hfar hrest
  rw [List.nil_append] at hcore
  rw [Text.lower, hbefore, List.append_nil, hcore, lowerAfter_of_allBlank htail]
  rfl

/-- **Trimming commutes with lower case.** -/
theorem lower_trim (cs : List Char) : Text.lower (trim cs) = trim (Text.lower cs) := by
  obtain ⟨lead, tail, hlead, htail, hcs⟩ := exists_blanks_around cs
  have hlower : Text.lower cs = lead ++ (Text.lower (trim cs) ++ tail) :=
    (congrArg Text.lower hcs).trans (lower_blanks_around hlead htail)
  rw [hlower, trim_of_blanks_around hlead htail (trimmed_trim cs).lower]

end LintRunner.Text
