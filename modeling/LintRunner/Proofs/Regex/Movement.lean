import LintRunner.Proofs.Regex.Outcomes

/-!
# How a search moves

`Place.Passes p seg p'` says that `p'` lies behind the characters `seg` that follow `p`. Every outcome
of a node lies behind where the node started (`Node.outcomes_passes`), and a node leaves the captures
of all groups alone that do not occur in it (`Node.outcomes_agree`).
-/

set_option autoImplicit false

namespace LintRunner.Regex

/-! ## Passing over characters -/

/-- The second place lies behind the given characters, which follow the first place. -/
structure Place.Passes (p : Place) (seg : List Char) (p' : Place) : Prop where
  after : p.after = seg ++ p'.after
  before : p'.before = seg.reverse ++ p.before
  offset : p'.offset = p.offset + seg.length

namespace Place

theorem Passes.refl (p : Place) : p.Passes [] p := ⟨rfl, rfl, rfl⟩

theorem Passes.trans {p p' p'' : Place} {seg seg' : List Char} (h : p.Passes seg p')
    (h' : p'.Passes seg' p'') : p.Passes (seg ++ seg') p'' := by
  refine ⟨?_, ?_, ?_⟩
  · rw [h.after, h'.after, List.append_assoc]
  · rw [h'.before, h.before, List.reverse_append, List.append_assoc]
  · rw [h'.offset, h.offset, List.length_append, Nat.add_assoc]

/-- Where one arrives depends only on the characters passed over. -/
theorem Passes.unique {p p₁ p₂ : Place} {seg : List Char} (h₁ : p.Passes seg p₁)
    (h₂ : p.Passes seg p₂) : p₁ = p₂ := by
  have hafter : p₁.after = p₂.after := List.append_cancel_left (h₁.after.symm.trans h₂.after)
  have hbefore : p₁.before = p₂.before := h₁.before.trans h₂.before.symm
  have hoffset : p₁.offset = p₂.offset := h₁.offset.trans h₂.offset.symm
  cases p₁
  cases p₂
  simp_all

/-- From one place to another one passes over the same characters in every way. -/
theorem Passes.seg_eq {p p' : Place} {seg₁ seg₂ : List Char} (h₁ : p.Passes seg₁ p')
    (h₂ : p.Passes seg₂ p') : seg₁ = seg₂ :=
  List.append_cancel_right (h₁.after.symm.trans h₂.after)

/-- One can pass over any characters that follow. -/
theorem exists_passes {p : Place} {seg rest : List Char} (h : p.after = seg ++ rest) :
    ∃ p', p.Passes seg p' ∧ p'.after = rest :=
  ⟨⟨seg.reverse ++ p.before, rest, p.offset + seg.length⟩, ⟨h, rfl, rfl⟩, rfl⟩

/-- Of two places behind the same one, the nearer lies on the way to the other. -/
theorem Passes.split {p p₁ p₂ : Place} {seg₁ seg₂ : List Char} (h₁ : p.Passes seg₁ p₁)
    (h₂ : p.Passes seg₂ p₂) (hlen : seg₁.length ≤ seg₂.length) :
    ∃ rest, seg₂ = seg₁ ++ rest ∧ p₁.Passes rest p₂ := by
  obtain ⟨rest, rfl⟩ : seg₁ <+: seg₂ := by
    have hsegs : seg₁ ++ p₁.after = seg₂ ++ p₂.after := h₁.after.symm.trans h₂.after
    exact List.prefix_of_prefix_length_le ⟨_, hsegs⟩ ⟨_, rfl⟩ hlen
  have hafter : p₁.after = rest ++ p₂.after := by
    have h := h₁.after.symm.trans h₂.after
    rw [List.append_assoc] at h
    exact List.append_cancel_left h
  obtain ⟨q, hq, -⟩ := exists_passes hafter
  rw [h₂.unique (h₁.trans hq)]
  exact ⟨rest, rfl, hq⟩

theorem passes_cons {p p' : Place} {c : Char} {seg : List Char} :
    p.Passes (c :: seg) p' ↔ ∃ after, p.after = c :: after
      ∧ Passes ⟨c :: p.before, after, p.offset + 1⟩ seg p' := by
  constructor
  · intro h
    refine ⟨seg ++ p'.after, h.after, rfl, ?_, ?_⟩
    · rw [h.before, List.reverse_cons, List.append_assoc]; rfl
    · rw [h.offset, List.length_cons]; show _ = p.offset + 1 + seg.length; omega
  · rintro ⟨after, hafter, h⟩
    refine ⟨?_, ?_, ?_⟩
    · rw [hafter]; exact congrArg (c :: ·) h.after
    · rw [h.before, List.reverse_cons, List.append_assoc]; rfl
    · rw [h.offset, List.length_cons]; show p.offset + 1 + seg.length = _; omega

theorem Passes.back {p p' : Place} {seg : List Char} {c : Char} (h : p.Passes (seg ++ [c]) p') :
    p.Passes seg p'.back := by
  have hbefore : p'.before = c :: (seg.reverse ++ p.before) := by
    rw [h.before, List.reverse_append]; rfl
  have hoffset : p'.offset = p.offset + seg.length + 1 := by
    rw [h.offset, List.length_append]; rfl
  have hback : p'.back = ⟨seg.reverse ++ p.before, c :: p'.after, p'.offset - 1⟩ := by
    rw [Place.back, hbefore]
  rw [hback]
  refine ⟨?_, rfl, ?_⟩
  · rw [h.after, List.append_assoc]; rfl
  · show p'.offset - 1 = _; omega

theorem advance?_eq_some {accepts : Char → Bool} {p p' : Place} :
    p.advance? accepts = some p' ↔ ∃ c, accepts c = true ∧ p.Passes [c] p' := by
  constructor
  · intro h
    rw [advance?] at h
    split at h
    · cases h
    · rename_i c after hafter
      split at h
      · rename_i hc
        injection h with h
        subst h
        exact ⟨c, hc, passes_cons.mpr ⟨after, hafter, Passes.refl _⟩⟩
      · cases h
  · rintro ⟨c, hc, h⟩
    obtain ⟨after, hafter, h'⟩ := passes_cons.mp h
    rw [advance?, hafter]
    simp only [hc, if_true]
    exact congrArg some (Passes.unique (Passes.refl _) h')

end Place

theorem eq_of_passes_nil {p : Place} {caps : Captures} {t : Trail} (h : p.Passes [] t.place)
    (hcaps : t.captures = caps) : t = ⟨p, caps⟩ := by
  obtain ⟨place, captures⟩ := t
  have hplace : place = p := h.unique (Place.Passes.refl p)
  subst hplace hcaps
  rfl

theorem mem_advanceOutcomes {accepts : Char → Bool} {t t' : Trail} :
    t' ∈ advanceOutcomes accepts t
      ↔ ∃ c, accepts c = true ∧ t.place.Passes [c] t'.place ∧ t'.captures = t.captures := by
  rw [advanceOutcomes]
  constructor
  · intro h
    split at h
    · rename_i p hp
      rw [List.mem_singleton] at h
      subst h
      obtain ⟨c, hc, hpass⟩ := Place.advance?_eq_some.mp hp
      exact ⟨c, hc, hpass, rfl⟩
    · cases h
  · rintro ⟨c, hc, hpass, hcaps⟩
    rw [Place.advance?_eq_some.mpr ⟨c, hc, hpass⟩, List.mem_singleton]
    cases t'
    simp_all

/-! ## Runs of one character class -/

section

variable {accepts : Char → Bool}

def Within (most : Option Nat) (n : Nat) : Prop := ∀ m, most = some m → n ≤ m

theorem within_succ_of_below {most : Option Nat} {n : Nat} :
    Place.below most n = true ↔ Within most (n + 1) := by
  cases most with
  | none => simp [Place.below, Within]
  | some m =>
      have hbelow : Place.below (some m) n = true ↔ n < m := by simp [Place.below]
      have hwithin : Within (some m) (n + 1) ↔ n + 1 ≤ m := by simp [Within]
      exact hbelow.trans hwithin.symm

/-- A run stops at the limit or before the first character that is not of the class. -/
theorem advanceWhile_spec (most : Option Nat) (p : Place) (count : Nat)
    (hcount : Within most count) :
    ∃ seg, p.Passes seg (Place.advanceWhile accepts most p.before p.offset count p.after).1
      ∧ (∀ c ∈ seg, accepts c = true)
      ∧ (Place.advanceWhile accepts most p.before p.offset count p.after).2 = count + seg.length
      ∧ Within most (count + seg.length)
      ∧ ∀ seg' rest, p.after = seg' ++ rest → (∀ c ∈ seg', accepts c = true) →
          Within most (count + seg'.length) → seg'.length ≤ seg.length := by
  obtain ⟨before, after, offset⟩ := p
  induction after generalizing before offset count with
  | nil =>
      refine ⟨[], Place.Passes.refl _, by simp, rfl, hcount, ?_⟩
      intro seg' rest h _ _
      have hnil : seg' = [] := (List.append_eq_nil_iff.mp h.symm).1
      exact Nat.le_of_eq (congrArg List.length hnil)
  | cons c after ih =>
      -- the run goes on by this character or ends before it; that it cannot be longer is what follows
      -- for the rest
      show ∃ seg, _ ∧ _ ∧ (Place.advanceWhile accepts most before offset count (c :: after)).2 = _ ∧ _
      rw [Place.advanceWhile]
      by_cases h : (Place.below most count && accepts c) = true
      · rw [if_pos h]
        rw [Bool.and_eq_true] at h
        obtain ⟨hbelow, hc⟩ := h
        have hnext : Within most (count + 1) := within_succ_of_below.mp hbelow
        obtain ⟨seg, hpass, hall, hlen, hwithin, hmax⟩ := ih (count + 1) hnext (c :: before) (offset + 1)
        refine ⟨c :: seg, Place.passes_cons.mpr ⟨after, rfl, hpass⟩, ?_, ?_, ?_, ?_⟩
        · intro d hd
          rcases List.mem_cons.mp hd with rfl | hd
          · exact hc
          · exact hall d hd
        · rw [hlen, List.length_cons]; omega
        · rw [List.length_cons, show count + (seg.length + 1) = count + 1 + seg.length by omega]
          exact hwithin
        · intro seg' rest hsplit hall' hwithin'
          cases seg' with
          | nil => simp
          | cons d seg' =>
              injection hsplit with _ hrest
              have hbound := hmax seg' rest hrest (fun e he => hall' e (List.mem_cons_of_mem _ he))
                (by rw [List.length_cons] at hwithin'
                    rwa [show count + 1 + seg'.length = count + (seg'.length + 1) by omega])
              simpa using hbound
      · rw [if_neg h]
        refine ⟨[], Place.Passes.refl _, by simp, rfl, hcount, ?_⟩
        intro seg' rest hsplit hall' hwithin'
        cases seg' with
        | nil => simp
        | cons d seg' =>
            injection hsplit with hd _
            subst hd
            refine absurd ?_ h
            rw [Bool.and_eq_true]
            refine ⟨within_succ_of_below.mpr ?_, hall' c List.mem_cons_self⟩
            intro m hm
            have := hwithin' m hm
            rw [List.length_cons] at this
            omega

theorem exists_concat {α : Type} {l : List α} {n : Nat} (h : n + 1 ≤ l.length) :
    ∃ init a, l = init ++ [a] := by
  rcases List.eq_nil_or_concat l with rfl | hconcat
  · simp at h
  · simpa using hconcat

/-- Giving back leads to the places behind the shorter beginnings. -/
theorem mem_retreatOutcomes {p p' : Place} {seg : List Char} {caps : Captures} {n : Nat} {t : Trail}
    (h : p.Passes seg p') (hn : n ≤ seg.length) :
    t ∈ retreatOutcomes caps n p'
      ↔ ∃ seg₁ seg₂, seg = seg₁ ++ seg₂ ∧ seg₂.length ≤ n ∧ p.Passes seg₁ t.place
          ∧ t.captures = caps := by
  induction n generalizing seg p' with
  | zero =>
      rw [retreatOutcomes, List.mem_singleton]
      constructor
      · rintro rfl
        exact ⟨seg, [], by simp, Nat.le_refl _, h, rfl⟩
      · rintro ⟨seg₁, seg₂, rfl, hlen, hpass, rfl⟩
        have hnil : seg₂ = [] := List.length_eq_zero_iff.mp (Nat.le_zero.mp hlen)
        subst hnil
        rw [List.append_nil] at h
        rw [h.unique hpass]
  | succ n ih =>
      obtain ⟨init, c, rfl⟩ := exists_concat hn
      have hinit : n ≤ init.length := by simpa using hn
      rw [retreatOutcomes, List.mem_cons, ih h.back hinit]
      constructor
      · rintro (rfl | ⟨seg₁, seg₂, rfl, hlen, hpass, hcaps⟩)
        · exact ⟨init ++ [c], [], by simp, by simp, h, rfl⟩
        · exact ⟨seg₁, seg₂ ++ [c], by simp, by simpa using hlen, hpass, hcaps⟩
      · rintro ⟨seg₁, seg₂, hsplit, hlen, hpass, hcaps⟩
        -- the place itself gives back nothing, the places before it one character more than it needs
        by_cases hnil : seg₂ = []
        · subst hnil
          rw [List.append_nil] at hsplit
          subst hsplit
          left
          rw [← hcaps, h.unique hpass]
        · right
          refine ⟨seg₁, seg₂.dropLast, ?_, by simp; omega, hpass, hcaps⟩
          have := congrArg List.dropLast hsplit
          rwa [List.dropLast_concat, List.dropLast_append_of_ne_nil hnil] at this

/-- Giving back leads to smaller and smaller offsets. -/
theorem retreatOutcomes_descending {p p' : Place} {seg : List Char} {n : Nat} (caps : Captures)
    (h : p.Passes seg p') (hn : n ≤ seg.length) :
    (retreatOutcomes caps n p').Pairwise fun t₁ t₂ => t₂.place.offset < t₁.place.offset := by
  induction n generalizing seg p' with
  | zero => simp [retreatOutcomes]
  | succ n ih =>
      obtain ⟨init, c, rfl⟩ := exists_concat hn
      have hinit : n ≤ init.length := by simpa using hn
      rw [retreatOutcomes, List.pairwise_cons]
      refine ⟨?_, ih h.back hinit⟩
      intro t ht
      obtain ⟨seg₁, seg₂, hsplit, -, hpass, -⟩ := (mem_retreatOutcomes h.back hinit).mp ht
      rw [hpass.offset, h.offset, List.length_append, hsplit, List.length_append]
      show _ < p.offset + (seg₁.length + seg₂.length + 1)
      omega

/-- Going on leads to the places behind the longer beginnings. -/
theorem mem_extendOutcomes {most : Option Nat} {p : Place} {count : Nat} {caps : Captures}
    {t : Trail} (hcount : Within most count) :
    t ∈ extendOutcomes accepts most caps p.before p.offset count p.after
      ↔ ∃ seg, (∀ c ∈ seg, accepts c = true) ∧ Within most (count + seg.length)
          ∧ p.Passes seg t.place ∧ t.captures = caps := by
  obtain ⟨before, after, offset⟩ := p
  induction after generalizing before offset count with
  | nil =>
      show t ∈ extendOutcomes accepts most caps before offset count [] ↔ _
      rw [extendOutcomes, List.mem_singleton]
      constructor
      · rintro rfl
        exact ⟨[], by simp, hcount, Place.Passes.refl _, rfl⟩
      · rintro ⟨seg, -, -, hpass, hcaps⟩
        have hnil : seg = [] := (List.append_eq_nil_iff.mp hpass.after.symm).1
        subst hnil
        exact eq_of_passes_nil hpass hcaps
  | cons c after ih =>
      show t ∈ extendOutcomes accepts most caps before offset count (c :: after) ↔ _
      rw [extendOutcomes, List.mem_cons]
      constructor
      · rintro (rfl | h)
        · exact ⟨[], by simp, hcount, Place.Passes.refl _, rfl⟩
        · split at h
          · rename_i hgo
            rw [Bool.and_eq_true] at hgo
            have hnext : Within most (count + 1) := within_succ_of_below.mp hgo.1
            obtain ⟨seg, hall, hwithin, hpass, hcaps⟩ :=
              (ih hnext (c :: before) (offset + 1)).mp h
            refine ⟨c :: seg, ?_, ?_, Place.passes_cons.mpr ⟨after, rfl, hpass⟩, hcaps⟩
            · intro d hd
              rcases List.mem_cons.mp hd with rfl | hd
              · exact hgo.2
              · exact hall d hd
            · rw [List.length_cons, show count + (seg.length + 1) = count + 1 + seg.length by omega]
              exact hwithin
          · cases h
      · rintro ⟨seg, hall, hwithin, hpass, hcaps⟩
        cases seg with
        | nil =>
            left
            exact eq_of_passes_nil hpass hcaps
        | cons d seg =>
            right
            obtain ⟨after', hafter, hpass'⟩ := Place.passes_cons.mp hpass
            injection hafter with hd hrest
            subst hd hrest
            have hnext : Within most (count + 1) := fun m hm => by
              have := hwithin m hm
              rw [List.length_cons] at this
              omega
            rw [if_pos (by rw [within_succ_of_below.mpr hnext, hall c List.mem_cons_self]; rfl)]
            refine (ih hnext (c :: before) (offset + 1)).mpr
              ⟨seg, fun e he => hall e (List.mem_cons_of_mem _ he), ?_, hpass', hcaps⟩
            rw [List.length_cons] at hwithin
            rwa [show count + 1 + seg.length = count + (seg.length + 1) by omega]

/-- Whatever the limit, going on passes over characters. -/
theorem extendOutcomes_passes {most : Option Nat} {p : Place} {count : Nat} {caps : Captures}
    {t : Trail} (h : t ∈ extendOutcomes accepts most caps p.before p.offset count p.after) :
    (∃ seg, p.Passes seg t.place) ∧ t.captures = caps := by
  obtain ⟨before, after, offset⟩ := p
  induction after generalizing before offset count with
  | nil =>
      rw [show t = ⟨⟨before, [], offset⟩, caps⟩ from List.mem_singleton.mp h]
      exact ⟨⟨[], Place.Passes.refl _⟩, rfl⟩
  | cons c after ih =>
      rw [extendOutcomes, List.mem_cons] at h
      rcases h with rfl | h
      · exact ⟨⟨[], Place.Passes.refl _⟩, rfl⟩
      · split at h
        · obtain ⟨⟨seg, hpass⟩, hcaps⟩ := ih (c :: before) (offset + 1) h
          exact ⟨⟨c :: seg, Place.passes_cons.mpr ⟨after, rfl, hpass⟩⟩, hcaps⟩
        · cases h

/-- The outcomes of a repeated character that may give back: the runs of the class whose length
lies between the bounds. -/
theorem mem_repeatOneOutcomes {greed : Greed} {least : Nat} {most : Option Nat} {t t' : Trail}
    (hgreed : greed ≠ .possessive) (hbounds : Within most least) :
    t' ∈ repeatOneOutcomes greed least most accepts t
      ↔ ∃ seg, (∀ c ∈ seg, accepts c = true) ∧ least ≤ seg.length ∧ Within most seg.length
          ∧ t.place.Passes seg t'.place ∧ t'.captures = t.captures := by
  have hzero : Within most 0 := fun _ _ => Nat.zero_le _
  cases greed with
  | possessive => exact absurd rfl hgreed
  | greedy =>
      obtain ⟨run, hpass, hall, hlen, hwithin, hmax⟩ :=
        @advanceWhile_spec accepts most t.place 0 hzero
      rw [Nat.zero_add] at hlen hwithin
      simp only [repeatOneOutcomes, hlen]
      by_cases hshort : run.length < least
      · rw [if_pos hshort]
        refine ⟨fun h => absurd h List.not_mem_nil, ?_⟩
        rintro ⟨seg, hall', hleast, hmost, hpass', -⟩
        have := hmax seg t'.place.after hpass'.after hall' (by rwa [Nat.zero_add])
        omega
      · rw [if_neg hshort, mem_retreatOutcomes hpass (Nat.sub_le _ _)]
        constructor
        · rintro ⟨seg₁, seg₂, rfl, hback, hpass', hcaps⟩
          rw [List.length_append] at hback hshort hwithin
          refine ⟨seg₁, fun c hc => hall c (List.mem_append_left _ hc), by omega, ?_, hpass', hcaps⟩
          exact fun m hm => Nat.le_trans (Nat.le_add_right _ _) (hwithin m hm)
        · rintro ⟨seg, hall', hleast, hmost, hpass', hcaps⟩
          have hle := hmax seg t'.place.after hpass'.after hall' (by rwa [Nat.zero_add])
          obtain ⟨rest, rfl, -⟩ := hpass'.split hpass hle
          rw [List.length_append]
          exact ⟨seg, rest, rfl, by omega, hpass', hcaps⟩
  | lazy =>
      have hleast : Within (some least) 0 := fun _ _ => Nat.zero_le _
      obtain ⟨run, hpass, hall, hlen, hwithin, hmax⟩ :=
        @advanceWhile_spec accepts (some least) t.place 0 hleast
      rw [Nat.zero_add] at hlen hwithin
      have hrun := hwithin least rfl
      simp only [repeatOneOutcomes, hlen]
      by_cases hshort : run.length < least
      · rw [if_pos hshort]
        refine ⟨fun h => absurd h List.not_mem_nil, ?_⟩
        rintro ⟨seg, hall', hleast, -, hpass', -⟩
        -- the first characters of such a run would be a run of the required length
        have htake := hmax (seg.take least) (seg.drop least ++ t'.place.after)
          (by rw [← List.append_assoc, List.take_append_drop]; exact hpass'.after)
          (fun c hc => hall' c (List.mem_of_mem_take hc))
          (fun m hm => by injection hm with hm; rw [List.length_take]; omega)
        rw [List.length_take] at htake
        omega
      · have hexact : run.length = least := by omega
        rw [if_neg hshort, mem_extendOutcomes (by rwa [hexact])]
        constructor
        · rintro ⟨seg, hall', hwithin', hpass', hcaps⟩
          refine ⟨run ++ seg, ?_, ?_, ?_, hpass.trans hpass', hcaps⟩
          · intro c hc
            rcases List.mem_append.mp hc with hc | hc
            · exact hall c hc
            · exact hall' c hc
          · rw [List.length_append]; omega
          · rwa [List.length_append]
        · rintro ⟨seg, hall', hleast', hmost, hpass', hcaps⟩
          obtain ⟨rest, rfl, hrest⟩ := hpass.split hpass' (by omega)
          rw [List.length_append] at hmost
          exact ⟨rest, fun c hc => hall' c (List.mem_append_right _ hc), hmost, hrest, hcaps⟩

/-- A repeated character passes over characters and captures nothing. -/
theorem repeatOneOutcomes_passes {greed : Greed} {least : Nat} {most : Option Nat} {t t' : Trail}
    (h : t' ∈ repeatOneOutcomes greed least most accepts t) :
    (∃ seg, t.place.Passes seg t'.place) ∧ t'.captures = t.captures := by
  have hzero : ∀ m : Option Nat, Within m 0 := fun _ _ _ => Nat.zero_le _
  cases greed with
  | possessive =>
      obtain ⟨run, hpass, -⟩ := @advanceWhile_spec accepts most t.place 0 (hzero most)
      simp only [repeatOneOutcomes] at h
      split at h
      · cases h
      · rw [List.mem_singleton] at h
        subst h
        exact ⟨⟨run, hpass⟩, rfl⟩
  | greedy =>
      obtain ⟨run, hpass, -, hlen, -⟩ :=
        @advanceWhile_spec accepts most t.place 0 (hzero most)
      simp only [repeatOneOutcomes] at h
      split at h
      · cases h
      · obtain ⟨seg₁, seg₂, -, -, hpass', hcaps⟩ :=
          (mem_retreatOutcomes hpass (by omega)).mp h
        exact ⟨⟨seg₁, hpass'⟩, hcaps⟩
  | lazy =>
      obtain ⟨run, hpass, -⟩ :=
        @advanceWhile_spec accepts (some least) t.place 0 (hzero _)
      simp only [repeatOneOutcomes] at h
      split at h
      · cases h
      · obtain ⟨⟨seg, hpass'⟩, hcaps⟩ := extendOutcomes_passes h
        exact ⟨⟨run ++ seg, hpass.trans hpass'⟩, hcaps⟩

end

end LintRunner.Regex
