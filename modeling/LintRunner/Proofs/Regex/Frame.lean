import LintRunner.Proofs.Regex.Movement

/-!
# What a node leaves alone

Every outcome of a node lies behind where the node started (`Node.outcomes_passes`), and a node changes
the captures of those groups only that it opens (`Node.outcomes_agree`).
-/

set_option autoImplicit false

namespace LintRunner.Regex

/-! ## The groups of a tree -/

def Node.opens : Node → List Nat
  | .cat first second | .alt first second | .given _ first second => first.opens ++ second.opens
  | .times _ _ _ body | .atomic body | .ahead _ body | .behind _ _ body => body.opens
  | .capture group body => group :: body.opens
  | _ => []

/-! ## Tables of offsets -/

namespace Captures

theorem lookup_put_self (entries : List (Nat × Nat)) (key value : Nat) :
    (put entries key value).lookup key = some value := by
  rw [put, List.lookup_cons_self]

theorem lookup_filter_ne {key g : Nat} (hne : g ≠ key) (entries : List (Nat × Nat)) :
    (entries.filter fun entry => entry.1 != key).lookup g = entries.lookup g := by
  induction entries with
  | nil => rfl
  | cons entry entries ih =>
      obtain ⟨k, v⟩ := entry
      by_cases hk : k = key
      · subst hk
        have hg : (g == k) = false := by simpa using hne
        rw [List.filter_cons_of_neg (by simp), ih, List.lookup_cons, hg]
      · rw [List.filter_cons_of_pos (by simpa using hk), List.lookup_cons, List.lookup_cons, ih]

theorem lookup_put_ne {key g : Nat} (hne : g ≠ key) (entries : List (Nat × Nat)) (value : Nat) :
    (put entries key value).lookup g = entries.lookup g := by
  have hg : (g == key) = false := by simpa using hne
  rw [put, List.lookup_cons, hg]
  exact lookup_filter_ne hne entries

/-- Two captures say the same about a group. -/
structure Agree (g : Nat) (c c' : Captures) : Prop where
  starts : c'.starts.lookup g = c.starts.lookup g
  stops : c'.stops.lookup g = c.stops.lookup g

theorem Agree.refl (g : Nat) (c : Captures) : c.Agree g c := ⟨rfl, rfl⟩

theorem Agree.trans {g : Nat} {c c' c'' : Captures} (h : c.Agree g c') (h' : c'.Agree g c'') :
    c.Agree g c'' :=
  ⟨h'.starts.trans h.starts, h'.stops.trans h.stops⟩

theorem Agree.span? {g : Nat} {c c' : Captures} (h : c.Agree g c') : c'.span? g = c.span? g := by
  rw [Captures.span?, Captures.span?, h.starts, h.stops]

theorem agree_setStart {g group : Nat} (hne : g ≠ group) (c : Captures) (offset : Nat) :
    c.Agree g (c.setStart group offset) :=
  ⟨lookup_put_ne hne c.starts offset, rfl⟩

theorem agree_setStop {g group : Nat} (hne : g ≠ group) (c : Captures) (offset : Nat) :
    c.Agree g (c.setStop group offset) :=
  ⟨rfl, lookup_put_ne hne c.stops offset⟩

/-- A group that has begun and ended spans what lies between. -/
theorem span?_setStop {c c' : Captures} {group start stop : Nat}
    (hagree : (c.setStart group start).Agree group c') (hle : start ≤ stop) :
    (c'.setStop group stop).span? group = some (start, stop) := by
  have hstart : c'.starts.lookup group = some start :=
    hagree.starts.trans (lookup_put_self c.starts group start)
  have hstop : (put c'.stops group stop).lookup group = some stop :=
    lookup_put_self c'.stops group stop
  simp only [span?, setStop, hstart, hstop]
  show (if start ≤ stop then _ else _) = _
  rw [if_pos hle]

end Captures

/-! ## Relations that repetitions keep -/

section

variable {R : Trail → Trail → Prop} {outcomes : Trail → List Trail}

theorem greedyOutcomes_rel (hrefl : ∀ t, R t t) (htrans : ∀ {t t' t''}, R t t' → R t' t'' → R t t'')
    (hbody : ∀ t, ∀ t' ∈ outcomes t, R t t') (least : Nat) (most : Option Nat)
    (fuel count : Nat) (last : Option Nat) (t : Trail) :
    ∀ t' ∈ greedyOutcomes outcomes least most fuel count last t, R t t' := by
  induction fuel generalizing count last t with
  | zero => intro t' h; cases h
  | succ fuel ih =>
      have hround : ∀ last', ∀ t' ∈ (outcomes t).flatMap
          (greedyOutcomes outcomes least most fuel (count + 1) last'), R t t' := by
        intro last' t' h
        obtain ⟨u, hu, h⟩ := List.mem_flatMap.mp h
        exact htrans (hbody t u hu) (ih (count + 1) last' u t' h)
      intro t' h
      rw [greedyOutcomes] at h
      split at h
      · exact hround last t' h
      · split at h
        · rcases List.mem_append.mp h with h | h
          · exact hround _ t' h
          · rw [List.mem_singleton.mp h]; exact hrefl t
        · rw [List.mem_singleton.mp h]; exact hrefl t

/-- Whether a repetition prefers to go on or to stop does not change where it can end. -/
theorem mem_lazyOutcomes {least : Nat} {most : Option Nat} {fuel count : Nat} {last : Option Nat}
    {t t' : Trail} :
    t' ∈ lazyOutcomes outcomes least most fuel count last t
      ↔ t' ∈ greedyOutcomes outcomes least most fuel count last t := by
  induction fuel generalizing count last t with
  | zero => rfl
  | succ fuel ih =>
      have hround : ∀ last', t' ∈ (outcomes t).flatMap
            (lazyOutcomes outcomes least most fuel (count + 1) last')
          ↔ t' ∈ (outcomes t).flatMap
            (greedyOutcomes outcomes least most fuel (count + 1) last') := by
        intro last'
        simp only [List.mem_flatMap, ih]
      rw [lazyOutcomes, greedyOutcomes]
      split
      · exact hround last
      · split
        · rw [List.mem_cons, List.mem_append, List.mem_singleton, hround, or_comm]
        · rfl

theorem possessiveOutcomes_rel (hrefl : ∀ t, R t t)
    (htrans : ∀ {t t' t''}, R t t' → R t' t'' → R t t'')
    (hbody : ∀ t, ∀ t' ∈ outcomes t, R t t') (least : Nat) (most : Option Nat)
    (fuel count : Nat) (last : Option Nat) (t : Trail) :
    ∀ t' ∈ possessiveOutcomes outcomes least most fuel count last t, R t t' := by
  induction fuel generalizing count last t with
  | zero => intro t' h; cases h
  | succ fuel ih =>
      intro t' h
      rw [possessiveOutcomes] at h
      cases hhead : (outcomes t).head? with
      | none =>
          rw [hhead] at h
          simp only [Option.toList_none, List.flatMap_nil] at h
          split at h
          · cases h
          · split at h <;> rw [List.mem_singleton.mp h] <;> exact hrefl t
      | some u =>
          have hu : R t u := hbody t u (List.mem_of_mem_head? hhead)
          rw [hhead] at h
          simp only [Option.toList_some, List.flatMap_cons, List.flatMap_nil, List.append_nil] at h
          split at h
          · exact htrans hu (ih (count + 1) last u t' h)
          · split at h
            · exact htrans hu (ih (count + 1) _ u t' h)
            · rw [List.mem_singleton.mp h]; exact hrefl t

/-- A relation that is kept by standing still, by going on and by every round is kept by a
repetition. -/
theorem repeatBodyOutcomes_rel (hrefl : ∀ t, R t t)
    (htrans : ∀ {t t' t''}, R t t' → R t' t'' → R t t'')
    (hbody : ∀ t, ∀ t' ∈ outcomes t, R t t') {greed : Greed} {least : Nat} {most : Option Nat}
    {t t' : Trail} (h : t' ∈ repeatBodyOutcomes greed least most outcomes t) : R t t' := by
  cases greed with
  | greedy => exact greedyOutcomes_rel hrefl htrans hbody least most _ 0 none t t' h
  | lazy =>
      exact greedyOutcomes_rel hrefl htrans hbody least most _ 0 none t t' (mem_lazyOutcomes.mp h)
  | possessive => exact possessiveOutcomes_rel hrefl htrans hbody least most _ 0 none t t' h

end

/-! ## Where a node leads -/

theorem advanceOutcomes_passes {accepts : Char → Bool} {t t' : Trail}
    (h : t' ∈ advanceOutcomes accepts t) :
    (∃ seg, t.place.Passes seg t'.place) ∧ t'.captures = t.captures := by
  obtain ⟨c, -, hpass, hcaps⟩ := mem_advanceOutcomes.mp h
  exact ⟨⟨[c], hpass⟩, hcaps⟩

theorem repeatSpan_passes {rule : CaseRule} {cs : List Char} {p p' : Place}
    (h : repeatSpan rule cs p = some p') : ∃ seg, p.Passes seg p' := by
  induction cs generalizing p with
  | nil =>
      rw [repeatSpan] at h
      injection h with h
      subst h
      exact ⟨[], Place.Passes.refl p⟩
  | cons c cs ih =>
      rw [repeatSpan] at h
      split at h
      · rename_i q hq
        obtain ⟨d, -, hd⟩ := Place.advance?_eq_some.mp hq
        obtain ⟨seg, hseg⟩ := ih h
        exact ⟨[d] ++ seg, hd.trans hseg⟩
      · cases h

/-- The outcome of a look around is where it started, with the captures of an outcome of its body. -/
theorem mem_look {found : Option Trail} {negated : Bool} {t t' : Trail}
    (h : t' ∈ (match found with
      | some u => if negated then [] else [{ t with captures := u.captures }]
      | none => if negated then [t] else [])) :
    t' = t ∨ ∃ u, found = some u ∧ t' = { t with captures := u.captures } := by
  cases found with
  | none =>
      cases negated with
      | true => exact Or.inl (List.mem_singleton.mp h)
      | false => cases h
  | some u =>
      cases negated with
      | true => cases h
      | false => exact Or.inr ⟨u, rfl, List.mem_singleton.mp h⟩

/-- **Every outcome of a node lies behind where the node started.** -/
theorem Node.outcomes_passes {n : Node} {t t' : Trail} (h : t' ∈ n.outcomes t) :
    ∃ seg, t.place.Passes seg t'.place := by
  have hstay : ∀ u : Trail, ∃ seg, u.place.Passes seg u.place := fun u => ⟨[], Place.Passes.refl _⟩
  induction n generalizing t t' with
  | empty => rw [List.mem_singleton.mp h]; exact hstay t
  | code n negated rule => exact (advanceOutcomes_passes h).1
  | set members negated rule => exact (advanceOutcomes_passes h).1
  | any newline => exact (advanceOutcomes_passes h).1
  | anchor a =>
      rw [outcomes] at h
      split at h
      · rw [List.mem_singleton.mp h]; exact hstay t
      · cases h
  | cat first second ih₁ ih₂ =>
      obtain ⟨u, hu, h⟩ := List.mem_flatMap.mp h
      obtain ⟨seg₁, h₁⟩ := ih₁ hu
      obtain ⟨seg₂, h₂⟩ := ih₂ h
      exact ⟨seg₁ ++ seg₂, h₁.trans h₂⟩
  | alt first second ih₁ ih₂ =>
      rcases List.mem_append.mp h with h | h
      · exact ih₁ h
      · exact ih₂ h
  | times greed least most body ih =>
      rw [outcomes] at h
      split at h
      · exact (repeatOneOutcomes_passes h).1
      -- one round lies behind the place before it by induction, and so does every number of rounds
      · refine repeatBodyOutcomes_rel (R := fun t t' => ∃ seg, t.place.Passes seg t'.place)
          hstay ?_ (fun t t' h => ih h) h
        rintro _ _ _ ⟨seg₁, h₁⟩ ⟨seg₂, h₂⟩
        exact ⟨seg₁ ++ seg₂, h₁.trans h₂⟩
  | capture group body ih =>
      obtain ⟨u, hu, rfl⟩ := List.mem_map.mp h
      obtain ⟨seg, hseg⟩ := ih hu
      exact ⟨seg, hseg⟩
  | atomic body ih => exact ih (List.mem_of_mem_head? (by simpa [outcomes] using h))
  | ahead negated body ih =>
      rcases mem_look h with h' | ⟨u, -, h'⟩ <;> rw [h'] <;> exact hstay t
  | behind width negated body ih =>
      rw [outcomes] at h
      split at h
      · cases negated with
        | true => rw [List.mem_singleton.mp h]; exact hstay t
        | false => cases h
      · rcases mem_look h with h' | ⟨u, -, h'⟩ <;> rw [h'] <;> exact hstay t
  | same group rule =>
      rw [outcomes] at h
      split at h
      · cases h
      · split at h
        · rename_i p hp
          rw [List.mem_singleton.mp h]
          exact repeatSpan_passes hp
        · cases h
  | given group yes no ih₁ ih₂ =>
      rw [outcomes] at h
      split at h
      · exact ih₁ h
      · exact ih₂ h

/-- **A node leaves the captures of the groups alone that it does not open.** -/
theorem Node.outcomes_agree {n : Node} {g : Nat} {t t' : Trail} (hg : g ∉ n.opens)
    (h : t' ∈ n.outcomes t) : t.captures.Agree g t'.captures := by
  have hsame : ∀ {u u' : Trail}, u'.captures = u.captures → u.captures.Agree g u'.captures :=
    fun hcaps => hcaps ▸ Captures.Agree.refl g _
  induction n generalizing t t' with
  | empty => rw [List.mem_singleton.mp h]; exact hsame rfl
  | code n negated rule => exact hsame (advanceOutcomes_passes h).2
  | set members negated rule => exact hsame (advanceOutcomes_passes h).2
  | any newline => exact hsame (advanceOutcomes_passes h).2
  | anchor a =>
      rw [outcomes] at h
      split at h
      · rw [List.mem_singleton.mp h]; exact hsame rfl
      · cases h
  | cat first second ih₁ ih₂ =>
      simp only [Node.opens, List.mem_append, not_or] at hg
      obtain ⟨u, hu, h⟩ := List.mem_flatMap.mp h
      exact (ih₁ hg.1 hu).trans (ih₂ hg.2 h)
  | alt first second ih₁ ih₂ =>
      simp only [Node.opens, List.mem_append, not_or] at hg
      rcases List.mem_append.mp h with h | h
      · exact ih₁ hg.1 h
      · exact ih₂ hg.2 h
  | times greed least most body ih =>
      rw [outcomes] at h
      split at h
      · exact hsame (repeatOneOutcomes_passes h).2
      · exact repeatBodyOutcomes_rel (R := fun t t' => t.captures.Agree g t'.captures)
          (fun t => Captures.Agree.refl g _) (fun h₁ h₂ => h₁.trans h₂)
          (fun t t' h => ih hg h) h
  | capture group body ih =>
      -- the start and the end are noted for another group, the body is left to the induction
      simp only [Node.opens, List.mem_cons, not_or] at hg
      obtain ⟨u, hu, rfl⟩ := List.mem_map.mp h
      exact ((Captures.agree_setStart hg.1 _ _).trans (ih hg.2 hu)).trans
        (Captures.agree_setStop hg.1 _ _)
  | atomic body ih =>
      exact ih hg (List.mem_of_mem_head? (by simpa [outcomes] using h))
  | ahead negated body ih =>
      rcases mem_look h with h' | ⟨u, hu, h'⟩
      · rw [h']; exact hsame rfl
      · have hbody := ih hg (List.mem_of_mem_head? hu)
        rw [h']; exact hbody
  | behind width negated body ih =>
      rw [outcomes] at h
      split at h
      · cases negated with
        | true => rw [List.mem_singleton.mp h]; exact hsame rfl
        | false => cases h
      · rcases mem_look h with h' | ⟨u, hu, h'⟩
        · rw [h']; exact hsame rfl
        · have hbody := ih hg (List.mem_of_mem_head? hu)
          rw [h']; exact hbody
  | same group rule =>
      rw [outcomes] at h
      split at h
      · cases h
      · split at h
        · rw [List.mem_singleton.mp h]; exact hsame rfl
        · cases h
  | given group yes no ih₁ ih₂ =>
      simp only [Node.opens, List.mem_append, not_or] at hg
      rw [outcomes] at h
      split at h
      · exact ih₁ hg.1 h
      · exact ih₂ hg.2 h

end LintRunner.Regex
