import Mathlib.Data.List.Forall2

/-!
# Results

Computations in stages, each of which may fail: what succeeds has succeeded in every stage, and what fails
has failed in one.
-/

set_option autoImplicit false

namespace LintRunner

variable {ε α β : Type}

/-- What succeeds in two stages succeeds in each of them. -/
theorem bind_eq_ok {x : Except ε α} {f : α → Except ε β} {b : β} :
    (x >>= f) = .ok b ↔ ∃ a, x = .ok a ∧ f a = .ok b := by
  cases x with
  | error e =>
      constructor
      · intro h; cases h
      · rintro ⟨a, h, -⟩; cases h
  | ok a =>
      constructor
      · intro h; exact ⟨a, rfl, h⟩
      · rintro ⟨a', h, h'⟩; injection h with h; subst h; exact h'

/-- A computation in two stages fails in one of them. -/
theorem bind_error {x : Except ε α} {f : α → Except ε β} {failure : ε} (h : x >>= f = .error failure) :
    x = .error failure ∨ ∃ a, x = .ok a ∧ f a = .error failure := by
  cases x with
  | error failure' =>
      left
      injection h with h
      rw [h]
  | ok a => exact Or.inr ⟨a, rfl, h⟩

/-- What fails for a list fails for one of its items. -/
theorem mapM_error {f : α → Except ε β} {l : List α} {failure : ε} (h : l.mapM f = .error failure) :
    ∃ a ∈ l, f a = .error failure := by
  induction l with
  | nil => cases h
  | cons a l ih =>
      rw [List.mapM_cons] at h
      rcases bind_error h with h | ⟨b, -, h⟩
      · exact ⟨a, List.mem_cons_self, h⟩
      · rcases bind_error h with h | ⟨bs, -, h⟩
        · obtain ⟨a', ha', h⟩ := ih h
          exact ⟨a', List.mem_cons_of_mem _ ha', h⟩
        · cases h

/-- What succeeds for a list succeeds for each of its items. -/
theorem exists_of_mapM {f : α → Except ε β} {l : List α} {found : List β} (h : l.mapM f = .ok found) :
    ∀ a ∈ l, ∃ b, f a = .ok b := by
  induction l generalizing found with
  | nil => exact fun a ha => (by cases ha)
  | cons a l ih =>
      rw [List.mapM_cons] at h
      obtain ⟨b, ha, h⟩ := bind_eq_ok.mp h
      obtain ⟨rest, hl, -⟩ := bind_eq_ok.mp h
      exact List.forall_mem_cons.mpr ⟨⟨b, ha⟩, ih hl⟩

/-- What is found for a list is found for its items. -/
theorem mem_of_mapM {f : α → Except ε β} {l : List α} {found : List β} (h : l.mapM f = .ok found) :
    ∀ b ∈ found, ∃ a ∈ l, f a = .ok b := by
  induction l generalizing found with
  | nil =>
      obtain rfl := Except.ok.inj h
      exact fun b hb => (by cases hb)
  | cons a l ih =>
      rw [List.mapM_cons] at h
      obtain ⟨b, ha, h⟩ := bind_eq_ok.mp h
      obtain ⟨rest, hl, h⟩ := bind_eq_ok.mp h
      obtain rfl := Except.ok.inj h
      refine List.forall_mem_cons.mpr ⟨⟨a, List.mem_cons_self, ha⟩, fun c hc => ?_⟩
      obtain ⟨a', ha', hfound⟩ := ih hl c hc
      exact ⟨a', List.mem_cons_of_mem _ ha', hfound⟩

/-- What is found for each item of a list is found for the list. -/
theorem mapM_of_forall₂ {f : α → Except ε β} {l : List α} {found : List β}
    (h : List.Forall₂ (fun b a => f a = .ok b) found l) : l.mapM f = .ok found := by
  induction h with
  | nil => rfl
  | cons ha _ ih =>
      rw [List.mapM_cons, ha, ih]
      rfl

theorem mapM_of_forall {f : α → Except ε β} {g : α → β} {l : List α} (h : ∀ a ∈ l, f a = .ok (g a)) :
    l.mapM f = .ok (l.map g) := by
  refine mapM_of_forall₂ ?_
  rw [List.forall₂_map_left_iff, List.forall₂_same]
  exact h

end LintRunner
