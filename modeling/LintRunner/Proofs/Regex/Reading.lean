import LintRunner.Proofs.Results
import LintRunner.Regex.Reader

/-!
# Reading in parts

`Reading.Leads n st symbols st' symbols'` says that the reader takes `n` constructs from the front of
`symbols`, which brings it from `st` to `st'` and leaves `symbols'`. Reading a text is leading to its end
(`Reading.run_of_leads`), and what has been read is read on from where it has led to
(`Reading.Leads.run`).
-/

set_option autoImplicit false

namespace LintRunner.Regex

/-! ## Symbols -/

namespace Symbol

def plain (cs : List Char) : List Symbol := cs.map fun c => ⟨c, false⟩

@[simp]
theorem plain_nil : plain [] = [] := rfl

@[simp]
theorem plain_cons (c : Char) (cs : List Char) : plain (c :: cs) = ⟨c, false⟩ :: plain cs := rfl

theorem ofText?_cons {c : Char} (hc : c ≠ '\\') (rest : List Char) :
    ofText? (c :: rest) = (ofText? rest).map (⟨c, false⟩ :: ·) :=
  ofText?.eq_4 c rest (fun h => absurd h hc) (fun _ _ h => absurd h hc)

theorem ofText?_plain {cs : List Char} (h : '\\' ∉ cs) : ofText? cs = some (plain cs) := by
  induction cs with
  | nil => rfl
  | cons c cs ih =>
      rw [List.mem_cons, not_or] at h
      rw [ofText?_cons (Ne.symm h.1), ih h.2]
      rfl

/-- The symbols of a text stay the same in front of another one. -/
theorem ofText?_append {a : List Char} {symbols : List Symbol} (h : ofText? a = some symbols)
    (b : List Char) : ofText? (a ++ b) = (ofText? b).map (symbols ++ ·) := by
  fun_induction ofText? a generalizing symbols with
  | case1 =>
      injection h with h
      subst h
      simp
  | case2 => cases h
  | case3 c rest ih =>
      obtain ⟨later, hlater, rfl⟩ := Option.map_eq_some_iff.mp h
      rw [List.cons_append, List.cons_append, ofText?, ih hlater]
      cases ofText? b <;> rfl
  | case4 c rest hlast hmore ih =>
      obtain ⟨later, hlater, rfl⟩ := Option.map_eq_some_iff.mp h
      have hc : c ≠ '\\' := by
        rintro rfl
        cases rest with
        | nil => exact hlast rfl rfl
        | cons d rest => exact hmore d rest rfl rfl
      rw [List.cons_append, ofText?_cons hc, ih hlater]
      cases ofText? b <;> rfl

end Symbol

/-! ## Leading -/

namespace Reading

/-- One step is made of a construct and what it asks for. -/
theorem step_eq_ok {st st' : Reading} {s : Symbol} {rest rest' : List Symbol} :
    st.step s rest = .ok (st', rest') ↔ ∃ construct,
      readConstruct st.scope s rest = .ok (construct, rest') ∧ st.perform construct = .ok st' := by
  rw [step, bind_eq_ok]
  constructor
  · rintro ⟨⟨construct, rest₁⟩, hread, h⟩
    obtain ⟨st₁, hperform, h⟩ := bind_eq_ok.mp h
    injection h with h
    obtain ⟨rfl, rfl⟩ := Prod.mk.inj h
    exact ⟨construct, hread, hperform⟩
  · rintro ⟨construct, hread, hperform⟩
    exact ⟨(construct, rest'), hread, bind_eq_ok.mpr ⟨st', hperform, rfl⟩⟩

/-- Taking some constructs from the front of a text. -/
inductive Leads : Nat → Reading → List Symbol → Reading → List Symbol → Prop
  | refl (st : Reading) (symbols : List Symbol) : Leads 0 st symbols st symbols
  | step {n : Nat} {st st₁ st' : Reading} {s : Symbol} {rest rest₁ symbols' : List Symbol}
      (first : st.step s rest = .ok (st₁, rest₁)) (later : Leads n st₁ rest₁ st' symbols') :
      Leads (n + 1) st (s :: rest) st' symbols'

theorem Leads.trans {n m : Nat} {st st₁ st' : Reading} {symbols symbols₁ symbols' : List Symbol}
    (h : Leads n st symbols st₁ symbols₁) (h' : Leads m st₁ symbols₁ st' symbols') :
    Leads (n + m) st symbols st' symbols' := by
  induction h with
  | refl => rwa [Nat.zero_add]
  | step first later ih =>
      rw [Nat.add_right_comm]
      exact .step first (ih h')

theorem Leads.single {st st' : Reading} {s : Symbol} {rest rest' : List Symbol}
    {construct : Construct} (hread : readConstruct st.scope s rest = .ok (construct, rest'))
    (hperform : st.perform construct = .ok st') : Leads 1 st (s :: rest) st' rest' :=
  .step (step_eq_ok.mpr ⟨construct, hread, hperform⟩) (.refl st' rest')

/-- More fuel than enough does not change what is read. -/
theorem run_add {fuel : Nat} {st final : Reading} {symbols : List Symbol}
    (h : run fuel st symbols = .ok final) (more : Nat) : run (fuel + more) st symbols = .ok final := by
  induction fuel generalizing st symbols with
  | zero =>
      cases symbols with
      | nil => cases more <;> exact h
      | cons s rest => cases h
  | succ fuel ih =>
      cases symbols with
      | nil => rw [Nat.add_right_comm]; exact h
      | cons s rest =>
          rw [Nat.add_right_comm, run]
          rw [run] at h
          cases hstep : st.step s rest with
          | error fault => rw [hstep] at h; cases h
          | ok next =>
              rw [hstep] at h
              exact ih h

/-- Whoever reads on where a text leads to has read that text. -/
theorem run_of_leads {n fuel : Nat} {st st' final : Reading} {symbols symbols' : List Symbol}
    (hleads : Leads n st symbols st' symbols') (h : run fuel st' symbols' = .ok final) :
    run (n + fuel) st symbols = .ok final := by
  induction hleads with
  | refl => rwa [Nat.zero_add]
  | step first later ih =>
      rw [Nat.add_right_comm, run, first]
      exact ih h

/-- Whoever has read a text has read on where it leads to. -/
theorem Leads.run {n fuel : Nat} {st st' final : Reading} {symbols symbols' : List Symbol}
    (hleads : Leads n st symbols st' symbols') (h : run fuel st symbols = .ok final) :
    ∃ fuel', Reading.run fuel' st' symbols' = .ok final := by
  induction hleads generalizing fuel with
  | refl => exact ⟨fuel, h⟩
  | step first later ih =>
      cases fuel with
      | zero => cases h
      | succ fuel =>
          rw [Reading.run, first] at h
          exact ih h

/-- Reading a text to its end leads to its end. -/
theorem leads_of_run {fuel : Nat} {st final : Reading} {symbols : List Symbol}
    (h : Reading.run fuel st symbols = .ok final) :
    ∃ n, n ≤ fuel ∧ Leads n st symbols final [] := by
  induction fuel generalizing st symbols with
  | zero =>
      cases symbols with
      | nil => injection h with h; subst h; exact ⟨0, Nat.le_refl _, .refl _ _⟩
      | cons s rest => cases h
  | succ fuel ih =>
      cases symbols with
      | nil => injection h with h; subst h; exact ⟨0, Nat.zero_le _, .refl _ _⟩
      | cons s rest =>
          rw [Reading.run] at h
          cases hstep : st.step s rest with
          | error fault => rw [hstep] at h; cases h
          | ok next =>
              rw [hstep] at h
              obtain ⟨n, hn, hleads⟩ := ih h
              exact ⟨n + 1, Nat.succ_le_succ hn, .step hstep hleads⟩

end Reading

end LintRunner.Regex
