import LintRunner.Proofs.Regex.Locality

/-!
# Progress of the reader

A construct takes at least the symbol that it begins with (`readConstruct_length`), so that the fuel of
`Pattern.read` is always enough: a text that the reader leads to the end of is read as what the reader has
finished there (`Pattern.read_of_leads`), and a text that it leads to a fault in is refused with that fault
(`Pattern.read_of_refused`).
-/

set_option autoImplicit false

namespace LintRunner.Regex

open LintRunner.Text

/-! ## What is left behind a construct -/

namespace Symbol

theorem dropPlain?_length {c : Char} {rest rest' : List Symbol} (h : dropPlain? c rest = some rest') :
    rest'.length < rest.length := by
  cases rest with
  | nil => cases h
  | cons s rest =>
      rw [dropPlain?] at h
      split at h
      · obtain rfl := Option.some.inj h
        exact Nat.lt_succ_self _
      · cases h

theorem takeUntil?_length {terminator : Char} {rest : List Symbol} {taken : List Char × List Symbol}
    (h : takeUntil? terminator rest = some taken) : taken.2.length < rest.length := by
  induction rest generalizing taken with
  | nil => cases h
  | cons s rest ih =>
      rw [takeUntil?] at h
      split at h
      · obtain rfl := Option.some.inj h
        exact Nat.lt_succ_self _
      · obtain ⟨⟨cs, rest'⟩, hlater, rfl⟩ := Option.map_eq_some_iff.mp h
        have hlen : rest'.length < rest.length := ih hlater
        exact Nat.lt_succ_of_lt hlen

end Symbol

theorem readHex_length {width : Nat} {rest : List Symbol} {found : Nat × List Symbol}
    (h : readHex width rest = some found) : found.2.length ≤ rest.length := by
  simp only [readHex] at h
  split at h
  · obtain rfl := Option.some.inj h
    exact Symbol.takePlain_length _ _ _
  · cases h

theorem readSetEscape_length {ascii : Bool} {c : Char} {rest : List Symbol}
    {found : Member × List Symbol} (h : readSetEscape ascii c rest = some found) :
    found.2.length ≤ rest.length := by
  rw [readSetEscape] at h
  split at h
  · obtain rfl := Option.some.inj h
    exact Nat.le_refl _
  split at h
  · obtain rfl := Option.some.inj h
    exact Nat.le_refl _
  split at h
  · obtain rfl := Option.some.inj h
    exact Nat.le_refl _
  split at h
  · obtain ⟨hex, hread, rfl⟩ := Option.map_eq_some_iff.mp h
    exact readHex_length hread
  split at h
  · simp only at h
    split at h
    · obtain rfl := Option.some.inj h
      exact Symbol.takePlain_length _ _ _
    · cases h
  split at h
  · cases h
  · obtain rfl := Option.some.inj h
    exact Nat.le_refl _

theorem readMember_length {ascii : Bool} {s : Symbol} {rest : List Symbol}
    {found : Member × List Symbol} (h : readMember ascii s rest = some found) :
    found.2.length ≤ rest.length := by
  rw [readMember] at h
  split at h
  · exact readSetEscape_length h
  · obtain rfl := Option.some.inj h
    exact Nat.le_refl _

theorem readMembers_length {ascii : Bool} {fuel : Nat} {members : List Member} {rest : List Symbol}
    {found : List Member × List Symbol} (h : readMembers ascii fuel members rest = some found) :
    found.2.length ≤ rest.length := by
  induction fuel generalizing members rest with
  | zero => cases h
  | succ fuel ih =>
      cases rest with
      | nil => cases h
      | cons s rest =>
          rw [readMembers] at h
          split at h
          · obtain rfl := Option.some.inj h
            exact Nat.le_succ _
          · obtain ⟨⟨first, rest₁⟩, hfirst, h⟩ := Option.bind_eq_some_iff.mp h
            have hlen₁ : rest₁.length ≤ rest.length := readMember_length hfirst
            cases rest₁ with
            | nil => cases h
            | cons dash rest₂ =>
                rw [List.length_cons] at hlen₁ ⊢
                simp only at h
                split at h
                · cases rest₂ with
                  | nil => cases h
                  | cons t rest₃ =>
                      rw [List.length_cons] at hlen₁
                      simp only at h
                      split at h
                      · obtain rfl := Option.some.inj h
                        show rest₃.length ≤ _
                        omega
                      · obtain ⟨⟨last, rest₄⟩, hlast, h⟩ := Option.bind_eq_some_iff.mp h
                        have hlen₄ : rest₄.length ≤ rest₃.length := readMember_length hlast
                        -- only a code may begin a range, and only a code may end it
                        cases first with
                        | range | category => cases h
                        | code lo =>
                            cases last with
                            | range | category => cases h
                            | code hi =>
                                simp only at h
                                split at h
                                · have hlater := ih h
                                  omega
                                · cases h
                · have hlater := ih h
                  rw [List.length_cons] at hlater
                  omega

theorem readSet_length {scope : Scope} {rest : List Symbol} {found : Node × List Symbol}
    (h : readSet scope rest = some found) : found.2.length ≤ rest.length := by
  rw [readSet] at h
  obtain ⟨⟨members, rest₂⟩, hmembers, h⟩ := Option.bind_eq_some_iff.mp h
  have hbody : rest₂.length ≤ rest.length := by
    have hlen := readMembers_length hmembers
    cases hcaret : Symbol.dropPlain? '^' rest with
    | none => rwa [hcaret] at hlen
    | some rest' =>
        rw [hcaret] at hlen
        exact Nat.le_trans hlen (Nat.le_of_lt (Symbol.dropPlain?_length hcaret))
  simp only at h
  split at h <;> (obtain rfl := Option.some.inj h; exact hbody)

theorem readNumberEscape_length {scope : Scope} {c : Char} {rest : List Symbol}
    {found : Construct × List Symbol} (h : readNumberEscape scope c rest = some found) :
    found.2.length ≤ rest.length := by
  have hbranches : ∀ (n m : Nat) (third : List Char × List Symbol) (rest₁ : List Symbol),
      rest₁.length ≤ rest.length → third.2.length ≤ rest₁.length →
      (if third.1.isEmpty then some (.refer n, rest₁)
        else if m ≤ octalEnd then some (.atom (.code m false scope.rule), third.2) else none)
        = some found → found.2.length ≤ rest.length := by
    intro n m third rest₁ hlen hthird h
    split at h
    · obtain rfl := Option.some.inj h
      exact hlen
    · split at h
      · obtain rfl := Option.some.inj h
        exact Nat.le_trans hthird hlen
      · cases h
  have hthird : ∀ (octal : Bool) (rest₁ : List Symbol),
      (if octal then Symbol.takePlain isOctal 1 rest₁ else ([], rest₁)).2.length ≤ rest₁.length := by
    intro octal rest₁
    cases octal with
    | true => exact Symbol.takePlain_length _ _ _
    | false => exact Nat.le_refl _
  exact hbranches _ _ _ _ (Symbol.takePlain_length isAsciiDigit 1 rest) (hthird _ _) h

theorem readEscape_length {scope : Scope} {c : Char} {rest : List Symbol}
    {found : Construct × List Symbol} (h : readEscape scope c rest = some found) :
    found.2.length ≤ rest.length := by
  rw [readEscape] at h
  simp only at h
  split at h
  · obtain rfl := Option.some.inj h
    exact Nat.le_refl _
  · obtain rfl := Option.some.inj h
    exact Nat.le_refl _
  · obtain rfl := Option.some.inj h
    exact Nat.le_refl _
  · split at h
    · obtain ⟨hex, hread, rfl⟩ := Option.map_eq_some_iff.mp h
      exact readHex_length hread
    split at h
    · obtain rfl := Option.some.inj h
      exact Symbol.takePlain_length _ _ _
    split at h
    · exact readNumberEscape_length h
    split at h
    · cases h
    · obtain rfl := Option.some.inj h
      exact Nat.le_refl _

theorem readBounds_length {rest : List Symbol}
    {found : (List Char × Option (List Char)) × List Symbol} (h : readBounds rest = some found) :
    found.2.length ≤ rest.length := by
  simp only [readBounds] at h
  have hlow := Symbol.takePlain_length isAsciiDigit rest.length rest
  split at h
  · rename_i rest₂ hcomma
    obtain ⟨rest₄, hend, rfl⟩ := Option.map_eq_some_iff.mp h
    have hcomma := Symbol.dropPlain?_length hcomma
    have hhigh := Symbol.takePlain_length isAsciiDigit rest₂.length rest₂
    have hend := Symbol.dropPlain?_length hend
    show rest₄.length ≤ _
    omega
  · split at h
    · cases h
    · obtain ⟨rest₂, hend, rfl⟩ := Option.map_eq_some_iff.mp h
      have hend := Symbol.dropPlain?_length hend
      show rest₂.length ≤ _
      omega

theorem repetitionOf_length (least : Nat) (most : Option Nat) (rest : List Symbol) :
    (repetitionOf least most rest).2.length ≤ rest.length := by
  show (readGreed rest).2.length ≤ _
  rw [readGreed]
  split
  · rename_i hlazy
    exact Nat.le_of_lt (Symbol.dropPlain?_length hlazy)
  · rename_i hpossessive _
    exact Nat.le_of_lt (Symbol.dropPlain?_length hpossessive)
  · exact Nat.le_refl _

theorem readRepetition_length {scope : Scope} {c : Char} {rest : List Symbol}
    {found : Construct × List Symbol} (h : readRepetition scope c rest = .ok found) :
    found.2.length ≤ rest.length := by
  rw [readRepetition_eq] at h
  split at h
  · obtain rfl := Except.ok.inj h
    exact repetitionOf_length _ _ _
  split at h
  · obtain rfl := Except.ok.inj h
    exact Nat.le_refl _
  · rename_i lo hi rest' hbounds
    have hlen : rest'.length ≤ rest.length := readBounds_length hbounds
    cases hcounts : countBounds lo hi with
    | error fault => rw [hcounts] at h; cases h
    | ok bounds =>
        rw [hcounts] at h
        obtain rfl := Except.ok.inj h
        exact Nat.le_trans (repetitionOf_length _ _ rest') hlen

theorem readDroppedFlags_length {add del : List Char} {rest : List Symbol}
    {found : FlagGroup × List Symbol} (h : readDroppedFlags add del rest = some found) :
    found.2.length ≤ rest.length := by
  induction rest generalizing del with
  | nil => cases h
  | cons s rest ih =>
      rw [readDroppedFlags] at h
      split at h
      · split at h
        · cases h
        · obtain rfl := Option.some.inj h
          exact Nat.le_succ _
      · split at h
        · cases h
        · exact Nat.le_succ_of_le (ih h)

theorem readFlags_length {add : List Char} {rest : List Symbol} {found : FlagGroup × List Symbol}
    (h : readFlags add rest = some found) : found.2.length ≤ rest.length := by
  induction rest generalizing add with
  | nil => cases h
  | cons s rest ih =>
      rw [readFlags] at h
      split at h
      · cases h
      split at h
      · simp only at h
        split at h
        · cases h
        · exact Nat.le_succ_of_le (ih h)
      split at h
      · split at h
        · cases h
        · obtain rfl := Option.some.inj h
          exact Nat.le_succ _
      split at h
      · cases h
      split at h
      · split at h
        · cases h
        · obtain rfl := Option.some.inj h
          exact Nat.le_succ _
      split at h
      · exact Nat.le_succ_of_le (readDroppedFlags_length h)
      · cases h

theorem readExtension_length {rest : List Symbol} {found : Construct × List Symbol}
    (h : readExtension rest = some found) : found.2.length ≤ rest.length := by
  cases rest with
  | nil => cases h
  | cons s rest =>
      have hname : ∀ {terminator : Char} {f : List Char → Construct} {rest' : List Symbol},
          rest'.length ≤ rest.length →
          (Symbol.takeUntil? terminator rest').map (fun taken => (f taken.1, taken.2)) = some found →
          found.2.length ≤ rest.length + 1 := by
        intro terminator f rest' hlen h
        obtain ⟨taken, htaken, rfl⟩ := Option.map_eq_some_iff.mp h
        have htaken := Symbol.takeUntil?_length htaken
        show taken.2.length ≤ _
        omega
      unfold readExtension at h
      simp only at h
      rw [List.length_cons]
      split at h
      · cases h
      split at h
      · obtain rfl := Option.some.inj h
        exact Nat.le_succ _
      · obtain rfl := Option.some.inj h
        exact Nat.le_succ _
      · obtain rfl := Option.some.inj h
        exact Nat.le_succ _
      · obtain rfl := Option.some.inj h
        exact Nat.le_succ _
      · -- a look behind
        split at h
        · cases h
        · split at h
          · obtain rfl := Option.some.inj h
            exact Nat.le_succ_of_le (Nat.le_succ _)
          · split at h
            · obtain rfl := Option.some.inj h
              exact Nat.le_succ_of_le (Nat.le_succ _)
            · cases h
      · exact @hname _ (fun _ => .skip) _ (Nat.le_refl _) h
      · exact @hname _ .condition _ (Nat.le_refl _) h
      · -- the forms with a name
        split at h
        · rename_i rest' hopen
          have hopen := Symbol.dropPlain?_length hopen
          split at h
          · rename_i name rest'' htaken
            have htaken := Symbol.takeUntil?_length htaken
            split at h
            · obtain rfl := Option.some.inj h
              show rest''.length ≤ _
              simp only at htaken
              omega
            · cases h
          · cases h
        · rename_i hequals
          exact @hname _ .referTo _ (Nat.le_of_lt (Symbol.dropPlain?_length hequals)) h
        · cases h
      · obtain ⟨⟨flags, rest'⟩, hflags, rfl⟩ := Option.map_eq_some_iff.mp h
        have hlen := readFlags_length hflags
        cases flags <;> exact hlen

theorem dropComment_length (rest : List Symbol) : (dropComment rest).length ≤ rest.length := by
  induction rest with
  | nil => exact Nat.le_refl _
  | cons s rest ih =>
      rw [dropComment]
      split
      · exact Nat.le_succ _
      · exact Nat.le_succ_of_le ih

/-- **A construct takes the symbol that it begins with**, and perhaps some of those behind it. -/
theorem readConstruct_length {scope : Scope} {s : Symbol} {rest : List Symbol}
    {found : Construct × List Symbol} (h : readConstruct scope s rest = .ok found) :
    found.2.length ≤ rest.length := by
  rw [readConstruct] at h
  split at h
  · exact readEscape_length (map_orMalformed h)
  split at h
  · obtain rfl := Except.ok.inj h
    exact Nat.le_refl _
  split at h
  · obtain rfl := Except.ok.inj h
    exact Nat.le_refl _
  split at h
  · obtain rfl := Except.ok.inj h
    exact Nat.le_refl _
  split at h
  · obtain rfl := Except.ok.inj h
    exact dropComment_length rest
  split at h
  · obtain ⟨⟨node, rest'⟩, hset, rfl⟩ := Option.map_eq_some_iff.mp (map_orMalformed h)
    exact readSet_length hset
  · split at h
    · rename_i rest' hquestion
      exact Nat.le_trans (readExtension_length (map_orMalformed h))
        (Nat.le_of_lt (Symbol.dropPlain?_length hquestion))
    · obtain rfl := Except.ok.inj h
      exact Nat.le_refl _
  · exact readRepetition_length h
  · exact readRepetition_length h
  · exact readRepetition_length h
  · exact readRepetition_length h
  · obtain rfl := Except.ok.inj h
    exact Nat.le_refl _
  · obtain rfl := Except.ok.inj h
    exact Nat.le_refl _
  · obtain rfl := Except.ok.inj h
    exact Nat.le_refl _
  · obtain rfl := Except.ok.inj h
    exact Nat.le_refl _

/-! ## Fuel -/

namespace Reading

variable {n fuel : Nat} {st st₁ st' : Reading} {symbols symbols₁ rest : List Symbol} {fault : Fault}

/-- Every construct takes a symbol. -/
theorem Leads.length (h : Leads n st symbols st' rest) : n + rest.length ≤ symbols.length := by
  induction h with
  | refl => exact Nat.le_of_eq (Nat.zero_add _)
  | step first later ih =>
      obtain ⟨construct, hread, -⟩ := step_eq_ok.mp first
      have hlen := readConstruct_length hread
      simp only at hlen
      rw [List.length_cons]
      omega

/-- The reader is led to a construct that is at fault. -/
def Refused (fault : Fault) (st : Reading) (symbols : List Symbol) : Prop :=
  ∃ n st' s rest, Leads n st symbols st' (s :: rest) ∧ st'.step s rest = .error fault

theorem Leads.refused (hleads : Leads n st symbols st₁ symbols₁) (h : Refused fault st₁ symbols₁) :
    Refused fault st symbols := by
  obtain ⟨m, st', s, rest, hlater, hstep⟩ := h
  exact ⟨n + m, st', s, rest, hleads.trans hlater, hstep⟩

/-- The reader is led to the end of a text or to a fault in it. -/
theorem leads_or_refused (st : Reading) (symbols : List Symbol) :
    (∃ n st', Leads n st symbols st' []) ∨ ∃ fault, Refused fault st symbols := by
  -- the induction is on the length of the text, of which a step takes at least one symbol
  induction hlength : symbols.length using Nat.strongRecOn generalizing st symbols with
  | ind length ih =>
      cases symbols with
      | nil => exact Or.inl ⟨0, st, .refl st []⟩
      | cons s rest =>
          cases hstep : st.step s rest with
          | error fault => exact Or.inr ⟨fault, 0, st, s, rest, .refl st _, hstep⟩
          | ok next =>
              obtain ⟨st₁, rest₁⟩ := next
              have hfirst : Leads 1 st (s :: rest) st₁ rest₁ := .step hstep (.refl st₁ rest₁)
              have hshorter : rest₁.length < length := by
                have hlen := hfirst.length
                omega
              rcases ih rest₁.length hshorter st₁ rest₁ rfl with ⟨n, st', hlater⟩ | ⟨fault, hlater⟩
              · exact Or.inl ⟨1 + n, st', hfirst.trans hlater⟩
              · exact Or.inr ⟨fault, hfirst.refused hlater⟩

/-- A reader with enough fuel finds the fault that it is led to. -/
theorem Refused.run (h : Refused fault st symbols) (hfuel : symbols.length ≤ fuel) :
    Reading.run fuel st symbols = .error fault := by
  obtain ⟨n, st', s, rest, hleads, hstep⟩ := h
  generalize hlast : s :: rest = last at hleads
  induction hleads generalizing fuel with
  | refl st symbols =>
      subst hlast
      obtain ⟨fuel, rfl⟩ := Nat.exists_eq_succ_of_ne_zero (Nat.ne_of_gt (Nat.zero_lt_of_lt hfuel))
      rw [Reading.run, hstep]
      rfl
  | step first later ih =>
      obtain ⟨fuel, rfl⟩ := Nat.exists_eq_succ_of_ne_zero (Nat.ne_of_gt (Nat.zero_lt_of_lt hfuel))
      have hlen := (Leads.step first (.refl _ _)).length
      rw [List.length_cons] at hfuel hlen
      rw [Reading.run, first]
      exact ih (by omega) hstep hlast

/-- A text with a fault in it is not read, however much fuel there is. -/
theorem Refused.run_ne_ok {final : Reading} (h : Refused fault st symbols) :
    Reading.run fuel st symbols ≠ .ok final := by
  intro hrun
  have hfails := h.run (Nat.le_add_left symbols.length fuel)
  rw [run_add hrun] at hfails
  cases hfails

end Reading

variable {cs : List Char} {n : Nat} {st : Reading} {symbols : List Symbol} {fault : Fault}

/-- **A text that the reader leads to the end of is read as what has been finished there.** -/
theorem Pattern.read_of_leads (hsymbols : Symbol.ofText? cs = some symbols)
    (hleads : Reading.Leads n {} symbols st []) : Pattern.read cs = st.finish := by
  have hrun : Reading.run symbols.length {} symbols = .ok st := by
    have hlen := hleads.length
    have hrun := Reading.run_of_leads hleads (show Reading.run 0 st [] = .ok st from rfl)
    rw [← Nat.add_sub_of_le hlen]
    exact Reading.run_add hrun _
  rw [read, hsymbols]
  show (Reading.run symbols.length {} symbols >>= Reading.finish) = _
  rw [hrun]
  rfl

/-- **A text that the reader is led to a fault in is refused with that fault.** -/
theorem Pattern.read_of_refused (hsymbols : Symbol.ofText? cs = some symbols)
    (hrefused : Reading.Refused fault {} symbols) : Pattern.read cs = .error fault := by
  rw [read, hsymbols]
  show (Reading.run symbols.length {} symbols >>= Reading.finish) = _
  rw [hrefused.run (Nat.le_refl _)]
  rfl

end LintRunner.Regex
