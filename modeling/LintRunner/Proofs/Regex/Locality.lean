import LintRunner.Proofs.Regex.Reading

/-!
# Constructs in front of a closing parenthesis

A construct that a text begins with is the same if a closing parenthesis and more follow the text
(`readConstruct_append`). The only construct that may take what follows is a comment that has no end of
line in the text.
-/

set_option autoImplicit false

namespace LintRunner.Regex

open LintRunner.Text

abbrev closing : Symbol := ⟨')', false⟩

variable (more : List Symbol)

/-- What has been read, when a closing parenthesis and more follow the rest. -/
def closedBy {α : Type} (read : α × List Symbol) : α × List Symbol :=
  (read.1, read.2 ++ closing :: more)

@[simp]
theorem closedBy_mk {α : Type} (a : α) (rest : List Symbol) :
    closedBy more (a, rest) = (a, rest ++ closing :: more) := rfl

/-! ## Runs of characters -/

namespace Symbol

theorem takePlain_append {p : Char → Bool} (hp : p ')' = false) (limit : Nat)
    (rest : List Symbol) :
    takePlain p limit (rest ++ closing :: more) = closedBy more (takePlain p limit rest) := by
  induction limit generalizing rest with
  | zero => cases rest <;> rfl
  | succ limit ih =>
      cases rest with
      | nil => simp [takePlain, hp, closedBy]
      | cons s rest =>
          rw [List.cons_append, takePlain, takePlain, ih]
          split <;> rfl

/-- A limit that is not reached does not matter. -/
theorem takePlain_limit {p : Char → Bool} {limit limit' : Nat} {rest : List Symbol}
    (h : rest.length ≤ limit) (h' : rest.length ≤ limit') :
    takePlain p limit rest = takePlain p limit' rest := by
  induction rest generalizing limit limit' with
  | nil => cases limit <;> cases limit' <;> rfl
  | cons s rest ih =>
      obtain ⟨limit, rfl⟩ := Nat.exists_eq_succ_of_ne_zero (Nat.ne_of_gt (Nat.zero_lt_of_lt h))
      obtain ⟨limit', rfl⟩ := Nat.exists_eq_succ_of_ne_zero (Nat.ne_of_gt (Nat.zero_lt_of_lt h'))
      rw [takePlain, takePlain, ih (Nat.le_of_succ_le_succ h) (Nat.le_of_succ_le_succ h')]

theorem takePlain_length (p : Char → Bool) (limit : Nat) (rest : List Symbol) :
    (takePlain p limit rest).2.length ≤ rest.length := by
  induction limit generalizing rest with
  | zero => cases rest <;> exact Nat.le_refl _
  | succ limit ih =>
      cases rest with
      | nil => exact Nat.le_refl _
      | cons s rest =>
          rw [takePlain]
          split
          · exact Nat.le_succ_of_le (ih rest)
          · exact Nat.le_refl _

theorem dropPlain?_append {c : Char} (hc : c ≠ ')') (rest : List Symbol) :
    dropPlain? c (rest ++ closing :: more) = (dropPlain? c rest).map (· ++ closing :: more) := by
  cases rest with
  | nil => simp [dropPlain?, isPlain, Ne.symm hc]
  | cons s rest =>
      rw [List.cons_append, dropPlain?, dropPlain?]
      split <;> rfl

theorem takeUntil?_append {terminator : Char} {rest rest' : List Symbol} {cs : List Char}
    (h : takeUntil? terminator rest = some (cs, rest')) :
    takeUntil? terminator (rest ++ more) = some (cs, rest' ++ more) := by
  induction rest generalizing cs with
  | nil => cases h
  | cons s rest ih =>
      rw [List.cons_append, takeUntil?]
      rw [takeUntil?] at h
      split
      · rename_i hs
        rw [if_pos hs] at h
        simp only [Option.some.injEq, Prod.mk.injEq] at h
        obtain ⟨rfl, rfl⟩ := h
        rfl
      · rename_i hs
        rw [if_neg hs] at h
        obtain ⟨⟨cs', rest''⟩, htake, hpair⟩ := Option.map_eq_some_iff.mp h
        simp only [Prod.mk.injEq] at hpair
        obtain ⟨rfl, rfl⟩ := hpair
        rw [ih htake]
        rfl

end Symbol

/-! ## Escapes -/

theorem readHex_append (width : Nat) (rest : List Symbol) :
    readHex width (rest ++ closing :: more) = (readHex width rest).map (closedBy more) := by
  rw [readHex, readHex, Symbol.takePlain_append more (by decide)]
  rcases Symbol.takePlain (fun c => (hexValue? c).isSome) width rest with ⟨ds, rest'⟩
  rw [closedBy_mk]
  simp only [apply_ite (Option.map _), Option.map_some, Option.map_none, closedBy_mk]

theorem readSetEscape_append (ascii : Bool) (c : Char) (rest : List Symbol) :
    readSetEscape ascii c (rest ++ closing :: more)
      = (readSetEscape ascii c rest).map (closedBy more) := by
  rw [readSetEscape, readSetEscape]
  by_cases hb : (c == 'b') = true
  · rw [if_pos hb, if_pos hb]
    rfl
  · rw [if_neg hb, if_neg hb]
    cases controlEscape? c with
    | some n => rfl
    | none =>
        cases categoryEscape? c ascii with
        | some member => rfl
        | none =>
            cases hexEscape? c with
            | some width =>
                simp only [readHex_append, Option.map_map]
                rfl
            | none =>
                rw [Symbol.takePlain_append more (show isOctal ')' = false by decide)]
                rcases Symbol.takePlain isOctal 2 rest with ⟨ds, rest'⟩
                rw [closedBy_mk]
                simp only [apply_ite (Option.map _), Option.map_some, Option.map_none, closedBy_mk]

theorem readMember_append (ascii : Bool) (s : Symbol) (rest : List Symbol) :
    readMember ascii s (rest ++ closing :: more)
      = (readMember ascii s rest).map (closedBy more) := by
  rw [readMember, readMember]
  split
  · exact readSetEscape_append more ascii s.char rest
  · rfl

theorem readNumberEscape_append (scope : Scope) (c : Char) (rest : List Symbol) :
    readNumberEscape scope c (rest ++ closing :: more)
      = (readNumberEscape scope c rest).map (closedBy more) := by
  rw [readNumberEscape, readNumberEscape,
    Symbol.takePlain_append more (show isAsciiDigit ')' = false by decide)]
  rcases Symbol.takePlain isAsciiDigit 1 rest with ⟨ds, rest₁⟩
  rw [closedBy_mk]
  simp only
  rw [Symbol.takePlain_append more (show isOctal ')' = false by decide)]
  by_cases hoctal : (decide ((c :: ds).length = 2) && (c :: ds).all isOctal) = true
  · rw [if_pos hoctal, if_pos hoctal]
    rcases Symbol.takePlain isOctal 1 rest₁ with ⟨third, rest₂⟩
    rw [closedBy_mk]
    simp only [apply_ite (Option.map _), Option.map_some, Option.map_none, closedBy_mk]
  · rw [if_neg hoctal, if_neg hoctal]
    rfl

theorem readEscape_append (scope : Scope) (c : Char) (rest : List Symbol) :
    readEscape scope c (rest ++ closing :: more)
      = (readEscape scope c rest).map (closedBy more) := by
  rw [readEscape, readEscape]
  cases anchorEscape? c scope.ascii with
  | some a => rfl
  | none =>
      cases categoryEscape? c scope.ascii with
      | some member => rfl
      | none =>
          cases controlEscape? c with
          | some n => rfl
          | none =>
              cases hexEscape? c with
              | some width =>
                  simp only [readHex_append, Option.map_map]
                  rfl
              | none =>
                  rw [Symbol.takePlain_append more (show isOctal ')' = false by decide),
                    readNumberEscape_append]
                  rcases Symbol.takePlain isOctal 2 rest with ⟨ds, rest'⟩
                  rw [closedBy_mk]
                  simp only [apply_ite (Option.map _), Option.map_some, Option.map_none, closedBy_mk]

/-! ## Sets -/

/-- The members of a set that has an end are the same in front of more text, and more fuel than
enough does not change them. -/
theorem readMembers_append {ascii : Bool} {fuel fuel' : Nat} {members : List Member}
    {rest : List Symbol} {found : List Member × List Symbol}
    (h : readMembers ascii fuel members rest = some found) (hfuel : fuel ≤ fuel') :
    readMembers ascii fuel' members (rest ++ closing :: more) = some (closedBy more found) := by
  induction fuel generalizing fuel' members rest with
  | zero => cases h
  | succ fuel ih =>
      obtain ⟨fuel', rfl⟩ := Nat.exists_eq_succ_of_ne_zero (Nat.ne_of_gt (Nat.zero_lt_of_lt hfuel))
      cases rest with
      | nil => cases h
      | cons s rest =>
          rw [List.cons_append, readMembers]
          rw [readMembers] at h
          split
          · rename_i hend
            rw [if_pos hend, Option.some.injEq] at h
            subst h
            rfl
          · rename_i hend
            rw [if_neg hend] at h
            obtain ⟨⟨first, rest₁⟩, hfirst, h⟩ := Option.bind_eq_some_iff.mp h
            simp only [readMember_append, hfirst, Option.map_some, closedBy_mk, Option.bind_eq_bind,
              Option.bind_some]
            cases rest₁ with
            | nil => cases h
            | cons dash rest₂ =>
                simp only [List.cons_append] at h ⊢
                by_cases hdash : dash.isPlain '-' = true
                · simp only [if_pos hdash] at h ⊢
                  cases rest₂ with
                  | nil => cases h
                  | cons t rest₃ =>
                      simp only [List.cons_append] at h ⊢
                      by_cases hclose : t.isPlain ']' = true
                      · -- a dash at the end of the set stands for itself
                        simp only [if_pos hclose, Option.some.injEq] at h ⊢
                        subst h
                        rfl
                      · simp only [if_neg hclose] at h ⊢
                        obtain ⟨⟨last, rest₄⟩, hlast, h⟩ := Option.bind_eq_some_iff.mp h
                        simp only [readMember_append, hlast, Option.map_some, closedBy_mk,
                          Option.bind_some]
                        -- only a code may begin a range, and only a code may end it
                        cases first with
                        | code lo =>
                            cases last with
                            | code hi =>
                                simp only at h ⊢
                                split
                                · rename_i hle
                                  rw [if_pos hle] at h
                                  exact ih h (Nat.le_of_succ_le_succ hfuel)
                                · rename_i hle
                                  rw [if_neg hle] at h
                                  cases h
                            | range | category => cases h
                        | range | category => cases h
                · simp only [if_neg hdash] at h ⊢
                  exact ih h (Nat.le_of_succ_le_succ hfuel)

theorem readSet_append {scope : Scope} {rest : List Symbol} {found : Node × List Symbol}
    (h : readSet scope rest = some found) :
    readSet scope (rest ++ closing :: more) = some (closedBy more found) := by
  rw [readSet, Symbol.dropPlain?_append more (by decide)]
  rw [readSet] at h
  cases hcaret : Symbol.dropPlain? '^' rest with
  | some rest' =>
      rw [hcaret] at h
      obtain ⟨⟨members, rest₂⟩, hmembers, h⟩ := Option.bind_eq_some_iff.mp h
      have hmore := readMembers_append more hmembers
        (show rest'.length + 1 ≤ (rest' ++ closing :: more).length + 1 by simp)
      simp only [Option.map_some, hmore, closedBy_mk, Option.bind_eq_bind, Option.bind_some]
      simp only at h
      split at h <;> (injection h with h; subst h; simp_all)
  | none =>
      rw [hcaret] at h
      obtain ⟨⟨members, rest₂⟩, hmembers, h⟩ := Option.bind_eq_some_iff.mp h
      have hmore := readMembers_append more hmembers
        (show rest.length + 1 ≤ (rest ++ closing :: more).length + 1 by simp)
      simp only [Option.map_none, hmore, closedBy_mk, Option.bind_eq_bind, Option.bind_some]
      simp only at h
      split at h <;> (injection h with h; subst h; simp_all)

/-! ## Repetitions -/

theorem readBounds_append (rest : List Symbol) :
    readBounds (rest ++ closing :: more) = (readBounds rest).map (closedBy more) := by
  have hdigits : ∀ (limit : Nat) (r : List Symbol), r.length ≤ limit →
      Symbol.takePlain isAsciiDigit limit (r ++ closing :: more)
        = closedBy more (Symbol.takePlain isAsciiDigit r.length r) := by
    intro limit r h
    rw [Symbol.takePlain_append more (by decide), Symbol.takePlain_limit h (Nat.le_refl _)]
  -- no parenthesis is a digit, a comma or a brace, so each of the scanners stops in front of it
  rw [readBounds, readBounds, hdigits _ rest (by simp)]
  rcases Symbol.takePlain isAsciiDigit rest.length rest with ⟨lo, rest₁⟩
  rw [closedBy_mk]
  simp only
  rw [Symbol.dropPlain?_append more (by decide)]
  cases Symbol.dropPlain? ',' rest₁ with
  | some rest₂ =>
      simp only [Option.map_some]
      rw [hdigits _ rest₂ (by simp)]
      rcases Symbol.takePlain isAsciiDigit rest₂.length rest₂ with ⟨hi, rest₃⟩
      rw [closedBy_mk]
      simp only
      rw [Symbol.dropPlain?_append more (by decide), Option.map_map, Option.map_map]
      rfl
  | none =>
      simp only [Option.map_none]
      split
      · rfl
      · rw [Symbol.dropPlain?_append more (by decide), Option.map_map, Option.map_map]
        rfl

theorem readGreed_append (rest : List Symbol) :
    readGreed (rest ++ closing :: more) = closedBy more (readGreed rest) := by
  rw [readGreed, readGreed, Symbol.dropPlain?_append more (by decide),
    Symbol.dropPlain?_append more (by decide)]
  cases Symbol.dropPlain? '?' rest <;> cases Symbol.dropPlain? '+' rest <;> rfl

theorem repetitionOf_append (least : Nat) (most : Option Nat) (rest : List Symbol) :
    repetitionOf least most (rest ++ closing :: more)
      = closedBy more (repetitionOf least most rest) := by
  rw [repetitionOf, repetitionOf, readGreed_append]
  rfl

def signBounds? (c : Char) : Option (Nat × Option Nat) :=
  if c == '?' then some (0, some 1)
  else if c == '*' then some (0, none)
  else if c == '+' then some (1, none)
  else none

/-- The bounds that the counts between braces stand for; a single count is both of them. -/
def countBounds (lo : List Char) (hi : Option (List Char)) : Except Fault (Nat × Option Nat) := do
  let least ← readCount lo
  let most ← hi.elim (.ok least) readCount
  if most.all (least.getD 0 ≤ ·) then return (least.getD 0, most) else throw .malformed

/-- A repetition is read from its sign or else from its braces. -/
theorem readRepetition_eq (scope : Scope) (c : Char) (rest : List Symbol) :
    readRepetition scope c rest =
      match signBounds? c with
      | some (least, most) => .ok (repetitionOf least most rest)
      | none =>
          match readBounds rest with
          | none => .ok (.atom (.code c.toNat false scope.rule), rest)
          | some ((lo, hi), rest') =>
              (countBounds lo hi).map fun bounds => repetitionOf bounds.1 bounds.2 rest' := by
  -- with both counts at hand, it is the same whether they are checked before or after they are used
  have hcheck : ∀ (least n : Nat) (rest' : List Symbol),
      (do if n < least then throw Fault.malformed
          return repetitionOf least (some n) rest' : Except Fault (Construct × List Symbol))
        = Except.map (fun bounds => repetitionOf bounds.1 bounds.2 rest')
            (if decide (least ≤ n) then return (least, some n) else throw .malformed) := by
    intro least n rest'
    by_cases hlt : n < least
    · simp only [if_pos hlt, decide_eq_true_eq, if_neg (Nat.not_le_of_lt hlt)]
      rfl
    · simp only [if_neg hlt, decide_eq_true_eq, if_pos (Nat.le_of_not_lt hlt)]
      rfl
  rw [readRepetition, signBounds?]
  split
  · rfl
  split
  · rfl
  split
  · rfl
  cases readBounds rest with
  | none => rfl
  | some found =>
      obtain ⟨⟨lo, hi⟩, rest'⟩ := found
      simp only [countBounds]
      cases readCount lo with
      | error fault => rfl
      | ok least =>
          cases hi with
          | none =>
              cases least with
              | none => rfl
              | some n => exact hcheck _ n rest'
          | some ds =>
              cases hmost : readCount ds with
              | error fault => simp only [hmost, Option.elim_some]; rfl
              | ok most =>
                  simp only [hmost, Option.elim_some]
                  cases most with
                  | none => rfl
                  | some n => exact hcheck _ n rest'

theorem readRepetition_append (scope : Scope) (c : Char) (rest : List Symbol) :
    readRepetition scope c (rest ++ closing :: more)
      = (readRepetition scope c rest).map (closedBy more) := by
  rw [readRepetition_eq, readRepetition_eq, readBounds_append]
  cases signBounds? c with
  | some bounds => exact congrArg Except.ok (repetitionOf_append more _ _ rest)
  | none =>
      cases readBounds rest with
      | none => rfl
      | some found =>
          obtain ⟨⟨lo, hi⟩, rest'⟩ := found
          simp only [Option.map_some, closedBy_mk]
          cases countBounds lo hi with
          | error fault => rfl
          | ok bounds => exact congrArg Except.ok (repetitionOf_append more _ _ rest')

/-! ## Groups -/

theorem readDroppedFlags_append {add del : List Char} {rest : List Symbol}
    {found : FlagGroup × List Symbol} (h : readDroppedFlags add del rest = some found) :
    readDroppedFlags add del (rest ++ more) = some (found.1, found.2 ++ more) := by
  induction rest generalizing del with
  | nil => cases h
  | cons s rest ih =>
      rw [List.cons_append, readDroppedFlags]
      rw [readDroppedFlags] at h
      split
      · rename_i hs
        rw [if_pos hs] at h
        split
        · rename_i hbad
          rw [if_pos hbad] at h
          cases h
        · rename_i hbad
          rw [if_neg hbad] at h
          injection h with h
          subst h
          rfl
      · rename_i hs
        rw [if_neg hs] at h
        split
        · rename_i hbad
          rw [if_pos hbad] at h
          cases h
        · rename_i hbad
          rw [if_neg hbad] at h
          exact ih h

theorem readFlags_append {add : List Char} {rest : List Symbol} {found : FlagGroup × List Symbol}
    (h : readFlags add rest = some found) :
    readFlags add (rest ++ more) = some (found.1, found.2 ++ more) := by
  induction rest generalizing add with
  | nil => cases h
  | cons s rest ih =>
      rw [List.cons_append, readFlags]
      rw [readFlags] at h
      by_cases hescaped : s.escaped = true
      · rw [if_pos hescaped] at h
        cases h
      rw [if_neg hescaped] at h ⊢
      by_cases hflag : isFlag s.char = true
      · -- one more flag to set
        rw [if_pos hflag] at h ⊢
        simp only at h ⊢
        split at h
        · cases h
        · rename_i hgood
          rw [if_neg hgood]
          exact ih h
      rw [if_neg hflag] at h ⊢
      by_cases hclose : (s.char == ')') = true
      · -- the flags are those of the whole pattern
        rw [if_pos hclose] at h ⊢
        split at h
        · cases h
        · rename_i hadd
          rw [if_neg hadd]
          injection h with h
          subst h
          rfl
      rw [if_neg hclose] at h ⊢
      split at h
      · cases h
      rename_i hwhole
      rw [if_neg hwhole]
      by_cases hcolon : (s.char == ':') = true
      · -- the flags are those of a group
        rw [if_pos hcolon] at h ⊢
        split at h
        · cases h
        · rename_i hadd
          rw [if_neg hadd]
          injection h with h
          subst h
          rfl
      rw [if_neg hcolon] at h ⊢
      by_cases hminus : (s.char == '-') = true
      · rw [if_pos hminus] at h ⊢
        exact readDroppedFlags_append more h
      · rw [if_neg hminus] at h
        cases h

/-- A construct that ends at a sign is the same in front of more text. -/
theorem map_takeUntil_append {α : Type} (f : List Char → α) {terminator : Char}
    {rest : List Symbol} {found : α × List Symbol}
    (h : (Symbol.takeUntil? terminator rest).map (fun taken => (f taken.1, taken.2)) = some found) :
    (Symbol.takeUntil? terminator (rest ++ closing :: more)).map (fun taken => (f taken.1, taken.2))
      = some (closedBy more found) := by
  obtain ⟨⟨cs, rest'⟩, htake, hfound⟩ := Option.map_eq_some_iff.mp h
  subst hfound
  rw [Symbol.takeUntil?_append _ htake]
  rfl

theorem readExtension_append {rest : List Symbol} {found : Construct × List Symbol}
    (h : readExtension rest = some found) :
    readExtension (rest ++ closing :: more) = some (closedBy more found) := by
  cases rest with
  | nil => cases h
  | cons s rest =>
      unfold readExtension at h ⊢
      simp only [List.cons_append] at h ⊢
      by_cases hescaped : s.escaped = true
      · rw [if_pos hescaped] at h
        cases h
      · rw [if_neg hescaped] at h ⊢
        split at h
        · injection h with h; subst h; rfl
        · injection h with h; subst h; rfl
        · injection h with h; subst h; rfl
        · injection h with h; subst h; rfl
        · -- a look behind
          split at h
          · cases h
          · rename_i t rest'
            rw [List.cons_append]
            simp only
            split at h
            · rename_i ht
              rw [if_pos ht]
              injection h with h; subst h; rfl
            · rename_i ht
              rw [if_neg ht]
              split at h
              · rename_i ht'
                rw [if_pos ht']
                injection h with h; subst h; rfl
              · cases h
        · exact map_takeUntil_append more (fun _ => Construct.skip) h
        · exact map_takeUntil_append more Construct.condition h
        · -- the forms with a name
          rw [Symbol.dropPlain?_append more (by decide), Symbol.dropPlain?_append more (by decide)]
          cases hopen : Symbol.dropPlain? '<' rest with
          | some rest' =>
              rw [hopen] at h
              simp only [Option.map_some] at h ⊢
              cases htake : Symbol.takeUntil? '>' rest' with
              | none => rw [htake] at h; cases h
              | some taken =>
                  rw [htake] at h
                  rw [Symbol.takeUntil?_append _ htake]
                  simp only at h ⊢
                  split at h
                  · rename_i hname
                    rw [if_pos hname]
                    injection h with h; subst h; rfl
                  · cases h
          | none =>
              rw [hopen] at h
              simp only [Option.map_none] at h ⊢
              cases hequals : Symbol.dropPlain? '=' rest with
              | none => rw [hequals] at h; cases h
              | some rest' =>
                  rw [hequals] at h
                  exact map_takeUntil_append more Construct.referTo h
        · obtain ⟨⟨flags, rest'⟩, hflags, hfound⟩ := Option.map_eq_some_iff.mp h
          have hmore := readFlags_append (closing :: more) hflags
          rw [List.cons_append] at hmore
          rw [hmore]
          subst hfound
          cases flags <;> rfl

/-! ## All constructs -/

/-- A comment that ends in the text is dropped in the same way in front of more text. -/
theorem dropComment_append (rest : List Symbol) :
    dropComment rest = [] ∨ dropComment (rest ++ more) = dropComment rest ++ more := by
  induction rest with
  | nil => exact Or.inl rfl
  | cons s rest ih =>
      rw [List.cons_append, dropComment, dropComment]
      split
      · exact Or.inr rfl
      · exact ih

theorem map_orMalformed {α : Type} {read : Option α} {found : α}
    (h : orMalformed read = .ok found) : read = some found := by
  cases read with
  | none => cases h
  | some a => injection h with h; rw [h]

/-- **A construct is the same in front of a closing parenthesis**, unless it is a comment that takes
the whole rest of the text. -/
theorem readConstruct_append {scope : Scope} {s : Symbol} {rest : List Symbol}
    {found : Construct × List Symbol} (h : readConstruct scope s rest = .ok found) :
    (scope.verbose = true ∧ found = (.skip, [])) ∨
      readConstruct scope s (rest ++ closing :: more) = .ok (closedBy more found) := by
  rw [readConstruct] at h ⊢
  by_cases hescaped : s.escaped = true
  · right
    rw [if_pos hescaped] at h ⊢
    rw [readEscape_append, map_orMalformed h]
    rfl
  rw [if_neg hescaped] at h ⊢
  by_cases hclose : (s.char == ')') = true
  · rw [if_pos hclose] at h ⊢
    injection h with h; subst h; exact Or.inr rfl
  rw [if_neg hclose] at h ⊢
  by_cases hbranch : (s.char == '|') = true
  · rw [if_pos hbranch] at h ⊢
    injection h with h; subst h; exact Or.inr rfl
  rw [if_neg hbranch] at h ⊢
  by_cases hblank : (scope.verbose && isAsciiBlank s.char) = true
  · rw [if_pos hblank] at h ⊢
    injection h with h; subst h; exact Or.inr rfl
  rw [if_neg hblank] at h ⊢
  by_cases hcomment : (scope.verbose && s.char == '#') = true
  · rw [if_pos hcomment] at h ⊢
    -- a comment that no line feed ends takes in whatever is put behind it
    injection h with h
    subst h
    rcases dropComment_append (closing :: more) rest with hall | hsome
    · rw [Bool.and_eq_true] at hcomment
      exact Or.inl ⟨hcomment.1, by rw [hall]⟩
    · rw [hsome]
      exact Or.inr rfl
  rw [if_neg hcomment] at h ⊢
  -- all other constructs are looked for by their signs alone, whatever the flags are
  right
  split at h
  · obtain ⟨⟨node, rest'⟩, hset, hfound⟩ := Option.map_eq_some_iff.mp (map_orMalformed h)
    rw [readSet_append more hset]
    subst hfound
    rfl
  · rw [Symbol.dropPlain?_append more (by decide)]
    cases hquestion : Symbol.dropPlain? '?' rest with
    | some rest' =>
        rw [hquestion] at h
        simp only [Option.map_some] at h ⊢
        rw [readExtension_append more (map_orMalformed h)]
        rfl
    | none =>
        rw [hquestion] at h
        injection h with h; subst h; rfl
  · rw [readRepetition_append, h]; rfl
  · rw [readRepetition_append, h]; rfl
  · rw [readRepetition_append, h]; rfl
  · rw [readRepetition_append, h]; rfl
  · injection h with h; subst h; rfl
  · injection h with h; subst h; rfl
  · injection h with h; subst h; rfl
  · injection h with h; subst h; rfl

end LintRunner.Regex
