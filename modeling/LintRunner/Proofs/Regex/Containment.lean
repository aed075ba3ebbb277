import LintRunner.Proofs.Regex.Embedding
import LintRunner.Proofs.Regex.Progress
import LintRunner.Proofs.Regex.Width

/-!
# Contained texts

A text is contained if it has nothing to do with what stands around it when it is put into a group: its
constructs end within it, it closes its own groups only, and it refers to no groups (`Contained`). Read
inside a group such a text goes through states that mirror those of reading it alone
(`Reading.Mirrors.leads`), so that what is at fault alone is at fault there (`Contained.refused`).
-/

set_option autoImplicit false

namespace LintRunner.Regex

/-! ## Alike states -/

/-- Sequences of the same width, whatever the groups around each of them. -/
def SameWidth (a b : List Piece) : Prop :=
  ∀ groups groups', piecesWidth groups a = piecesWidth groups' b

/-- Items that can be repeated alike and are as wide as each other. -/
structure Item.Alike (a b : Item) : Prop where
  final : a.isFinal = b.isFinal
  width : SameWidth a.pieces b.pieces

/-- Parentheses of the same kind that are no conditions; the numbers of their groups may differ. -/
inductive Opened.Alike : Opened → Opened → Prop
  | plain : Alike .plain .plain
  | flags : Alike .flags .flags
  | capture (group group' : Nat) : Alike (.capture group) (.capture group')
  | atomic : Alike .atomic .atomic
  | ahead (negated : Bool) : Alike (.ahead negated) (.ahead negated)
  | behind (negated outermost outermost' : Bool) :
      Alike (.behind negated outermost) (.behind negated outermost')

structure Level.Alike (a b : Level) : Prop where
  opened : a.opened.Alike b.opened
  items : List.Forall₂ Item.Alike a.items b.items
  branches : List.Forall₂ SameWidth a.branches b.branches
  scope : b.scope = a.scope

theorem Opened.Alike.unconditional {a b : Opened} (h : a.Alike b) :
    ((∀ group, a ≠ .given group) ∧ ∀ group yes, a ≠ .otherwise group yes) ∧
      (∀ group, b ≠ .given group) ∧ ∀ group yes, b ≠ .otherwise group yes := by
  cases h <;> exact ⟨⟨nofun, nofun⟩, nofun, nofun⟩

theorem Node.width_of_isLeaf {node : Node} (h : node.isLeaf = true) : SameWidth [{ node }] [{ node }] := by
  intro groups groups'
  cases node <;> first | rfl | cases h

theorem isFinal_sealed (node : Node) :
    Item.isFinal { pieces := [{ node, isSealed := true }] } = false := by
  rw [Item.isFinal.eq_def]
  split
  · rename_i h; cases h
  · rename_i h; cases h
  · rfl

theorem SameWidth.pieces {items items' : List Item} (h : List.Forall₂ Item.Alike items items') :
    SameWidth (items.reverse.flatMap Item.pieces) (items'.reverse.flatMap Item.pieces) := by
  intro groups groups'
  induction h with
  | nil => rfl
  | cons first later ih =>
      rw [List.reverse_cons, List.reverse_cons, List.flatMap_append, List.flatMap_append,
        piecesWidth_append, piecesWidth_append, ih, List.flatMap_singleton, List.flatMap_singleton,
        first.width groups groups']

theorem SameWidth.piecesOfBranches {branches branches' : List (List Piece)}
    (h : List.Forall₂ SameWidth branches branches') :
    SameWidth (piecesOfBranches branches) (Regex.piecesOfBranches branches') := by
  intro groups groups'
  have hwidths : branches.map (piecesWidth groups) = branches'.map (piecesWidth groups') := by
    induction h with
    | nil => rfl
    | cons first later ih => rw [List.map_cons, List.map_cons, ih, first groups groups']
  rw [width_piecesOfBranches, width_piecesOfBranches, hwidths]

/-- A repetition is as wide as another one of the same body. -/
theorem SameWidth.times {a b : List Piece} (h : SameWidth a b) (greed : Greed) (least : Nat)
    (most : Option Nat) :
    SameWidth [{ node := .times greed least most (nodeOfPieces a) }]
      [{ node := .times greed least most (nodeOfPieces b) }] := by
  intro groups groups'
  have hbody : (nodeOfPieces a).width groups = (nodeOfPieces b).width groups' := h groups groups'
  rw [piecesWidth_singleton, piecesWidth_singleton]
  simp only [Node.width, hbody]

namespace Reading

/-- A state inside the innermost group of `base` that mirrors the state of reading alone: the groups
that have been opened are of the same kinds, and the sequences around and inside them are alike. -/
structure Mirrors (base alone st : Reading) : Prop where
  levels : ∃ own, st.levels = own ++ base.levels ∧ List.Forall₂ Level.Alike alone.levels own
  items : List.Forall₂ Item.Alike alone.items st.items
  branches : List.Forall₂ SameWidth alone.branches st.branches
  scope : st.scope = alone.scope
  names : ∀ name, st.names.lookup name = none → alone.names.lookup name = none
  late : alone.late = true → st.late = true
  asked : alone.asked = 0

variable {base alone alone' st st' : Reading}

theorem Mirrors.pieces (h : Mirrors base alone st) : SameWidth alone.pieces st.pieces :=
  SameWidth.pieces h.items

theorem Mirrors.contents (h : Mirrors base alone st) : SameWidth alone.contents st.contents := by
  refine SameWidth.piecesOfBranches ?_
  rw [List.forall₂_reverse_iff]
  exact .cons h.pieces h.branches

theorem Mirrors.push (h : Mirrors base alone st) {item item' : Item} (hitem : item.Alike item') :
    Mirrors base (alone.push item) (st.push item') :=
  { h with items := .cons hitem h.items }

/-- A group of the same kind is opened in both states. -/
theorem Mirrors.openLevel (h : Mirrors base alone st) {opened opened' : Opened}
    (hopened : opened.Alike opened') (scope : Scope) :
    Mirrors base (alone.openLevel opened scope) (st.openLevel opened' scope) := by
  obtain ⟨own, hlevels, hown⟩ := h.levels
  exact {
    levels := ⟨_ :: own, congrArg _ hlevels, .cons ⟨hopened, h.items, h.branches, h.scope⟩ hown⟩
    items := .nil
    branches := .nil
    scope := rfl
    names := h.names
    late := h.late
    asked := h.asked }

/-- A group is closed in both states. -/
theorem Mirrors.closeLevel (h : Mirrors base alone st) (hopen : alone.levels ≠ []) :
    ∃ alone' st', alone.closeLevel = .ok alone' ∧ st.closeLevel = .ok st' ∧ Mirrors base alone' st' := by
  obtain ⟨own, hlevels, hown⟩ := h.levels
  cases hown' : alone.levels with
  | nil => exact absurd hown' hopen
  | cons level levels =>
      rw [hown'] at hown
      cases hown with
      | @cons _ level' _ own hlevel hown =>
          have hwidth := h.contents
          have hbody : ∀ groups groups', (nodeOfPieces alone.contents).width groups
              = (nodeOfPieces st.contents).width groups' := hwidth
          -- the states around the group mirror each other, and so they do with the item of the group
          have houter : ∀ {item item' : Item} (closed closed' : List (Nat × Nat × Nat))
              (limit limit' : Option Nat) (late late' : Bool), item.Alike item' →
              (late = true → late' = true) →
              Mirrors base
                { alone with levels, items := item :: level.items, branches := level.branches,
                             scope := level.scope, closed, behindLimit := limit, late }
                { st with levels := own ++ base.levels, items := item' :: level'.items,
                          branches := level'.branches, scope := level'.scope, closed := closed',
                          behindLimit := limit', late := late' } :=
            fun closed closed' limit limit' late late' hitem hlate =>
              ⟨⟨own, rfl, hown⟩, .cons hitem hlevel.items, hlevel.branches, hlevel.scope, h.names, hlate,
                h.asked⟩
          obtain ⟨opened, items, branches, scope⟩ := level
          obtain ⟨opened', items', branches', scope'⟩ := level'
          have hkind : opened.Alike opened' := hlevel.opened
          rw [List.cons_append] at hlevels
          simp only [Reading.closeLevel, hown', hlevels]
          cases hkind with
          | plain =>
              have hfinal := (isFinal_group alone.contents).trans (isFinal_group st.contents).symm
              exact ⟨_, _, rfl, rfl, houter _ _ _ _ _ _ ⟨hfinal, hwidth⟩ h.late⟩
          | flags =>
              have hfinal := (isFinal_sealed (nodeOfPieces alone.contents)).trans
                (isFinal_sealed (nodeOfPieces st.contents)).symm
              exact ⟨_, _, rfl, rfl, houter _ _ _ _ _ _ ⟨hfinal, hwidth⟩ h.late⟩
          | capture group group' => exact ⟨_, _, rfl, rfl, houter _ _ _ _ _ _ ⟨rfl, hwidth⟩ h.late⟩
          | atomic => exact ⟨_, _, rfl, rfl, houter _ _ _ _ _ _ ⟨rfl, hwidth⟩ h.late⟩
          | ahead negated =>
              exact ⟨_, _, rfl, rfl, houter _ _ _ _ _ _ ⟨rfl, fun _ _ => rfl⟩ h.late⟩
          | behind negated outermost outermost' =>
              refine ⟨_, _, rfl, rfl, houter _ _ _ _ _ _ ⟨rfl, fun _ _ => rfl⟩ fun hlate => ?_⟩
              -- a look behind is too wide in both states or in none
              rw [hbody alone.closed st.closed] at hlate
              simp only [Bool.or_eq_true] at hlate ⊢
              exact hlate.imp_left (Or.imp_left h.late)

/-- A repetition is possible in both states or in none. -/
theorem Mirrors.repeatLast (h : Mirrors base alone st) (greed : Greed) (least : Nat)
    (most : Option Nat) :
    st.repeatLast greed least most = .error .malformed ∨
      ∃ alone' st', alone.repeatLast greed least most = .ok alone' ∧
        st.repeatLast greed least most = .ok st' ∧ Mirrors base alone' st' := by
  have hitems := h.items
  cases hown : alone.items with
  | nil =>
      rw [hown, List.forall₂_nil_left_iff] at hitems
      exact Or.inl (by rw [Reading.repeatLast, hitems])
  | cons item before =>
      rw [hown, List.forall₂_cons_left_iff] at hitems
      obtain ⟨item', before', halike, hbefore, hitems'⟩ := hitems
      by_cases hfinal : item'.isFinal = true
      · exact Or.inl (by simp only [Reading.repeatLast, hitems', hfinal, if_true])
      · have hfinal' : ¬ item.isFinal = true := by rwa [halike.final]
        -- what both states do, as their last items may both be repeated
        have hrun : ∀ {st : Reading} {item : Item} {before : List Item}, st.items = item :: before →
            ¬ item.isFinal = true → st.repeatLast greed least most = .ok { st with
              items := { pieces := [{ node := .times greed least most (nodeOfPieces item.pieces) }] } :: before
              late := st.late || st.scope.unrepeated } := by
          intro st item before hitems hfinal
          simp only [Reading.repeatLast, hitems, if_neg hfinal]
        refine Or.inr ⟨_, _, hrun hown hfinal', hrun hitems' hfinal, ?_⟩
        have hrepeated := SameWidth.times halike.width greed least most
        refine { h with items := .cons ⟨rfl, hrepeated⟩ hbefore, late := fun hlate => ?_ }
        rw [Bool.or_eq_true] at hlate ⊢
        rw [h.scope]
        exact hlate.imp_left h.late

/-- The next alternative is begun in both states, unless a condition is around the whole text. -/
theorem Mirrors.nextBranch (h : Mirrors base alone st)
    (hplain : base.InPlain) :
    ∃ alone' st', alone.nextBranch = .ok alone' ∧ st.nextBranch = .ok st' ∧
      Mirrors base alone' st' := by
  obtain ⟨own, hlevels, hown⟩ := h.levels
  -- no condition is open in either state: those of the text mirror each other, and behind them comes the base
  have halone : ∀ level ∈ alone.levels.head?, (∀ group, level.opened ≠ .given group) ∧
      ∀ group yes, level.opened ≠ .otherwise group yes := by
    intro level hlevel
    generalize alone.levels = levels at hown hlevel
    cases hown with
    | nil => cases hlevel
    | cons hfirst _ =>
        obtain rfl := Option.some.inj hlevel
        exact hfirst.opened.unconditional.1
  have hst : ∀ level ∈ st.levels.head?, (∀ group, level.opened ≠ .given group) ∧
      ∀ group yes, level.opened ≠ .otherwise group yes := by
    intro level hlevel
    rw [hlevels] at hlevel
    generalize alone.levels = levels at hown
    cases hown with
    | nil =>
        obtain ⟨outer, levels, hbase, hopened⟩ := hplain
        rw [List.nil_append, hbase] at hlevel
        obtain rfl := Option.some.inj hlevel
        rw [hopened]
        exact ⟨nofun, nofun⟩
    | cons hfirst _ =>
        obtain rfl := Option.some.inj hlevel
        exact hfirst.opened.unconditional.2
  exact ⟨_, _, nextBranch_of_unconditional halone, nextBranch_of_unconditional hst,
    { h with items := .nil, branches := .cons h.pieces h.branches }⟩

/-- A group that captures is begun in both states, unless its name is taken. -/
theorem Mirrors.openCapture (h : Mirrors base alone st) (name : Option (List Char)) :
    st.openCapture name = .error .malformed ∨
      ∃ alone' st', alone.openCapture name = .ok alone' ∧ st.openCapture name = .ok st' ∧
        Mirrors base alone' st' := by
  have hopened := h.openLevel (.capture (alone.groups + 1) (st.groups + 1)) alone.scope
  rw [← h.scope] at hopened
  cases name with
  | none =>
      refine Or.inr ⟨_, _, rfl, rfl, ?_⟩
      rw [← h.scope]
      exact { hopened with }
  | some name =>
      cases htaken : st.names.lookup name with
      | some group => exact Or.inl (by simp only [Reading.openCapture, htaken, Option.isSome_some, if_true])
      | none =>
          -- a name that is free inside the group is free alone, where fewer names are known
          have hfree := h.names name htaken
          refine Or.inr ⟨_, _, openCapture_of_fresh hfree, openCapture_of_fresh htaken, ?_⟩
          refine { hopened with scope := h.scope, names := fun other hother => ?_ }
          have hlookup : ∀ (group : Nat) (names : List (List Char × Nat)),
              ((name, group) :: names).lookup other = none ↔
                (other == name) = false ∧ names.lookup other = none := by
            intro group names
            rw [List.lookup_cons]
            cases other == name <;> simp
          obtain ⟨hother, hnone⟩ := (hlookup _ _).mp hother
          exact (hlookup _ _).mpr ⟨hother, h.names other hnone⟩

end Reading

/-! ## Constructs of contained texts -/

/-- Constructs that refer to no group. -/
def Construct.isOwn : Construct → Bool
  | .refer _ | .referTo _ | .condition _ => false
  | _ => true

namespace Reading

variable {base alone alone' st st' : Reading}

/-- **A construct does the same in both states**, unless it cannot stand inside the group. -/
theorem Mirrors.perform {construct : Construct} (h : Mirrors base alone st)
    (hplain : base.InPlain)
    (hown : construct.isOwn = true) (hsound : construct.IsSound)
    (hclose : construct = .close → alone.levels ≠ []) :
    st.perform construct = .error .malformed ∨
      ∃ alone' st', alone.perform construct = .ok alone' ∧ st.perform construct = .ok st' ∧
        Mirrors base alone' st' := by
  cases construct with
  | skip => exact Or.inr ⟨_, _, rfl, rfl, h⟩
  | atom node =>
      exact Or.inr ⟨_, _, rfl, rfl, h.push ⟨rfl, Node.width_of_isLeaf hsound⟩⟩
  | repetition greed least most => exact h.repeatLast greed least most
  | plainGroup =>
      have hopened := h.openLevel .plain alone.scope
      exact Or.inr ⟨_, _, rfl, rfl, by rw [h.scope]; exact hopened⟩
  | flagGroup add del =>
      have hopened := h.openLevel .flags (alone.scope.adjust add del)
      exact Or.inr ⟨_, _, rfl, rfl, by rw [h.scope]; exact hopened⟩
  | captureGroup name => exact h.openCapture name
  | atomicGroup =>
      have hopened := h.openLevel .atomic alone.scope
      exact Or.inr ⟨_, _, rfl, rfl, by rw [h.scope]; exact hopened⟩
  | lookAhead negated =>
      have hopened := h.openLevel (.ahead negated) alone.scope
      exact Or.inr ⟨_, _, rfl, rfl, by rw [h.scope]; exact hopened⟩
  | lookBehind negated =>
      have hopened := h.openLevel
        (.behind negated alone.behindLimit.isNone st.behindLimit.isNone) alone.scope
      refine Or.inr ⟨_, _, rfl, rfl, ?_⟩
      rw [openBehind, openBehind, h.scope]
      exact { hopened with }
  | close => exact Or.inr (h.closeLevel (hclose rfl))
  | branch => exact Or.inr (h.nextBranch hplain)
  | flags add =>
      -- flags for the whole pattern cannot stand inside a group
      obtain ⟨own, hlevels, -⟩ := h.levels
      obtain ⟨level, levels, hbase, -⟩ := hplain
      have hopen : st.levels.isEmpty = false := by rw [hlevels, hbase]; simp
      left
      show st.setFlags add = _
      simp only [setFlags, hopen, Bool.false_and, Bool.false_eq_true, if_false]
  | refer | referTo | condition => cases hown

/-- What a text does at one of its places if it is contained: the construct there ends in front of a
closing parenthesis behind the text, refers to no group, and closes a group of the text, if any; or it
is at fault in the same way whether a closing parenthesis follows or not. -/
inductive Keeps (st : Reading) (s : Symbol) (rest : List Symbol) : Prop
  | ends {construct : Construct} {rest' : List Symbol}
      (alone : readConstruct st.scope s rest = .ok (construct, rest'))
      (inside : ∀ more, readConstruct st.scope s (rest ++ closing :: more)
        = .ok (construct, rest' ++ closing :: more))
      (own : construct.isOwn = true) (closes : construct = .close → st.levels ≠ [])
  | refused {fault : Fault} (alone : readConstruct st.scope s rest = .error fault)
      (inside : ∀ more, readConstruct st.scope s (rest ++ closing :: more) = .error fault)

/-- The step at a place of a contained text is the same inside the group, unless it is refused there. -/
theorem Mirrors.step {s : Symbol} {rest : List Symbol} (h : Mirrors base alone st)
    (hplain : base.InPlain)
    (hkeeps : alone.Keeps s rest) (more : List Symbol) :
    st.step s (rest ++ closing :: more) = .error .malformed ∨
      (∃ fault, alone.step s rest = .error fault ∧ st.step s (rest ++ closing :: more) = .error fault) ∨
      ∃ alone' rest' st', alone.step s rest = .ok (alone', rest') ∧
        st.step s (rest ++ closing :: more) = .ok (st', rest' ++ closing :: more) ∧
        Mirrors base alone' st' := by
  cases hkeeps with
  | @refused fault hread hinside =>
      refine Or.inr (Or.inl ⟨fault, ?_, ?_⟩)
      · rw [Reading.step, hread]
        rfl
      · rw [Reading.step, h.scope, hinside more]
        rfl
  | @ends construct rest' hread hinside hown hcloses =>
      have hstep : st.step s (rest ++ closing :: more)
          = (st.perform construct).map fun st' => (st', rest' ++ closing :: more) := by
        rw [Reading.step, h.scope, hinside more]
        rfl
      -- both places read the same construct, and what it does mirrors
      rcases h.perform hplain hown (readConstruct_isSound hread) hcloses with
        hrefused | ⟨alone', st', halone, hst, hmirrors⟩
      · left
        rw [hstep, hrefused]
        rfl
      · right; right
        refine ⟨alone', rest', st', step_eq_ok.mpr ⟨construct, hread, halone⟩, ?_, hmirrors⟩
        rw [hstep, hst]
        rfl

/-- **Reading a contained text inside a group mirrors reading it alone**, up to a place where it is
refused. -/
theorem Mirrors.leads {n : Nat} {symbols rest : List Symbol} (h : Mirrors base alone st)
    (hplain : base.InPlain)
    (hkeeps : ∀ m place s later, Leads m alone symbols place (s :: later) → place.Keeps s later)
    (hleads : Leads n alone symbols alone' rest) (more : List Symbol) :
    Refused .malformed st (symbols ++ closing :: more) ∨
      ∃ st', Leads n st (symbols ++ closing :: more) st' (rest ++ closing :: more) ∧
        Mirrors base alone' st' := by
  induction hleads generalizing st with
  | refl alone symbols => exact Or.inr ⟨st, .refl _ _, h⟩
  | @step n alone alone₁ alone' s later later₁ rest first hlater ih =>
      rcases h.step hplain (hkeeps 0 alone s later (.refl _ _)) more with
        hrefused | ⟨fault, hfault, -⟩ | ⟨alone₂, later₂, st₁, halone, hst, hmirrors⟩
      · exact Or.inl ⟨0, st, s, _, .refl _ _, hrefused⟩
      · rw [first] at hfault
        cases hfault
      · rw [first] at halone
        obtain ⟨rfl, rfl⟩ := Prod.mk.inj (Except.ok.inj halone)
        have hfirst : Leads 1 st (s :: later ++ closing :: more) st₁ (later₁ ++ closing :: more) :=
          .step hst (.refl _ _)
        rcases ih hmirrors (fun m place s' rest' hplace => hkeeps (m + 1) place s' rest' (.step first hplace))
          with hrefused | ⟨st', hleads', hmirrors'⟩
        · exact Or.inl (hfirst.refused hrefused)
        · refine Or.inr ⟨st', ?_, hmirrors'⟩
          rw [Nat.add_comm]
          exact hfirst.trans hleads'

end Reading

/-- Texts that keep to themselves at every place that reading them alone comes to, and whose groups are
closed at their end. -/
structure Contained (symbols : List Symbol) : Prop where
  keeps : ∀ n st s rest, Reading.Leads n {} symbols st (s :: rest) → st.Keeps s rest
  closed : ∀ n st, Reading.Leads n {} symbols st [] → st.levels = []

section

variable {base : Reading} {symbols : List Symbol} {fault : Fault}

/-- **A contained text that is refused alone is refused inside a group**, for the same fault or as
malformed. -/
theorem Contained.refused (h : Contained symbols)
    (hplain : base.InPlain)
    (hstart : Reading.Mirrors base {} base) (hrefused : Reading.Refused fault {} symbols)
    (more : List Symbol) :
    Reading.Refused .malformed base (symbols ++ closing :: more) ∨
      Reading.Refused fault base (symbols ++ closing :: more) := by
  obtain ⟨n, alone, s, rest, hleads, hstep⟩ := hrefused
  rcases hstart.leads hplain h.keeps hleads more with hrefused | ⟨st, hleads', hmirrors⟩
  · exact Or.inl hrefused
  rcases hmirrors.step hplain (h.keeps n alone s rest hleads) more with
    hrefused | ⟨fault', halone, hst⟩ | ⟨alone', rest', st', halone, -, -⟩
  · exact Or.inl (hleads'.refused ⟨0, st, s, _, .refl _ _, hrefused⟩)
  · rw [hstep] at halone
    obtain rfl := Except.error.inj halone
    exact Or.inr (hleads'.refused ⟨0, st, s, _, .refl _ _, hst⟩)
  · rw [hstep] at halone
    cases halone

/-- A contained text that alone is read to its end is read to its end inside a group, or refused there. The
group is the innermost one again, and a fault that is kept for later is kept. -/
theorem Contained.leads {n : Nat} {alone : Reading} (h : Contained symbols)
    (hplain : base.InPlain)
    (hstart : Reading.Mirrors base {} base) (hleads : Reading.Leads n {} symbols alone [])
    (more : List Symbol) :
    Reading.Refused .malformed base (symbols ++ closing :: more) ∨
      ∃ st, Reading.Leads n base (symbols ++ closing :: more) st (closing :: more) ∧
        st.levels = base.levels ∧ (alone.late = true → st.late = true) ∧ alone.asked = 0 := by
  rcases hstart.leads hplain h.keeps hleads more with hrefused | ⟨st, hleads', hmirrors⟩
  · exact Or.inl hrefused
  · obtain ⟨own, hlevels, halike⟩ := hmirrors.levels
    rw [h.closed n alone hleads, List.forall₂_nil_left_iff] at halike
    rw [halike, List.nil_append] at hlevels
    exact Or.inr ⟨st, hleads', hlevels, hmirrors.late, hmirrors.asked⟩

end

/-! ## Faults that are kept for later -/

namespace Reading

variable {st st' : Reading}

/-- A fault that is kept for later is never forgotten. -/
theorem late_of_perform {construct : Construct} (h : st.perform construct = .ok st')
    (hlate : st.late = true) : st'.late = true := by
  cases construct with
  | skip | atom | plainGroup | flagGroup | atomicGroup | lookAhead | lookBehind =>
      obtain rfl := Except.ok.inj h
      exact hlate
  | refer group =>
      rw [refer_eq_ok h]
      exact hlate
  | referTo name =>
      rw [perform] at h
      split at h
      · rw [refer_eq_ok h]
        exact hlate
      · cases h
  | repetition greed least most =>
      obtain ⟨item, before, -, -, rfl⟩ := repeatLast_eq_ok h
      exact Bool.or_eq_true_iff.mpr (Or.inl hlate)
  | captureGroup name =>
      obtain ⟨-, rfl⟩ := openCapture_eq_ok h
      exact hlate
  | condition name =>
      obtain ⟨group, asked, rfl⟩ := openGiven_eq_ok h
      exact hlate
  | close =>
      rw [perform, closeLevel] at h
      split at h
      · cases h
      · simp only at h
        -- a look behind may add a fault of its own, the other groups leave it as it is
        split at h
        case h_6 =>
          obtain rfl := Except.ok.inj h
          simp [hlate]
        all_goals
          obtain rfl := Except.ok.inj h
          exact hlate
  | branch =>
      obtain ⟨group, level, levels, -, -, rfl⟩ | rfl := nextBranch_eq_ok h <;> exact hlate
  | flags add =>
      obtain ⟨-, rfl⟩ := setFlags_eq_ok h
      exact Bool.or_eq_true_iff.mpr (Or.inl hlate)

theorem Leads.late {n : Nat} {symbols rest : List Symbol} (h : Leads n st symbols st' rest)
    (hlate : st.late = true) : st'.late = true := by
  induction h with
  | refl => exact hlate
  | step first later ih =>
      obtain ⟨construct, -, hperform⟩ := step_eq_ok.mp first
      exact ih (late_of_perform hperform hlate)

/-- What has been read is no pattern if a fault has been kept. -/
theorem finish_of_late (hlate : st.late = true) : st.finish = .error .malformed := by
  rw [finish, hlate, Bool.or_true]
  rfl

/-- Where everything is closed and nothing is asked for, nothing but a kept fault is wrong in the end. -/
theorem late_of_finish {fault : Fault} (hlevels : st.levels = []) (hasked : st.asked = 0)
    (h : st.finish = .error fault) : st.late = true ∧ fault = .malformed := by
  rw [finish, hlevels, hasked] at h
  cases hlate : st.late with
  | true =>
      rw [hlate] at h
      exact ⟨rfl, (Except.error.inj h).symm⟩
  | false =>
      rw [hlate] at h
      cases h

end Reading

end LintRunner.Regex
