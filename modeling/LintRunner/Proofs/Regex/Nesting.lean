import LintRunner.Proofs.Regex.Frame
import LintRunner.Proofs.Regex.Locality

/-!
# Patterns inside a group

What happens when the text of a pattern stands between the parentheses of a group. If the text is a
pattern on its own and can also be read there, then it opens and closes its own groups only: it leaves
the groups around it as they were, and the tree that it contributes opens new groups only
(`Reading.Leads.inside`). Of the text on its own nothing more is used than which of its groups are open
at which place.
-/

set_option autoImplicit false

namespace LintRunner.Regex

open LintRunner.Text

/-! ## What a construct can be -/

/-- Nodes that take one character or none and hold no other nodes. -/
def Node.isLeaf : Node → Bool
  | .code .. | .set .. | .any _ | .anchor _ => true
  | _ => false

theorem Node.opens_of_isLeaf {node : Node} (h : node.isLeaf = true) : node.opens = [] := by
  cases node <;> first | rfl | cases h

/-- What holds of the constructs of every text: a node that stands for itself is a leaf, and the bounds
of a repetition can be met. -/
def Construct.IsSound : Construct → Prop
  | .atom node => node.isLeaf = true
  | .repetition _ least most => most.all (least ≤ ·) = true
  | _ => True

theorem readNumberEscape_isSound {scope : Scope} {c : Char} {rest : List Symbol}
    {found : Construct × List Symbol} (h : readNumberEscape scope c rest = some found) :
    found.1.IsSound := by
  have hsound : ∀ (n m : Nat) (third : List Char × List Symbol) (rest₁ : List Symbol),
      (if third.1.isEmpty then some (.refer n, rest₁)
        else if m ≤ octalEnd then some (.atom (.code m false scope.rule), third.2) else none)
        = some found → found.1.IsSound := by
    intro n m third rest₁ h
    split at h
    · injection h with h; subst h; trivial
    · split at h
      · injection h with h; subst h; rfl
      · cases h
  exact hsound _ _ _ _ h

theorem readEscape_isSound {scope : Scope} {c : Char} {rest : List Symbol}
    {found : Construct × List Symbol} (h : readEscape scope c rest = some found) :
    found.1.IsSound := by
  rw [readEscape] at h
  simp only at h
  split at h
  · injection h with h; subst h; rfl
  · injection h with h; subst h; rfl
  · injection h with h; subst h; rfl
  · split at h
    · obtain ⟨⟨n, rest'⟩, -, rfl⟩ := Option.map_eq_some_iff.mp h
      rfl
    · split at h
      · injection h with h; subst h; rfl
      · split at h
        · exact readNumberEscape_isSound h
        · split at h
          · cases h
          · injection h with h; subst h; rfl

theorem readSet_isLeaf {scope : Scope} {rest : List Symbol} {found : Node × List Symbol}
    (h : readSet scope rest = some found) : found.1.isLeaf = true := by
  rw [readSet] at h
  obtain ⟨⟨members, rest₂⟩, -, h⟩ := Option.bind_eq_some_iff.mp h
  simp only at h
  split at h <;> (injection h with h; subst h; rfl)

theorem repetitionOf_isSound {least : Nat} {most : Option Nat} (h : most.all (least ≤ ·) = true)
    (rest : List Symbol) : (repetitionOf least most rest).1.IsSound := h

/-- A sign of one character stands for bounds that can be met. -/
theorem signBounds?_within {c : Char} {least : Nat} {most : Option Nat}
    (h : signBounds? c = some (least, most)) : most.all (least ≤ ·) = true := by
  rw [signBounds?] at h
  split at h
  · injection h with h; cases h; rfl
  split at h
  · injection h with h; cases h; rfl
  split at h
  · injection h with h; cases h; rfl
  · cases h

/-- The counts between braces are checked. -/
theorem countBounds_within {lo : List Char} {hi : Option (List Char)} {least : Nat}
    {most : Option Nat} (h : countBounds lo hi = .ok (least, most)) :
    most.all (least ≤ ·) = true := by
  obtain ⟨first, -, h⟩ := bind_eq_ok.mp h
  obtain ⟨last, -, h⟩ := bind_eq_ok.mp h
  split at h
  · rename_i hle
    obtain ⟨rfl, rfl⟩ := Prod.mk.inj (Except.ok.inj h)
    exact hle
  · cases h

theorem readRepetition_isSound {scope : Scope} {c : Char} {rest : List Symbol}
    {found : Construct × List Symbol} (h : readRepetition scope c rest = .ok found) :
    found.1.IsSound := by
  rw [readRepetition_eq] at h
  split at h
  · rename_i hsign
    obtain rfl := Except.ok.inj h
    exact repetitionOf_isSound (signBounds?_within hsign) rest
  split at h
  · obtain rfl := Except.ok.inj h
    rfl
  · rename_i lo hi rest' _
    cases hcounts : countBounds lo hi with
    | error fault => rw [hcounts] at h; cases h
    | ok bounds =>
        rw [hcounts] at h
        obtain rfl := Except.ok.inj h
        exact repetitionOf_isSound (countBounds_within hcounts) rest'

theorem readExtension_isSound {rest : List Symbol} {found : Construct × List Symbol}
    (h : readExtension rest = some found) : found.1.IsSound := by
  cases rest with
  | nil => cases h
  | cons s rest =>
      unfold readExtension at h
      simp only at h
      split at h
      · cases h
      · split at h
        · injection h with h; subst h; trivial
        · injection h with h; subst h; trivial
        · injection h with h; subst h; trivial
        · injection h with h; subst h; trivial
        · split at h
          · cases h
          · split at h
            · injection h with h; subst h; trivial
            · split at h
              · injection h with h; subst h; trivial
              · cases h
        · obtain ⟨taken, -, rfl⟩ := Option.map_eq_some_iff.mp h
          trivial
        · obtain ⟨taken, -, rfl⟩ := Option.map_eq_some_iff.mp h
          trivial
        · split at h
          · split at h
            · split at h
              · injection h with h; subst h; trivial
              · cases h
            · cases h
          · obtain ⟨taken, -, rfl⟩ := Option.map_eq_some_iff.mp h
            trivial
          · cases h
        · obtain ⟨⟨flags, rest'⟩, -, rfl⟩ := Option.map_eq_some_iff.mp h
          cases flags <;> trivial

theorem readConstruct_isSound {scope : Scope} {s : Symbol} {rest : List Symbol}
    {found : Construct × List Symbol} (h : readConstruct scope s rest = .ok found) :
    found.1.IsSound := by
  rw [readConstruct] at h
  split at h
  · exact readEscape_isSound (map_orMalformed h)
  · split at h
    · injection h with h; subst h; trivial
    · split at h
      · injection h with h; subst h; trivial
      · split at h
        · injection h with h; subst h; trivial
        · split at h
          · injection h with h; subst h; trivial
          · split at h
            · obtain ⟨⟨node, rest'⟩, hset, rfl⟩ := Option.map_eq_some_iff.mp (map_orMalformed h)
              exact readSet_isLeaf hset
            · split at h
              · exact readExtension_isSound (map_orMalformed h)
              · injection h with h; subst h; trivial
            · exact readRepetition_isSound h
            · exact readRepetition_isSound h
            · exact readRepetition_isSound h
            · exact readRepetition_isSound h
            · injection h with h; subst h; rfl
            · injection h with h; subst h; rfl
            · injection h with h; subst h; rfl
            · injection h with h; subst h; rfl

/-! ## Flags around a place -/

/-- The flags in force, and those around every open group, the innermost first. -/
def Reading.scopes (st : Reading) : List Scope := st.scope :: st.levels.map Level.scope

/-- What a construct does to the flags around a place; `none` if it cannot stand there. -/
def Construct.rescope : Construct → List Scope → Option (List Scope)
  | _, [] => none
  | .plainGroup, s :: outer | .captureGroup _, s :: outer | .atomicGroup, s :: outer
  | .lookAhead _, s :: outer | .lookBehind _, s :: outer | .condition _, s :: outer =>
      some (s :: s :: outer)
  | .flagGroup add del, s :: outer => some (s.adjust add del :: s :: outer)
  | .close, _ :: s :: outer => some (s :: outer)
  | .close, _ => none
  | .flags add, [s] => some [s.adjust add []]
  | .flags _, _ => none
  | _, scopes => some scopes

theorem Reading.refer_eq_ok {st st' : Reading} {group : Nat} (h : st.refer group = .ok st') :
    st' = st.pushNode (.same group st.scope.rule) := by
  rw [refer] at h
  split at h
  · injection h with h; exact h.symm
  · cases h

theorem Reading.repeatLast_eq_ok {st st' : Reading} {greed : Greed} {least : Nat}
    {most : Option Nat} (h : st.repeatLast greed least most = .ok st') :
    ∃ item before, st.items = item :: before ∧ item.isFinal = false ∧ st' = { st with
      items := { pieces := [{ node := .times greed least most (nodeOfPieces item.pieces) }] } :: before
      late := st.late || st.scope.unrepeated } := by
  rw [repeatLast] at h
  split at h
  · cases h
  · rename_i item before hitems
    split at h
    · cases h
    · rename_i hfinal
      injection h with h
      exact ⟨item, before, hitems, by simpa using hfinal, h.symm⟩

theorem Reading.openCapture_eq_ok {st st' : Reading} {name : Option (List Char)}
    (h : st.openCapture name = .ok st') : (∀ n, name = some n → st.names.lookup n = none) ∧
      st' = { st.openLevel (.capture (st.groups + 1)) st.scope with
        groups := st.groups + 1
        names := (name.map fun n => (n, st.groups + 1)).toList ++ st.names } := by
  cases name with
  | none => injection h with h; exact ⟨fun n hn => (by cases hn), h.symm⟩
  | some name =>
      simp only [openCapture] at h
      split at h
      · cases h
      · rename_i hfresh
        injection h with h
        refine ⟨?_, h.symm⟩
        rintro n ⟨⟩
        exact Option.not_isSome_iff_eq_none.mp hfresh

theorem Reading.openGiven_eq_ok {st st' : Reading} {name : List Char}
    (h : st.openGiven name = .ok st') :
    ∃ group asked, st' = { st.openLevel (.given group) st.scope with asked } := by
  have hopened : ∀ group asked : Nat, (if st.canAsk group then
        (.ok { st.openLevel (.given group) st.scope with asked } : Except Fault Reading)
      else .error .malformed) = .ok st' →
      ∃ group asked, st' = { st.openLevel (.given group) st.scope with asked } := by
    intro group asked h
    split at h
    · injection h with h; exact ⟨group, asked, h.symm⟩
    · cases h
  rw [openGiven] at h
  split at h
  · split at h
    · exact hopened _ _ h
    · cases h
  · split at h
    · split at h
      · cases h
      · exact hopened _ _ h
    · cases h

theorem Reading.nextBranch_eq_ok {st st' : Reading} (h : st.nextBranch = .ok st') :
    (∃ group level levels, st.levels = level :: levels ∧ level.opened = .given group ∧
        st' = { st with
          levels := { level with opened := .otherwise group (nodeOfPieces st.pieces) } :: levels
          items := [] }) ∨
      st' = { st with branches := st.pieces :: st.branches, items := [] } := by
  rw [nextBranch] at h
  split at h
  · rename_i group items branches scope levels hlevels
    injection h with h
    exact Or.inl ⟨group, _, levels, hlevels, rfl, h.symm⟩
  · cases h
  · injection h with h
    exact Or.inr h.symm

theorem Reading.setFlags_eq_ok {st st' : Reading} {add : List Char} (h : st.setFlags add = .ok st') :
    st.levels = [] ∧ st' = { st with
      scope := st.scope.adjust add []
      flags := st.flags ++ add
      late := st.late || ((st.flags ++ add).contains 'a' && (st.flags ++ add).contains 'u') } := by
  rw [setFlags] at h
  split at h
  · rename_i hempty
    simp only [Bool.and_eq_true, List.isEmpty_iff] at hempty
    injection h with h
    exact ⟨hempty.1.1, h.symm⟩
  · cases h

def Opened.opens : Opened → List Nat
  | .capture group => [group]
  | .otherwise _ yes => yes.opens
  | _ => []

def piecesOpen (pieces : List Piece) : List Nat := pieces.flatMap fun piece => piece.node.opens

theorem piecesOpen_append (a b : List Piece) : piecesOpen (a ++ b) = piecesOpen a ++ piecesOpen b :=
  List.flatMap_append

theorem opens_ofList (nodes : List Node) : (Node.ofList nodes).opens = nodes.flatMap Node.opens := by
  induction nodes with
  | nil => rfl
  | cons node nodes ih => rw [List.flatMap_cons, ← ih]; rfl

theorem opens_nodeOfPieces (pieces : List Piece) : (nodeOfPieces pieces).opens = piecesOpen pieces := by
  rw [nodeOfPieces, opens_ofList, List.flatMap_map]
  rfl

/-- What is left behind when a group ends: one item, whose groups are those of what the group held and
of its parenthesis. -/
theorem Reading.closeLevel_eq_ok {st st' : Reading} (h : st.closeLevel = .ok st') :
    ∃ level levels item, st.levels = level :: levels
      ∧ (st'.levels = levels ∧ st'.scope = level.scope ∧ st'.items = item :: level.items
          ∧ st'.branches = level.branches ∧ st'.groups = st.groups ∧ st'.names = st.names)
      ∧ ∀ g ∈ piecesOpen item.pieces, g ∈ piecesOpen st.contents ∨ g ∈ level.opened.opens := by
  rw [closeLevel] at h
  split at h
  · cases h
  · rename_i level levels hlevels
    simp only at h
    have hbody := opens_nodeOfPieces st.contents
    -- the kinds of groups differ in the item that they leave, not in what they restore
    split at h
    all_goals
      rename_i hopened
      injection h with h
      subst h
      refine ⟨level, levels, _, hlevels, ⟨rfl, rfl, rfl, rfl, rfl, rfl⟩, ?_⟩
      simp only [piecesOpen, List.flatMap_cons, List.flatMap_nil, List.append_nil, Node.opens, hopened,
        Opened.opens]
      simp [hbody, piecesOpen, or_comm]

theorem Reading.perform_scopes {st st' : Reading} {c : Construct} (h : st.perform c = .ok st') :
    c.rescope st.scopes = some st'.scopes := by
  cases c with
  | skip => injection h with h; subst h; rfl
  | atom node => injection h with h; subst h; rfl
  | refer group => rw [refer_eq_ok h]; rfl
  | referTo name =>
      rw [perform] at h
      split at h
      · rw [refer_eq_ok h]; rfl
      · cases h
  | repetition greed least most =>
      obtain ⟨item, before, -, -, rfl⟩ := repeatLast_eq_ok h
      rfl
  | plainGroup => injection h with h; subst h; rfl
  | flagGroup add del => injection h with h; subst h; rfl
  | captureGroup name => rw [(openCapture_eq_ok h).2]; rfl
  | atomicGroup => injection h with h; subst h; rfl
  | lookAhead negated => injection h with h; subst h; rfl
  | lookBehind negated => injection h with h; subst h; rfl
  | condition name =>
      obtain ⟨group, asked, rfl⟩ := openGiven_eq_ok h
      rfl
  | close =>
      obtain ⟨level, levels, item, hlevels, ⟨hlevels', hscope, -⟩, -⟩ := closeLevel_eq_ok h
      rw [scopes, scopes, hlevels, hlevels', hscope]
      rfl
  | branch =>
      rcases nextBranch_eq_ok h with ⟨group, level, levels, hlevels, -, rfl⟩ | rfl
      · rw [scopes, scopes, hlevels]
        rfl
      · rfl
  | flags add =>
      obtain ⟨hlevels, rfl⟩ := setFlags_eq_ok h
      rw [scopes, scopes, hlevels]
      rfl

/-- A construct that can stand on its own and inside a group does the same to the flags in both
places, and does not reach the flags around the group. -/
theorem Construct.rescope_append {c : Construct} {own own' outer all : List Scope}
    (houter : outer ≠ []) (hown : c.rescope own = some own')
    (hall : c.rescope (own ++ outer) = some all) :
    all = own' ++ outer ∧ own'.getLast? = own.getLast? := by
  obtain ⟨o, outer, rfl⟩ := List.exists_cons_of_ne_nil houter
  cases own with
  | nil => cases hown
  | cons s own =>
      cases own with
      | nil => cases c <;> cases hown <;> cases hall <;> exact ⟨rfl, rfl⟩
      | cons s' own =>
          cases c <;> cases hown <;> cases hall <;> simp [List.getLast?_cons_cons]

/-! ## Groups opened inside -/

theorem opens_ofAlternatives (nodes : List Node) :
    (Node.ofAlternatives nodes).opens = nodes.flatMap Node.opens := by
  fun_induction Node.ofAlternatives nodes with
  | case1 => rfl
  | case2 node => simp
  | case3 node rest hrest ih => rw [List.flatMap_cons, ← ih]; rfl

theorem opens_of_isPlain {node : Node} (h : node.isPlain = true) : node.opens = [] := by
  cases node <;> first | rfl | cases h

/-- A first piece that alternatives have in common opens no groups, and each of them begins with it. -/
theorem commonHead?_eq_some {branches : List (List Piece)} {head : Piece}
    (h : commonHead? branches = some head) :
    head.node.opens = [] ∧ branches ≠ [] ∧ ∀ branch ∈ branches, branch = head :: branch.tail := by
  rw [commonHead?.eq_def] at h
  split at h
  · cases h
  · cases h
  · split at h
    · rename_i hcommon
      obtain rfl := Option.some.inj h
      simp only [Bool.and_eq_true, List.all_eq_true, beq_iff_eq] at hcommon
      refine ⟨opens_of_isPlain hcommon.1.2, List.cons_ne_nil _ _,
        List.forall_mem_cons.mpr ⟨rfl, fun branch hbranch => ?_⟩⟩
      obtain ⟨tail, rfl⟩ := List.head?_eq_some_iff.mp (hcommon.2 branch hbranch)
      rfl
    · cases h

/-- What is taken out of all alternatives opens no group, and what is left of them no new one. -/
theorem piecesOpen_factorHeads (n : Nat) (branches : List (List Piece)) :
    piecesOpen (factorHeads n branches).1 = [] ∧
      ∀ branch ∈ (factorHeads n branches).2, ∃ branch' ∈ branches,
        ∀ g ∈ piecesOpen branch, g ∈ piecesOpen branch' := by
  induction n generalizing branches with
  | zero => exact ⟨rfl, fun branch hbranch => ⟨branch, hbranch, fun _ hg => hg⟩⟩
  | succ n ih =>
      rw [factorHeads]
      cases hhead : commonHead? branches with
      | none => exact ⟨rfl, fun branch hbranch => ⟨branch, hbranch, fun _ hg => hg⟩⟩
      | some head =>
          obtain ⟨hheads, hrest⟩ := ih (branches.map List.tail)
          refine ⟨?_, fun branch hbranch => ?_⟩
          · rw [piecesOpen, List.flatMap_cons, (commonHead?_eq_some hhead).1, List.nil_append]
            exact hheads
          · obtain ⟨tail, htail, hsub⟩ := hrest branch hbranch
            obtain ⟨branch', hbranch', rfl⟩ := List.mem_map.mp htail
            refine ⟨branch', hbranch', fun g hg => ?_⟩
            obtain ⟨piece, hpiece, hg⟩ := List.mem_flatMap.mp (hsub g hg)
            exact List.mem_flatMap.mpr ⟨piece, List.mem_of_mem_tail hpiece, hg⟩

/-- Merging alternatives opens no groups. -/
theorem piecesOpen_piecesOfBranches {branches : List (List Piece)} {g : Nat}
    (h : g ∈ piecesOpen (piecesOfBranches branches)) : ∃ branch ∈ branches, g ∈ piecesOpen branch := by
  rw [piecesOfBranches.eq_def] at h
  split at h
  · cases h
  · rename_i branch
    exact ⟨branch, List.mem_singleton_self _, h⟩
  · obtain ⟨hheads, hrest⟩ := piecesOpen_factorHeads ((branches.map List.length).foldl max 0) branches
    simp only at h
    split at h
    · rw [piecesOpen_append, hheads, List.nil_append] at h
      cases h
    · rw [piecesOpen_append, hheads, List.nil_append, piecesOpen, List.flatMap_singleton,
        opens_ofAlternatives, List.flatMap_map] at h
      obtain ⟨branch, hbranch, hg⟩ := List.mem_flatMap.mp h
      obtain ⟨branch', hbranch', hsub⟩ := hrest branch hbranch
      exact ⟨branch', hbranch', hsub g (by rwa [← opens_nodeOfPieces])⟩

def Level.opens (level : Level) : List Nat :=
  level.opened.opens ++ level.items.flatMap (fun item => piecesOpen item.pieces)
    ++ level.branches.flatMap piecesOpen

namespace Reading

def InPlain (st : Reading) : Prop :=
  ∃ level levels, st.levels = level :: levels ∧ level.opened = .plain

/-- The groups that have been opened since `base` was left. -/
def Since (base st : Reading) (g : Nat) : Prop := base.groups < g ∧ g ≤ st.groups

/-- A place inside the innermost group of `base`, at which the groups `own` are open besides those of
`base`: whatever has been read since then belongs to groups that have been opened since then. -/
structure Inside (base st : Reading) (own : List Level) : Prop where
  levels : st.levels = own ++ base.levels
  groups : base.groups ≤ st.groups
  names : ∀ name g, base.names.lookup name = some g → st.names.lookup name = some g
  owned : ∀ level ∈ own, ∀ g ∈ level.opens, base.Since st g
  items : ∀ item ∈ st.items, ∀ g ∈ piecesOpen item.pieces, base.Since st g
  branches : ∀ branch ∈ st.branches, ∀ g ∈ piecesOpen branch, base.Since st g

variable {base st st' : Reading} {own : List Level}

theorem Inside.pieces (h : base.Inside st own) : ∀ g ∈ piecesOpen st.pieces, base.Since st g := by
  intro g hg
  obtain ⟨piece, hpiece, hg⟩ := List.mem_flatMap.mp hg
  obtain ⟨item, hitem, hpiece⟩ := List.mem_flatMap.mp hpiece
  exact h.items item (List.mem_reverse.mp hitem) g (List.mem_flatMap.mpr ⟨piece, hpiece, hg⟩)

theorem Inside.contents (h : base.Inside st own) : ∀ g ∈ piecesOpen st.contents, base.Since st g := by
  intro g hg
  obtain ⟨branch, hbranch, hg⟩ := piecesOpen_piecesOfBranches hg
  rw [List.mem_reverse, List.mem_cons] at hbranch
  rcases hbranch with rfl | hbranch
  · exact h.pieces g hg
  · exact h.branches branch hbranch g hg

/-- Something is added to the sequence. -/
theorem Inside.push (h : base.Inside st own) {item : Item}
    (hitem : ∀ g ∈ piecesOpen item.pieces, base.Since st g) : base.Inside (st.push item) own :=
  ⟨h.levels, h.groups, h.names, h.owned, List.forall_mem_cons.mpr ⟨hitem, h.items⟩, h.branches⟩

theorem Inside.pushNode (h : base.Inside st own) {node : Node}
    (hnode : ∀ g ∈ node.opens, base.Since st g) : base.Inside (st.pushNode node) own :=
  h.push fun g hg => hnode g (by simpa [piecesOpen] using hg)

/-- More groups are opened, and new names are given. -/
theorem Inside.grow (h : base.Inside st own) {groups : Nat} (hgroups : st.groups ≤ groups)
    (names : List (List Char × Nat)) (hnames : ∀ entry ∈ names, st.names.lookup entry.1 = none) :
    base.Inside { st with groups, names := names ++ st.names } own := by
  have hsince : ∀ g, base.Since st g → base.Since { st with groups, names := names ++ st.names } g :=
    fun g hg => ⟨hg.1, Nat.le_trans hg.2 hgroups⟩
  refine ⟨h.levels, Nat.le_trans h.groups hgroups, ?_, ?_, ?_, ?_⟩
  · intro name g hg
    have hold := h.names name g hg
    have hnone : names.lookup name = none := by
      rw [List.lookup_eq_none_iff]
      intro entry hentry
      rw [bne_iff_ne]
      rintro rfl
      rw [hnames entry hentry] at hold
      cases hold
    show (names ++ st.names).lookup name = some g
    rw [List.lookup_append, hnone, hold]
    rfl
  · exact fun level hlevel g hg => hsince g (h.owned level hlevel g hg)
  · exact fun item hitem g hg => hsince g (h.items item hitem g hg)
  · exact fun branch hbranch g hg => hsince g (h.branches branch hbranch g hg)

/-- A group is opened. -/
theorem Inside.openLevel (h : base.Inside st own) (opened : Opened) (scope : Scope)
    (hopened : ∀ g ∈ opened.opens, base.Since st g) :
    ∃ own', base.Inside (st.openLevel opened scope) own' := by
  refine ⟨_ :: own, congrArg _ h.levels, h.groups, h.names, ?_, ?_, ?_⟩
  · intro level hlevel g hg
    rcases List.mem_cons.mp hlevel with rfl | hlevel
    · simp only [Level.opens, List.mem_append, List.mem_flatMap] at hg
      rcases hg with (hg | ⟨item, hitem, hg⟩) | ⟨branch, hbranch, hg⟩
      · exact hopened g hg
      · exact h.items item hitem g hg
      · exact h.branches branch hbranch g hg
    · exact h.owned level hlevel g hg
  · intro item hitem; cases hitem
  · intro branch hbranch; cases hbranch

/-- The innermost group is closed, and is not that of the base. -/
theorem Inside.closeLevel {level : Level} (h : base.Inside st (level :: own))
    (hclose : st.closeLevel = .ok st') : base.Inside st' own := by
  obtain ⟨level', levels, item, hlevels, ⟨hlevels', -, hitems, hbranches, hgroups, hnames⟩, hopens⟩ :=
    closeLevel_eq_ok hclose
  obtain ⟨rfl, rfl⟩ := List.cons.inj (h.levels.symm.trans hlevels)
  have hsince : ∀ g, base.Since st g → base.Since st' g := fun g hg => ⟨hg.1, hgroups ▸ hg.2⟩
  have hlevel := h.owned level List.mem_cons_self
  simp only [Level.opens, List.mem_append, List.mem_flatMap] at hlevel
  refine ⟨hlevels', hgroups ▸ h.groups, hnames ▸ h.names, ?_, ?_, ?_⟩
  · exact fun outer houter g hg =>
      hsince g (h.owned outer (List.mem_cons_of_mem _ houter) g hg)
  · rw [hitems]
    refine List.forall_mem_cons.mpr ⟨fun g hg => hsince g ?_, fun before hbefore g hg => ?_⟩
    · rcases hopens g hg with hg | hg
      · exact h.contents g hg
      · exact hlevel g (Or.inl (Or.inl hg))
    · exact hsince g (hlevel g (Or.inl (Or.inr ⟨before, hbefore, hg⟩)))
  · rw [hbranches]
    exact fun branch hbranch g hg => hsince g (hlevel g (Or.inr ⟨branch, hbranch, hg⟩))

/-- A further alternative begins. -/
theorem Inside.nextBranch (h : base.Inside st own)
    (hplain : base.InPlain)
    (hnext : st.nextBranch = .ok st') : ∃ own', base.Inside st' own' := by
  rcases nextBranch_eq_ok hnext with ⟨group, level, levels, hlevels, hgiven, rfl⟩ | rfl
  · cases own with
    | nil =>
        -- the innermost group of the base is no condition
        obtain ⟨level', levels', hbase, hopened⟩ := hplain
        obtain ⟨rfl, -⟩ := List.cons.inj ((hbase.symm.trans h.levels.symm).trans hlevels)
        rw [hgiven] at hopened
        cases hopened
    | cons level' own =>
        obtain ⟨rfl, rfl⟩ := List.cons.inj (h.levels.symm.trans hlevels)
        have howned := List.forall_mem_cons.mp h.owned
        refine ⟨_ :: own, rfl, h.groups, h.names, List.forall_mem_cons.mpr ⟨?_, howned.2⟩,
          fun item hitem => (by cases hitem), h.branches⟩
        intro g hg
        simp only [Level.opens, List.append_assoc, List.mem_append] at hg
        rcases hg with hg | hg
        · rw [Opened.opens, opens_nodeOfPieces] at hg
          exact h.pieces g hg
        · refine howned.1 g ?_
          simp only [Level.opens, List.append_assoc, List.mem_append]
          exact Or.inr hg
  · exact ⟨own, h.levels, h.groups, h.names, h.owned, fun item hitem => (by cases hitem),
      List.forall_mem_cons.mpr ⟨h.pieces, h.branches⟩⟩

/-- **What a construct adds inside a group belongs to groups that it opens itself**, as long as it
does not close the group. -/
theorem Inside.perform {construct : Construct} (h : base.Inside st own)
    (hplain : base.InPlain)
    (hsound : construct.IsSound) (hdepth : construct = .close → own ≠ [])
    (hperform : st.perform construct = .ok st') : ∃ own', base.Inside st' own' := by
  cases construct with
  | skip => injection hperform with hst; subst hst; exact ⟨own, h⟩
  | atom node =>
      injection hperform with hst
      subst hst
      have hnone : node.opens = [] := Node.opens_of_isLeaf hsound
      exact ⟨own, h.pushNode (by simp [hnone])⟩
  | refer group =>
      rw [refer_eq_ok hperform]
      exact ⟨own, h.pushNode (by simp [Node.opens])⟩
  | referTo name =>
      rw [Reading.perform] at hperform
      split at hperform
      · rw [refer_eq_ok hperform]
        exact ⟨own, h.pushNode (by simp [Node.opens])⟩
      · cases hperform
  | repetition greed least most =>
      obtain ⟨item, before, hitems, -, rfl⟩ := repeatLast_eq_ok hperform
      have hold := List.forall_mem_cons.mp (hitems ▸ h.items)
      refine ⟨own, h.levels, h.groups, h.names, h.owned, List.forall_mem_cons.mpr ⟨?_, hold.2⟩,
        h.branches⟩
      intro g hg
      refine hold.1 g ?_
      rwa [piecesOpen, List.flatMap_singleton, Node.opens, opens_nodeOfPieces] at hg
  | plainGroup => injection hperform with hst; subst hst; exact h.openLevel _ _ (by simp [Opened.opens])
  | flagGroup add del =>
      injection hperform with hst; subst hst; exact h.openLevel _ _ (by simp [Opened.opens])
  | captureGroup name =>
      -- the new group is counted and named before it is opened
      obtain ⟨hfresh, rfl⟩ := openCapture_eq_ok hperform
      have hgrown := h.grow (Nat.le_succ st.groups)
        (name.map fun n => (n, st.groups + 1)).toList (by
          intro entry hentry
          obtain ⟨n, hn, rfl⟩ := Option.map_eq_some_iff.mp (Option.mem_toList.mp hentry)
          exact hfresh n hn)
      refine hgrown.openLevel (.capture (st.groups + 1)) st.scope ?_
      intro g hg
      rw [List.mem_singleton.mp hg]
      exact ⟨Nat.lt_succ_of_le h.groups, Nat.le_refl _⟩
  | atomicGroup =>
      injection hperform with hst; subst hst; exact h.openLevel _ _ (by simp [Opened.opens])
  | lookAhead negated =>
      injection hperform with hst; subst hst; exact h.openLevel _ _ (by simp [Opened.opens])
  | lookBehind negated =>
      injection hperform with hst
      subst hst
      obtain ⟨own', h'⟩ := h.openLevel (.behind negated st.behindLimit.isNone) st.scope
        (by simp [Opened.opens])
      exact ⟨own', { h' with }⟩
  | condition name =>
      obtain ⟨group, asked, rfl⟩ := openGiven_eq_ok hperform
      obtain ⟨own', h'⟩ := h.openLevel (.given group) st.scope (by simp [Opened.opens])
      exact ⟨own', { h' with }⟩
  | close =>
      obtain ⟨level, own, rfl⟩ := List.exists_cons_of_ne_nil (hdepth rfl)
      exact ⟨own, h.closeLevel hperform⟩
  | branch => exact h.nextBranch hplain hperform
  | flags add =>
      obtain ⟨level, levels, hbase, -⟩ := hplain
      have hnone := (setFlags_eq_ok hperform).1
      rw [h.levels, hbase] at hnone
      exact absurd hnone (by simp)

/-- **A text that is a pattern on its own stays inside the group that it is put into.** -/
theorem Leads.inside {n fuel : Nat} {alone alone' final : Reading} {symbols more : List Symbol}
    (hleads : Leads n alone symbols alone' []) (hclosed : alone'.levels = [])
    (hbottom : alone.scopes.getLast? = some {})
    (hplain : base.InPlain)
    (hinside : base.Inside st own)
    (hscopes : st.scopes = alone.scopes ++ base.levels.map Level.scope)
    (hrun : Reading.run fuel st (symbols ++ closing :: more) = .ok final) :
    ∃ fuel' st', Reading.run fuel' st' (closing :: more) = .ok final ∧ base.Inside st' [] := by
  have hnonempty : base.levels.map Level.scope ≠ [] := by
    obtain ⟨level, levels, hbase, -⟩ := hplain
    simp [hbase]
  -- the flags around both places tell how many groups of the text are open
  have hdepth : ∀ {a b : Reading} {own : List Level}, base.Inside b own →
      b.scopes = a.scopes ++ base.levels.map Level.scope → own.length = a.levels.length := by
    intro a b own hin hsc
    have hlen := congrArg List.length hsc
    simp only [scopes, hin.levels, List.length_cons, List.length_map, List.length_append] at hlen
    omega
  generalize hsymbols : ([] : List Symbol) = symbols' at hleads
  induction hleads generalizing st own fuel with
  | refl alone symbols =>
      subst hsymbols
      have hown : own = [] := List.length_eq_zero_iff.mp (by rw [hdepth hinside hscopes, hclosed]; rfl)
      subst hown
      exact ⟨fuel, st, hrun, hinside⟩
  | @step n alone alone₁ alone' s rest rest₁ symbols' first later ih =>
      obtain ⟨construct, hread, hperform⟩ := step_eq_ok.mp first
      have hscope : st.scope = alone.scope := List.head_eq_of_cons_eq hscopes
      rcases readConstruct_append more hread with ⟨hverbose, hcomment⟩ | hread'
      · -- a comment to the end of the text: nothing follows, but flags of a group are in force
        injection hcomment with hskip hrest
        subst hskip hrest
        cases later
        injection hperform with hsame
        subst hsame
        rw [scopes, hclosed] at hbottom
        obtain hbottom : alone.scope = {} := Option.some.inj hbottom
        rw [hbottom] at hverbose
        cases hverbose
      · cases fuel with
        | zero => cases hrun
        | succ fuel =>
            rw [List.cons_append, Reading.run] at hrun
            obtain ⟨⟨st₁, rest₂⟩, hstep₁, hrun⟩ := bind_eq_ok.mp hrun
            obtain ⟨construct', hread₁, hperform₁⟩ := step_eq_ok.mp hstep₁
            rw [hscope, hread'] at hread₁
            injection hread₁ with hread₁
            obtain ⟨rfl, rfl⟩ := Prod.mk.inj hread₁
            -- the flags around the group are out of reach of a construct that can stand on its own
            have hown' := perform_scopes hperform
            have hall' := perform_scopes hperform₁
            rw [hscopes] at hall'
            obtain ⟨hscopes', hlast⟩ := Construct.rescope_append hnonempty hown' hall'
            have hclose : construct = .close → own ≠ [] := by
              rintro rfl rfl
              have hlevels := hdepth hinside hscopes
              rw [Reading.perform, closeLevel, List.length_eq_zero_iff.mp hlevels.symm] at hperform
              cases hperform
            obtain ⟨own₁, hinside₁⟩ := hinside.perform hplain
              (readConstruct_isSound hread) hclose hperform₁
            exact ih hclosed (hlast.trans hbottom) hinside₁ hscopes' hrun hsymbols

end Reading

end LintRunner.Regex
