import LintRunner.Proofs.Regex.Fragment
import LintRunner.Proofs.Regex.Language

/-!
# Regular patterns inside a group

A pattern is written regularly if it consists of characters, sets, alternatives, groups that do not
capture, and repetitions that may give back. Such a pattern has a regular tree
(`Pattern.read_simple`), and inside a group it is read exactly as on its own
(`Reading.leads_atop`): no part of it depends on what stands around it.
-/

set_option autoImplicit false

namespace LintRunner.Regex

/-! ## Regular texts -/

/-- Characters, sets, alternatives, plain groups and repetitions that may give back. -/
def Construct.isRegular : Construct → Bool
  | .skip | .plainGroup | .close | .branch => true
  | .atom node => node.isRegular
  | .repetition greed _ _ => greed != .possessive
  | _ => false

/-- Whether all constructs of a text are regular. The first argument bounds their number. -/
def regularFrom : Nat → List Symbol → Bool
  | _, [] => true
  | 0, _ => false
  | fuel + 1, s :: rest =>
      match readConstruct {} s rest with
      | .ok (construct, rest') => construct.isRegular && regularFrom fuel rest'
      | .error _ => false

def isRegularText (cs : List Char) : Bool :=
  match Symbol.ofText? cs with
  | some symbols => regularFrom symbols.length symbols
  | none => false

/-! ## Regular trees -/

/-- A regular node without groups that capture. -/
structure Node.Simple (n : Node) : Prop where
  regular : n.isRegular = true
  opens : n.opens = []

def SimplePieces (pieces : List Piece) : Prop := ∀ piece ∈ pieces, piece.node.Simple

theorem simple_ofList {nodes : List Node} (h : ∀ node ∈ nodes, node.Simple) :
    (Node.ofList nodes).Simple := by
  refine ⟨?_, by rw [opens_ofList, List.flatMap_eq_nil_iff]; exact fun node hnode => (h node hnode).opens⟩
  induction nodes with
  | nil => rfl
  | cons node nodes ih =>
      rw [List.forall_mem_cons] at h
      show (node.isRegular && (Node.ofList nodes).isRegular) = true
      rw [h.1.regular, ih h.2]
      rfl

theorem SimplePieces.node {pieces : List Piece} (h : SimplePieces pieces) :
    (nodeOfPieces pieces).Simple :=
  simple_ofList (List.forall_mem_map.mpr h)

theorem simple_ofAlternatives {nodes : List Node} (h : ∀ node ∈ nodes, node.Simple) :
    (Node.ofAlternatives nodes).Simple := by
  refine ⟨?_, by
    rw [opens_ofAlternatives, List.flatMap_eq_nil_iff]; exact fun node hnode => (h node hnode).opens⟩
  fun_induction Node.ofAlternatives nodes with
  | case1 => rfl
  | case2 node => exact (h node (List.mem_singleton_self node)).regular
  | case3 node rest hrest ih =>
      rw [List.forall_mem_cons] at h
      show (node.isRegular && (Node.ofAlternatives rest).isRegular) = true
      rw [h.1.regular, ih h.2]
      rfl

theorem simple_factorHeads (n : Nat) {branches : List (List Piece)}
    (h : ∀ branch ∈ branches, SimplePieces branch) :
    SimplePieces (factorHeads n branches).1
      ∧ ∀ branch ∈ (factorHeads n branches).2, SimplePieces branch := by
  induction n generalizing branches with
  | zero => exact ⟨fun piece hpiece => (by cases hpiece), h⟩
  | succ n ih =>
      rw [factorHeads]
      cases hhead : commonHead? branches with
      | none => exact ⟨fun piece hpiece => (by cases hpiece), h⟩
      | some head =>
          obtain ⟨-, hne, hcommon⟩ := commonHead?_eq_some hhead
          obtain ⟨branch, hbranch⟩ := List.exists_mem_of_ne_nil branches hne
          have hmem : head ∈ branch := by
            rw [hcommon branch hbranch]
            exact List.mem_cons_self
          have htails : ∀ branch ∈ branches.map List.tail, SimplePieces branch := by
            intro tail htail
            obtain ⟨branch, hbranch, rfl⟩ := List.mem_map.mp htail
            exact fun piece hpiece => h branch hbranch piece (List.mem_of_mem_tail hpiece)
          obtain ⟨hheads, hrest⟩ := ih htails
          exact ⟨List.forall_mem_cons.mpr ⟨h branch hbranch head hmem, hheads⟩, hrest⟩

theorem simple_piecesOfBranches {branches : List (List Piece)}
    (h : ∀ branch ∈ branches, SimplePieces branch) : SimplePieces (piecesOfBranches branches) := by
  rw [piecesOfBranches.eq_def]
  split
  · exact fun piece hpiece => (by cases hpiece)
  · exact h _ (List.mem_singleton_self _)
  · obtain ⟨hheads, hrest⟩ := simple_factorHeads ((branches.map List.length).foldl max 0) h
    simp only
    split
    · exact List.forall_mem_append.mpr ⟨hheads, List.forall_mem_singleton.mpr ⟨rfl, rfl⟩⟩
    · refine List.forall_mem_append.mpr ⟨hheads, ?_⟩
      rw [List.forall_mem_singleton]
      exact simple_ofAlternatives (List.forall_mem_map.mpr fun branch hbranch => (hrest branch hbranch).node)

namespace Reading

/-- A place in a regular text: plain groups are open, no flags are set, and all that has been read is
simple. -/
structure Regular (st : Reading) : Prop where
  scope : st.scope = {}
  items : ∀ item ∈ st.items, SimplePieces item.pieces
  branches : ∀ branch ∈ st.branches, SimplePieces branch
  levels : ∀ level ∈ st.levels, level.opened = .plain ∧ level.scope = {}
    ∧ (∀ item ∈ level.items, SimplePieces item.pieces)
    ∧ ∀ branch ∈ level.branches, SimplePieces branch

variable {st st' : Reading}

theorem Regular.pieces (h : st.Regular) : SimplePieces st.pieces := by
  intro piece hpiece
  obtain ⟨item, hitem, hpiece⟩ := List.mem_flatMap.mp hpiece
  exact h.items item (List.mem_reverse.mp hitem) piece hpiece

theorem Regular.contents (h : st.Regular) : SimplePieces st.contents := by
  refine simple_piecesOfBranches fun branch hbranch => ?_
  rw [List.mem_reverse, List.mem_cons] at hbranch
  rcases hbranch with rfl | hbranch
  · exact h.pieces
  · exact h.branches branch hbranch

/-- A state that stands inside a group of another one: its own groups are open besides those of the
other, and all else is left as it was there. -/
def atop (st base : Reading) : Reading :=
  { base with
    levels := st.levels ++ base.levels
    items := st.items
    branches := st.branches
    scope := st.scope }

/-- The next alternative of a group that is no condition, or of the whole pattern. -/
theorem nextBranch_of_unconditional (h : ∀ level ∈ st.levels.head?,
      (∀ group, level.opened ≠ .given group) ∧ ∀ group yes, level.opened ≠ .otherwise group yes) :
    st.nextBranch = .ok { st with branches := st.pieces :: st.branches, items := [] } := by
  rw [nextBranch]
  split
  · rename_i hlevels
    rw [hlevels] at h
    exact absurd rfl ((h _ rfl).1 _)
  · rename_i hlevels
    rw [hlevels] at h
    exact absurd rfl ((h _ rfl).2 _ _)
  · rfl

/-- The next alternative of a plain group, or of the whole pattern. -/
theorem nextBranch_plain (h : ∀ level ∈ st.levels.head?, level.opened = .plain) :
    st.nextBranch = .ok { st with branches := st.pieces :: st.branches, items := [] } := by
  refine nextBranch_of_unconditional fun level hlevel => ?_
  rw [h level hlevel]
  exact ⟨nofun, nofun⟩

/-- **A regular construct does the same on its own and inside a group**, and what it adds is simple. -/
theorem Regular.perform {base : Reading} {construct : Construct} (h : st.Regular)
    (hregular : construct.isRegular = true) (hsound : construct.IsSound)
    (hplain : base.InPlain)
    (hperform : st.perform construct = .ok st') :
    st'.Regular ∧ (st.atop base).perform construct = .ok (st'.atop base) := by
  cases construct with
  | skip => injection hperform with hst; subst hst; exact ⟨h, rfl⟩
  | atom node =>
      injection hperform with hst
      subst hst
      refine ⟨⟨h.scope, List.forall_mem_cons.mpr ⟨?_, h.items⟩, h.branches, h.levels⟩, rfl⟩
      exact List.forall_mem_singleton.mpr ⟨hregular, Node.opens_of_isLeaf hsound⟩
  | repetition greed least most =>
      obtain ⟨item, before, hitems, hfinal, rfl⟩ := repeatLast_eq_ok hperform
      have hold := List.forall_mem_cons.mp (hitems ▸ h.items)
      have hbody := SimplePieces.node hold.1
      have hnode : (Node.times greed least most (nodeOfPieces item.pieces)).Simple := by
        refine ⟨?_, hbody.opens⟩
        rw [Node.isRegular, hbody.regular, show (greed != .possessive) = true from hregular,
          show most.all (least ≤ ·) = true from hsound]
        rfl
      refine ⟨⟨h.scope, List.forall_mem_cons.mpr ⟨List.forall_mem_singleton.mpr hnode, hold.2⟩,
        h.branches, h.levels⟩, ?_⟩
      -- repetitions are at fault only under a flag that regular texts do not set
      have hallowed : st.scope.unrepeated = false := by rw [h.scope]
      show repeatLast (st.atop base) greed least most = _
      simp only [repeatLast, atop, hitems, hfinal, hallowed, Bool.or_false]
      rfl
  | plainGroup =>
      injection hperform with hst
      subst hst
      refine ⟨⟨h.scope, fun item hitem => (by cases hitem), fun branch hbranch => (by cases hbranch),
        List.forall_mem_cons.mpr ⟨⟨rfl, h.scope, h.items, h.branches⟩, h.levels⟩⟩, rfl⟩
  | close =>
      obtain ⟨⟨opened, items, branches, scope⟩, levels, item, hlevels, -⟩ := closeLevel_eq_ok hperform
      obtain ⟨⟨hopened, hscope, hitems, hbranches⟩, hrest⟩ := List.forall_mem_cons.mp (hlevels ▸ h.levels)
      obtain rfl : opened = .plain := hopened
      have hclose := closeLevel_plain hlevels
      have hlevels' : (st.atop base).levels = ⟨.plain, items, branches, scope⟩ :: (levels ++ base.levels) := by
        show st.levels ++ base.levels = _
        rw [hlevels]
        rfl
      have hatop := closeLevel_plain hlevels'
      obtain rfl := Except.ok.inj (hclose.symm.trans hperform)
      exact ⟨⟨hscope, List.forall_mem_cons.mpr ⟨h.contents, hitems⟩, hbranches, hrest⟩, hatop⟩
  | branch =>
      have hown : ∀ level ∈ st.levels.head?, level.opened = .plain :=
        fun level hlevel => (h.levels level (List.mem_of_mem_head? hlevel)).1
      have hatop : ∀ level ∈ (st.atop base).levels.head?, level.opened = .plain := by
        obtain ⟨level, levels, hbase, hopened⟩ := hplain
        intro level' hlevel'
        -- the innermost group is one of the text, or that of the base
        cases hlevels : st.levels with
        | nil =>
            rw [show (st.atop base).levels = st.levels ++ base.levels from rfl, hlevels, hbase] at hlevel'
            obtain rfl := Option.some.inj hlevel'
            exact hopened
        | cons own owns =>
            rw [show (st.atop base).levels = st.levels ++ base.levels from rfl, hlevels] at hlevel'
            exact hown level' (by rw [hlevels]; exact hlevel')
      obtain rfl := Except.ok.inj ((nextBranch_plain hown).symm.trans hperform)
      exact ⟨⟨h.scope, fun item hitem => (by cases hitem),
        List.forall_mem_cons.mpr ⟨h.pieces, h.branches⟩, h.levels⟩, nextBranch_plain hatop⟩
  | refer | referTo | flagGroup | captureGroup | atomicGroup | lookAhead | lookBehind | condition
    | flags => cases hregular

/-- **A regular text that can be read on its own is read in the same way inside a group.** -/
theorem leads_atop {base : Reading} {n fuel : Nat} {symbols : List Symbol} (h : st.Regular)
    (hleads : Leads n st symbols st' []) (hregular : regularFrom fuel symbols = true)
    (hplain : base.InPlain)
    (more : List Symbol) :
    st'.Regular ∧ Leads n (st.atop base) (symbols ++ closing :: more) (st'.atop base) (closing :: more) := by
  generalize hsymbols : ([] : List Symbol) = symbols' at hleads
  induction hleads generalizing fuel with
  | refl st symbols =>
      subst hsymbols
      exact ⟨h, .refl _ _⟩
  | @step n st st₁ st' s rest rest₁ symbols' first later ih =>
      obtain ⟨construct, hread, hperform⟩ := step_eq_ok.mp first
      rw [h.scope] at hread
      cases fuel with
      | zero => cases hregular
      | succ fuel =>
          rw [regularFrom, hread] at hregular
          obtain ⟨hconstruct, hlater⟩ := (Bool.and_eq_true _ _).mp hregular
          -- without flags there are no comments, so that the construct ends where it ended before
          have hmore : readConstruct {} s (rest ++ closing :: more)
              = .ok (construct, rest₁ ++ closing :: more) := by
            rcases readConstruct_append more hread with ⟨hverbose, -⟩ | hmore
            · cases hverbose
            · exact hmore
          obtain ⟨h₁, hatop⟩ := h.perform hconstruct (readConstruct_isSound hread) hplain hperform
          obtain ⟨h', hleads'⟩ := ih h₁ hlater hsymbols
          have hscope : (st.atop base).scope = {} := h.scope
          rw [List.cons_append]
          exact ⟨h', .step (step_eq_ok.mpr ⟨construct, hscope ▸ hmore, hatop⟩) hleads'⟩

/-- Before anything has been read. -/
theorem regular_start : Regular {} :=
  ⟨rfl, fun item hitem => (by cases hitem), fun branch hbranch => (by cases hbranch),
    fun level hlevel => (by cases hlevel)⟩

end Reading

/-! ## Whole patterns -/

/-- How a pattern has been read. -/
theorem Pattern.read_eq_ok {cs : List Char} {pattern : Pattern} (h : Pattern.read cs = .ok pattern) :
    ∃ n symbols st, Symbol.ofText? cs = some symbols ∧ n ≤ symbols.length
      ∧ Reading.Leads n {} symbols st [] ∧ st.levels = []
      ∧ pattern = { node := nodeOfPieces st.contents, names := st.names } := by
  rw [Pattern.read] at h
  obtain ⟨symbols, hsymbols, h⟩ := bind_eq_ok.mp h
  obtain ⟨st, hrun, hfinish⟩ := bind_eq_ok.mp h
  obtain ⟨n, hn, hleads⟩ := Reading.leads_of_run hrun
  rw [Reading.finish] at hfinish
  split at hfinish
  · cases hfinish
  · rename_i hdone
    simp only [Bool.or_eq_true, not_or, Bool.not_eq_true, Bool.not_eq_false', List.isEmpty_iff] at hdone
    exact ⟨n, symbols, st, map_orMalformed hsymbols, hn, hleads, hdone.1.1, (Except.ok.inj hfinish).symm⟩

/-- **A pattern that is written regularly has a regular tree**, and inside a group it is taken as that
tree. -/
theorem Pattern.read_simple {cs : List Char} {pattern : Pattern}
    (h : Pattern.read cs = .ok pattern) (hregular : isRegularText cs = true) :
    pattern.node.Simple ∧ ∃ pieces, pattern.node = nodeOfPieces pieces ∧
      ∀ st : Reading, st.scope = {} →
        st.Takes ("(?:".toList ++ cs ++ [')']) (st.push { pieces, isGroup := true }) := by
  obtain ⟨n, symbols, alone, hsymbols, hn, hleads, hlevels, rfl⟩ := read_eq_ok h
  rw [isRegularText, hsymbols] at hregular
  have hatop : ∀ (st : Reading) (more : List Symbol), st.scope = {} → alone.Regular ∧
      Reading.Leads n (st.openLevel .plain st.scope) (symbols ++ closing :: more)
        (alone.atop (st.openLevel .plain st.scope)) (closing :: more) := by
    intro st more hscope
    have hstart : Reading.atop {} (st.openLevel .plain st.scope) = st.openLevel .plain st.scope := by
      rw [hscope]
      rfl
    rw [← hstart]
    exact Reading.leads_atop Reading.regular_start hleads hregular ⟨_, _, rfl, rfl⟩ more
  refine ⟨(hatop {} [] rfl).1.contents.node, alone.contents, rfl, fun st hscope => ?_⟩
  have hopen : Symbol.ofText? "(?:".toList = some (Symbol.plain "(?:".toList) := rfl
  -- one construct each for the two parentheses
  refine ⟨1 + n + 1, Symbol.plain "(?:".toList ++ symbols ++ [closing], ?_, ?_, fun rest _ => ?_⟩
  · rw [List.append_assoc, Symbol.ofText?_append hopen, Symbol.ofText?_append hsymbols,
      List.append_assoc]
    rfl
  · simp only [List.length_append, Symbol.plain, List.length_map, List.length_singleton]
    show 1 + n + 1 ≤ 3 + symbols.length + 1
    omega
  · rw [List.append_assoc, List.append_assoc]
    have hlevels' : (alone.atop (st.openLevel .plain st.scope)).levels
        = ⟨.plain, st.items, st.branches, st.scope⟩ :: st.levels := by
      show alone.levels ++ _ = _
      rw [hlevels]
      rfl
    exact ((Reading.leads_plain hscope _).trans (hatop st rest hscope).2).trans
      (Reading.leads_close (Reading.closeLevel_plain hlevels') rest)

end LintRunner.Regex
