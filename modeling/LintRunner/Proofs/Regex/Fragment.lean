import LintRunner.Proofs.Regex.Nesting

/-!
# Fragments of a pattern

`Reading.Takes st source st'` says that the reader takes the text `source` in front of any text that does
not begin with a sign that would change how the last repetition of `source` chooses, and that this
brings it from `st` to `st'`. Fragments are put together by `Takes.append`; a text that is taken from the
beginning is a pattern (`Takes.read`).
-/

set_option autoImplicit false

namespace LintRunner.Regex

open LintRunner.Text

/-! ## Signs behind a repetition -/

/-- A text that does not begin with a sign that says how a repetition chooses. -/
def Settled (rest : List Symbol) : Prop :=
  Symbol.dropPlain? '?' rest = none ∧ Symbol.dropPlain? '+' rest = none

theorem settled_nil : Settled [] := ⟨rfl, rfl⟩

theorem settled_cons {s : Symbol} (h : s.isPlain '?' = false) (h' : s.isPlain '+' = false)
    (rest : List Symbol) : Settled (s :: rest) :=
  ⟨by rw [Symbol.dropPlain?, h]; rfl, by rw [Symbol.dropPlain?, h']; rfl⟩

theorem settled_closing (rest : List Symbol) : Settled (closing :: rest) := settled_cons rfl rfl rest

theorem repetitionOf_settled {rest : List Symbol} (h : Settled rest) (least : Nat)
    (most : Option Nat) : repetitionOf least most rest = (.repetition .greedy least most, rest) := by
  rw [repetitionOf, readGreed, h.1, h.2]

def Unsigned (cs : List Char) : Prop := ∀ c, cs.head? = some c → c ≠ '?' ∧ c ≠ '+'

theorem unsigned_nil : Unsigned [] := fun _ h => (by cases h)

theorem unsigned_cons {c : Char} (hq : c ≠ '?') (hp : c ≠ '+') (cs : List Char) :
    Unsigned (c :: cs) := by
  rintro d ⟨⟩
  exact ⟨hq, hp⟩

theorem Unsigned.append {a b : List Char} (ha : Unsigned a) (hb : Unsigned b) : Unsigned (a ++ b) := by
  cases a with
  | nil => exact hb
  | cons c a => exact ha

theorem Unsigned.settled {cs : List Char} {symbols rest : List Symbol} (h : Unsigned cs)
    (hsymbols : Symbol.ofText? cs = some symbols) (hrest : Settled rest) :
    Settled (symbols ++ rest) := by
  fun_cases Symbol.ofText? cs with
  | case1 =>
      injection hsymbols with hsymbols
      subst hsymbols
      exact hrest
  | case2 => cases hsymbols
  | case3 c cs =>
      obtain ⟨later, -, rfl⟩ := Option.map_eq_some_iff.mp hsymbols
      exact settled_cons rfl rfl _
  | case4 c cs hlast hmore =>
      rw [Symbol.ofText?.eq_4 c cs hlast hmore] at hsymbols
      obtain ⟨later, -, rfl⟩ := Option.map_eq_some_iff.mp hsymbols
      obtain ⟨hq, hp⟩ := h c rfl
      exact settled_cons (by simpa [Symbol.isPlain] using hq) (by simpa [Symbol.isPlain] using hp) _

namespace Reading

/-! ## Taking -/

/-- The reader takes a text in front of every settled one. -/
def Takes (st : Reading) (source : List Char) (st' : Reading) : Prop :=
  ∃ n symbols, Symbol.ofText? source = some symbols ∧ n ≤ symbols.length ∧
    ∀ rest, Settled rest → Leads n st (symbols ++ rest) st' rest

variable {st st₁ st' : Reading} {source source' : List Char}

theorem Takes.nil (st : Reading) : st.Takes [] st := ⟨0, [], rfl, Nat.le_refl 0, fun _ _ => .refl _ _⟩

theorem Takes.append (h : st.Takes source st₁) (h' : st₁.Takes source' st')
    (hunsigned : Unsigned source') : st.Takes (source ++ source') st' := by
  obtain ⟨n, symbols, hsymbols, hn, hleads⟩ := h
  obtain ⟨n', symbols', hsymbols', hn', hleads'⟩ := h'
  refine ⟨n + n', symbols ++ symbols', ?_, ?_, fun rest hrest => ?_⟩
  · rw [Symbol.ofText?_append hsymbols, hsymbols']
    rfl
  · rw [List.length_append]; omega
  · rw [List.append_assoc]
    exact (hleads _ (hunsigned.settled hsymbols' hrest)).trans (hleads' rest hrest)

/-- A text that is taken from the beginning is read as the pattern that the reader has finished. -/
theorem Takes.read (h : Takes {} source st') : Pattern.read source = st'.finish := by
  obtain ⟨n, symbols, hsymbols, hn, hleads⟩ := h
  have hrun : run n {} symbols = .ok st' := by
    have hend := hleads [] settled_nil
    rw [List.append_nil] at hend
    exact run_of_leads hend (show run 0 st' [] = .ok st' from rfl)
  -- no more constructs than symbols, so that the fuel of the reader is enough
  have hmore := run_add hrun (symbols.length - n)
  rw [Nat.add_sub_of_le hn] at hmore
  rw [Pattern.read, hsymbols]
  show (run symbols.length {} symbols >>= finish) = _
  rw [hmore]
  rfl

/-- A node that is one construct, with the symbols that belong to it. -/
theorem Takes.node {s : Symbol} {symbols : List Symbol} {node : Node} (hscope : st.scope = {})
    (hsymbols : Symbol.ofText? source = some (s :: symbols))
    (hread : ∀ rest, readConstruct {} s (symbols ++ rest) = .ok (.atom node, rest)) :
    st.Takes source (st.pushNode node) :=
  ⟨1, s :: symbols, hsymbols, Nat.succ_le_succ (Nat.zero_le _),
    fun rest _ => .single (hscope ▸ hread rest) rfl⟩

/-! ## Sequences of nodes -/

def pushNodes (st : Reading) (nodes : List Node) : Reading := nodes.foldl pushNode st

theorem pieces_push (st : Reading) (item : Item) : (st.push item).pieces = st.pieces ++ item.pieces := by
  simp [pieces, push]

theorem pushNodes_eq (st : Reading) (nodes : List Node) : st.pushNodes nodes =
    { st with items := nodes.reverse.map (fun node => { pieces := [{ node }] }) ++ st.items } := by
  induction nodes generalizing st with
  | nil => rfl
  | cons node nodes ih =>
      rw [pushNodes, List.foldl_cons, ← pushNodes, ih, List.reverse_cons, List.map_append,
        List.append_assoc]
      rfl

theorem pieces_pushNodes (st : Reading) (nodes : List Node) :
    (st.pushNodes nodes).pieces = st.pieces ++ nodes.map fun node => ({ node } : Piece) := by
  induction nodes generalizing st with
  | nil => simp [pushNodes]
  | cons node nodes ih =>
      rw [pushNodes, List.foldl_cons, ← pushNodes, ih, pushNode, pieces_push, List.append_assoc]
      rfl

/-- A node that is repeated as often as possible. -/
theorem Takes.repeated {s : Symbol} {symbols : List Symbol} {sign : Char} {node : Node}
    {least : Nat} {most : Option Nat} (hscope : st.scope = {})
    (hsymbols : Symbol.ofText? source = some (s :: symbols)) (hslash : sign ≠ '\\')
    (hread : ∀ rest, readConstruct {} s (symbols ++ rest) = .ok (.atom node, rest))
    (hsign : ∀ rest, Settled rest →
      readConstruct {} ⟨sign, false⟩ rest = .ok (.repetition .greedy least most, rest))
    (hnode : Item.isFinal { pieces := [{ node }] } = false) :
    st.Takes (source ++ [sign]) (st.pushNode (.times .greedy least most (.cat node .empty))) := by
  have hall : Symbol.ofText? (source ++ [sign]) = some (s :: (symbols ++ [⟨sign, false⟩])) := by
    rw [Symbol.ofText?_append hsymbols, Symbol.ofText?_cons hslash]
    rfl
  refine ⟨2, _, hall, by simp, fun rest hrest => ?_⟩
  rw [List.cons_append, List.append_assoc]
  have hrepeat : (st.pushNode node).perform (.repetition .greedy least most)
      = .ok (st.pushNode (.times .greedy least most (.cat node .empty))) := by
    show repeatLast (st.push { pieces := [{ node }] }) .greedy least most = _
    have hallowed : st.scope.unrepeated = false := by rw [hscope]
    rw [repeatLast, push]
    simp only [hnode, hallowed, Bool.or_false]
    rfl
  have hscope' : (st.pushNode node).scope = {} := hscope
  exact (Leads.single (hscope ▸ hread (⟨sign, false⟩ :: rest)) rfl).trans
    (Leads.single (hscope' ▸ hsign rest hrest) hrepeat)

/-! ## Groups -/

theorem takeUntil?_plain {terminator : Char} {cs : List Char} (h : terminator ∉ cs)
    (rest : List Symbol) :
    Symbol.takeUntil? terminator (Symbol.plain cs ++ ⟨terminator, false⟩ :: rest)
      = some (cs, rest) := by
  induction cs with
  | nil => simp [Symbol.takeUntil?, Symbol.isPlain]
  | cons c cs ih =>
      rw [List.mem_cons, not_or] at h
      have hc : (Symbol.isPlain terminator ⟨c, false⟩) = false := by
        simpa [Symbol.isPlain] using Ne.symm h.1
      rw [Symbol.plain_cons, List.cons_append, Symbol.takeUntil?, hc, ih h.2]
      rfl

def opening (st : Reading) (name : List Char) : Reading :=
  { st.openLevel (.capture (st.groups + 1)) st.scope with
    groups := st.groups + 1
    names := (name, st.groups + 1) :: st.names }

/-- What is left behind by a named group: one node more, and one group more with its name. -/
def captured (st : Reading) (name : List Char) (body : Node) : Reading :=
  { st.pushNode (.capture (st.groups + 1) body) with
    groups := st.groups + 1
    names := (name, st.groups + 1) :: st.names
    closed := (st.groups + 1, body.width st.closed) :: st.closed }

def openingSymbols (name : List Char) : List Symbol :=
  Symbol.plain ("(?P<".toList ++ name ++ ['>'])

theorem ofText?_openingSymbols {name : List Char} (hslash : '\\' ∉ name) :
    Symbol.ofText? ("(?P<".toList ++ name ++ ['>']) = some (openingSymbols name) :=
  Symbol.ofText?_plain (by simp [hslash])

/-- A parenthesis and a question mark begin a construct whatever flags are in force. -/
theorem readConstruct_extension (scope : Scope) (rest : List Symbol) :
    readConstruct scope ⟨'(', false⟩ (⟨'?', false⟩ :: rest) = orMalformed (readExtension rest) := by
  obtain ⟨ignoreCase, multiline, dotAll, verbose, ascii, unrepeated⟩ := scope
  cases verbose <;> rfl

/-- The text that begins a named group is one construct. -/
theorem readConstruct_opening {name : List Char} (scope : Scope) (hname : isIdentifier name = true)
    (hend : '>' ∉ name) (rest : List Symbol) : ∃ s symbols, openingSymbols name = s :: symbols ∧
      readConstruct scope s (symbols ++ rest) = .ok (.captureGroup (some name), rest) := by
  refine ⟨⟨'(', false⟩, Symbol.plain ("?P<".toList ++ name ++ ['>']), rfl, ?_⟩
  have htake := takeUntil?_plain hend rest
  have hsymbols : Symbol.plain ("?P<".toList ++ name ++ ['>']) ++ rest
      = ⟨'?', false⟩ :: (Symbol.plain "P<".toList ++ (Symbol.plain name ++ ⟨'>', false⟩ :: rest)) := by
    simp [Symbol.plain]
  have hextension : readExtension (Symbol.plain "P<".toList
      ++ (Symbol.plain name ++ ⟨'>', false⟩ :: rest)) = some (.captureGroup (some name), rest) := by
    simp [readExtension, Symbol.plain, Symbol.dropPlain?, Symbol.isPlain] at htake ⊢
    simp [htake, hname]
  rw [hsymbols, readConstruct_extension, hextension]
  rfl

theorem openCapture_of_fresh {name : List Char} (h : st.names.lookup name = none) :
    st.openCapture (some name) = .ok (st.opening name) := by
  rw [openCapture.eq_def]
  simp only [h]
  rfl

theorem leads_opening {name : List Char} (hscope : st.scope = {}) (hname : isIdentifier name = true)
    (hend : '>' ∉ name) (hfresh : st.names.lookup name = none) (rest : List Symbol) :
    Leads 1 st (openingSymbols name ++ rest) (st.opening name) rest := by
  obtain ⟨s, symbols, hsymbols, hread⟩ := readConstruct_opening {} hname hend rest
  rw [hsymbols]
  exact .single (hscope ▸ hread)
    (show st.perform (.captureGroup (some name)) = _ from openCapture_of_fresh hfresh)

theorem leads_close (h : st.closeLevel = .ok st') (rest : List Symbol) :
    Leads 1 st (closing :: rest) st' rest := by
  have hread : readConstruct st.scope closing rest = .ok (.close, rest) := rfl
  exact .single hread h

/-- The end of a group that captures. -/
theorem closeLevel_capture {group : Nat} {items : List Item} {branches : List (List Piece)}
    {scope : Scope} {levels : List Level}
    (hlevels : st.levels = { opened := .capture group, items, branches, scope } :: levels)
    (hbranches : st.branches = []) :
    st.closeLevel = .ok { st with
      levels, branches, scope
      items := { pieces := [{ node := .capture group (nodeOfPieces st.pieces) }] } :: items
      closed := (group, (nodeOfPieces st.pieces).width st.closed) :: st.closed } := by
  have hcontents : st.contents = st.pieces := by rw [contents, hbranches]; rfl
  simp only [closeLevel, hlevels, hcontents]
  rfl

/-- The end of a plain group. -/
theorem closeLevel_plain {items : List Item} {branches : List (List Piece)}
    {scope : Scope} {levels : List Level}
    (hlevels : st.levels = { opened := .plain, items, branches, scope } :: levels) :
    st.closeLevel = .ok { st with
      levels, branches, scope
      items := { pieces := st.contents, isGroup := true } :: items } := by
  simp only [closeLevel, hlevels]
  rfl

/-- The end of a named group in which items have been read. -/
theorem leads_closing {name : List Char} {items : List Item} (rest : List Symbol) :
    Leads 1 { st.opening name with items } (closing :: rest)
      (st.captured name (nodeOfPieces (items.reverse.flatMap Item.pieces))) rest := by
  exact leads_close (closeLevel_capture rfl rfl) rest

/-- A named group around a fragment. -/
theorem Takes.capture {name inner : List Char} {items : List Item} (hscope : st.scope = {})
    (hname : isIdentifier name = true) (hend : '>' ∉ name) (hslash : '\\' ∉ name)
    (hfresh : st.names.lookup name = none)
    (hinner : (st.opening name).Takes inner { st.opening name with items }) :
    st.Takes ("(?P<".toList ++ name ++ ['>'] ++ inner ++ [')'])
      (st.captured name (nodeOfPieces (items.reverse.flatMap Item.pieces))) := by
  obtain ⟨n, symbols, hsymbols, hn, hleads⟩ := hinner
  refine ⟨1 + n + 1, openingSymbols name ++ symbols ++ [closing], ?_, ?_, fun rest _ => ?_⟩
  · rw [List.append_assoc, Symbol.ofText?_append (ofText?_openingSymbols hslash),
      Symbol.ofText?_append hsymbols, List.append_assoc]
    rfl
  · simp only [List.length_append, openingSymbols, Symbol.plain, List.length_map, List.length_singleton]
    omega
  · rw [List.append_assoc, List.append_assoc]
    exact ((leads_opening hscope hname hend hfresh _).trans (hleads _ (settled_closing rest))).trans
      (leads_closing rest)

/-- A group may be repeated, whatever it holds. -/
theorem isFinal_group (pieces : List Piece) : Item.isFinal { pieces, isGroup := true } = false := by
  rw [Item.isFinal.eq_def]
  split
  · rename_i h; cases h
  · rename_i h; cases h
  · rfl

/-- What is left behind by an optional group around a sequence that has been read up to `st`. -/
def optional (st st' : Reading) : Reading :=
  { st' with
    levels := st.levels
    branches := st.branches
    scope := st.scope
    items := { pieces := [{ node := .times .greedy 0 (some 1) (nodeOfPieces st'.pieces) }] } :: st.items }

/-- The beginning of a plain group. -/
theorem leads_plain (hscope : st.scope = {}) (rest : List Symbol) :
    Leads 1 st (Symbol.plain "(?:".toList ++ rest) (st.openLevel .plain st.scope) rest := by
  have hread : readConstruct st.scope ⟨'(', false⟩ (Symbol.plain "?:".toList ++ rest)
      = .ok (.plainGroup, rest) := by rw [hscope]; rfl
  exact .single hread rfl

theorem takes_plain (hscope : st.scope = {}) :
    st.Takes "(?:".toList (st.openLevel .plain st.scope) :=
  ⟨1, Symbol.plain "(?:".toList, rfl, by decide, fun rest _ => leads_plain hscope rest⟩

/-- An optional group around a fragment. -/
theorem Takes.optional {inner : List Char} (hscope : st.scope = {})
    (hinner : (st.openLevel .plain st.scope).Takes inner st')
    (hlevels : st'.levels = (st.openLevel .plain st.scope).levels) (hbranches : st'.branches = []) :
    st.Takes ("(?:".toList ++ inner ++ ")?".toList) (st.optional st') := by
  obtain ⟨n, symbols, hsymbols, hn, hleads⟩ := hinner
  have hopen : Symbol.ofText? "(?:".toList = some (Symbol.plain "(?:".toList) := rfl
  refine ⟨1 + n + (1 + 1), Symbol.plain "(?:".toList ++ symbols ++ [closing, ⟨'?', false⟩], ?_, ?_,
    fun rest hrest => ?_⟩
  · rw [List.append_assoc, Symbol.ofText?_append hopen, Symbol.ofText?_append hsymbols,
      List.append_assoc]
    rfl
  · simp only [List.length_append, Symbol.plain, List.length_map, List.length_cons]
    show 1 + n + (1 + 1) ≤ 3 + symbols.length + 2
    omega
  · have hcontents : st'.contents = st'.pieces := by rw [contents, hbranches]; rfl
    have hclose : st'.closeLevel = .ok { st' with
        levels := st.levels
        branches := st.branches
        scope := st.scope
        items := { pieces := st'.pieces, isGroup := true } :: st.items } := by
      rw [closeLevel_plain hlevels, hcontents]
    have hread : ∀ scope : Scope, scope = {} →
        readConstruct scope ⟨'?', false⟩ rest = .ok (.repetition .greedy 0 (some 1), rest) := by
      rintro _ rfl
      show Except.ok (repetitionOf 0 (some 1) rest) = _
      rw [repetitionOf_settled hrest]
    -- the parenthesis makes one item of the group, which the sign behind it repeats
    have hend : Leads 2 st' (closing :: ⟨'?', false⟩ :: rest) (st.optional st') rest := by
      refine (leads_close hclose _).trans (Leads.single (hread _ hscope) ?_)
      have hallowed : st.scope.unrepeated = false := by rw [hscope]
      simp only [perform, repeatLast, isFinal_group, hallowed, Bool.or_false]
      rfl
    rw [List.append_assoc, List.append_assoc]
    exact ((leads_plain hscope _).trans (hleads _ (settled_closing _))).trans hend

end Reading

end LintRunner.Regex
