import LintRunner.Format.Matcher
import LintRunner.Proofs.Regex.Fragment
import LintRunner.Proofs.Text.Digits

/-!
# Slots

A slot is a token of a format together with the number of its group. `Slot.nodes` are the nodes that
the token contributes to the tree of the format. The reader takes the text of a token, and what it has
read is extended by the slot of the token and by nothing else (`Reading.Extends`).
-/

set_option autoImplicit false

namespace LintRunner

open Regex Text

/-! ## Nodes of tokens -/

/-- A class of characters, at least one of them and as many as possible. -/
def runOf (members : List Member) (negated : Bool) : Node :=
  .times .greedy 1 none (.cat (.set members negated .exact) .empty)

/-- Everything but space, tab, colon, line feed, carriage return, NUL, form feed and vertical tab. -/
def filenameRun : Node :=
  runOf [.code 32, .code 9, .code 58, .code 13, .code 10, .code 0, .code 12, .code 11] true

def positionRun : Node := runOf [.range 48 57] false

def messageRun : Node := runOf [.code 13, .code 10, .code 0] true

def blankRun : Node := runOf [.code 32, .code 9] false

def identifierNodes : List Node :=
  [.set [.code 64, .range 65 90, .range 97 122, .range 48 57, .code 95] false .exact,
    .times .greedy 0 none (.cat
      (.set [.range 65 90, .range 97 122, .range 48 57, .code 95, .code 46, .code 47, .code 64, .code 45]
        false .exact) .empty)]

def literalNodes (text : List Char) : List Node := text.map fun c => .code c.toNat false .exact

def codeNodes (lead : String) (group : Nat) : List Node :=
  literalNodes lead.toList ++ [.capture group (.ofList identifierNodes)]

def Token.captures : Token → Bool
  | .severityFromMessage .. | .severityFixed _ | .literal _ | .whitespace => false
  | _ => true

/-- A token with the number of its group, and for a severity that is matched by a pattern with the tree
of that pattern. -/
structure Slot where
  token : Token
  group : Nat := 0
  label : Node := .empty

namespace Slot

def body (slot : Slot) : Node :=
  match slot.token with
  | .filename => .ofList [filenameRun]
  | .line | .column => .ofList [positionRun]
  | .message _ => .ofList [messageRun]
  | .code .. => .ofList identifierNodes
  | .severityPattern .. => slot.label
  | _ => .empty

def nodes (slot : Slot) : List Node :=
  match slot.token with
  | .code lead optional =>
      let required := codeNodes lead slot.group
      if optional then [.times .greedy 0 (some 1) (.ofList required)] else required
  | .literal text => literalNodes text.toList
  | .whitespace => [blankRun]
  | .severityFromMessage .. | .severityFixed _ => []
  | _ => [.capture slot.group slot.body]

def opens (slot : Slot) : List Nat := slot.nodes.flatMap Node.opens

theorem opens_literalNodes (text : List Char) : (literalNodes text).flatMap Node.opens = [] := by
  simp [literalNodes, List.flatMap_map, Node.opens]

theorem opens_codeNodes (lead : String) (group : Nat) :
    (codeNodes lead group).flatMap Node.opens = [group] := by
  rw [codeNodes, List.flatMap_append, opens_literalNodes]
  rfl

/-- A slot opens the group of its token and those of its label. -/
theorem opens_eq (slot : Slot) :
    slot.opens = if slot.token.captures then slot.group :: slot.body.opens else [] := by
  obtain ⟨token, group, label⟩ := slot
  cases token with
  | literal text => exact opens_literalNodes text.toList
  | code lead optional =>
      cases optional with
      | true =>
          show ([Node.times .greedy 0 (some 1) (.ofList _)]).flatMap Node.opens = _
          rw [List.flatMap_singleton, Node.opens, opens_ofList]
          exact opens_codeNodes lead group
      | false => exact opens_codeNodes lead group
  | filename | line | column | message | whitespace | severityFromMessage | severityFixed => rfl
  | severityPattern pattern labels classifier =>
      show ([Node.capture group label]).flatMap Node.opens = _
      rw [List.flatMap_singleton]
      rfl

end Slot

/-! ## Names of groups -/

theorem isIdentifier_groupName (index : Nat) : isIdentifier (groupName index) = true := by
  obtain ⟨later, hlater⟩ : ∃ later, Table.identifierContinue = (48, 57) :: later := ⟨_, rfl⟩
  have hdigits : (digits index).all (fun d => inRanges Table.identifierContinue d.toNat) = true := by
    rw [List.all_eq_true]
    intro c hc
    obtain ⟨hlo, hhi⟩ := isAsciiDigit_iff.mp (isAsciiDigit_of_mem_digits hc)
    rw [hlater, inRanges, if_neg (by omega)]
    simp [hhi]
  have hstart : inRanges Table.identifierStart 't'.toNat = true := by decide
  rw [groupName, isIdentifier, hstart, hdigits]
  rfl

theorem not_mem_groupName {c : Char} (ht : c ≠ 't') (hdigit : isAsciiDigit c = false) (index : Nat) :
    c ∉ groupName index := by
  rw [groupName, List.mem_cons, not_or]
  refine ⟨ht, fun hc => ?_⟩
  rw [isAsciiDigit_of_mem_digits hc] at hdigit
  cases hdigit

theorem groupName_injective {i j : Nat} (h : groupName i = groupName j) : i = j :=
  digits_injective (List.cons.inj h).2

/-! ## Literal text -/

def literalSymbols (text : List Char) : List Symbol :=
  text.map fun c => ⟨c, specialChars.contains c⟩

theorem ofText?_escapeText (text : List Char) :
    Symbol.ofText? (escapeText text) = some (literalSymbols text) := by
  induction text with
  | nil => rfl
  | cons c text ih =>
      rw [escapeText, List.flatMap_cons, ← escapeText]
      by_cases hc : specialChars.contains c = true
      · rw [if_pos hc, literalSymbols, List.map_cons, hc, ← literalSymbols]
        show (Symbol.ofText? (escapeText text)).map _ = _
        rw [ih]
        rfl
      · have hslash : c ≠ '\\' := by
          rintro rfl
          exact hc (by decide)
        rw [if_neg hc, List.singleton_append, Symbol.ofText?_cons hslash, ih, literalSymbols,
          literalSymbols, List.map_cons, Bool.eq_false_iff.mpr hc]
        rfl

/-- A special character behind a backslash stands for itself, whatever flags are in force. -/
theorem readEscape_special {c : Char} (scope : Scope) (hc : specialChars.contains c = true)
    (rest : List Symbol) :
    readEscape scope c rest = some (.atom (.code c.toNat false scope.rule), rest) := by
  have hall : ∀ ascii, specialChars.all (fun c => decide (anchorEscape? c ascii = none
      ∧ categoryEscape? c ascii = none ∧ (controlEscape? c).getD c.toNat = c.toNat
      ∧ hexEscape? c = none ∧ c ≠ '0' ∧ isAsciiDigit c = false ∧ isAsciiLetter c = false)) = true := by
    intro ascii
    cases ascii <;> decide
  obtain ⟨hanchor, hcategory, hcontrol, hhex, hzero, hdigit, hletter⟩ :=
    of_decide_eq_true (List.all_eq_true.mp (hall scope.ascii) c (by simpa using hc))
  have hzero' : (c == '0') = false := by simpa using hzero
  rw [readEscape]
  simp only [hanchor, hcategory]
  cases hcode : controlEscape? c with
  | some n =>
      rw [hcode] at hcontrol
      obtain rfl : n = c.toNat := hcontrol
      rfl
  | none => simp only [hhex, hzero', hdigit, hletter]; rfl

/-- A character that is not special stands for itself, whatever flags are in force. -/
theorem readConstruct_ordinary {c : Char} (scope : Scope) (hc : specialChars.contains c = false)
    (rest : List Symbol) :
    readConstruct scope ⟨c, false⟩ rest = .ok (.atom (.code c.toNat false scope.rule), rest) := by
  have hne : ∀ d ∈ specialChars, c ≠ d := by
    rintro d hd rfl
    rw [List.contains_eq_mem, decide_eq_false_iff_not] at hc
    exact hc hd
  have hclose : (c == ')') = false := by simpa using hne ')' (by decide)
  have hbranch : (c == '|') = false := by simpa using hne '|' (by decide)
  have hcomment : (c == '#') = false := by simpa using hne '#' (by decide)
  -- blanks and signs of comments are special
  have hblank : isAsciiBlank c = false := by
    simp [isAsciiBlank, hne ' ' (by decide), hne '\t' (by decide), hne '\n' (by decide),
      hne '\r' (by decide), hne '\x0b' (by decide), hne '\x0c' (by decide)]
  rw [readConstruct, if_neg (by simp), if_neg (by simp [hclose]), if_neg (by simp [hbranch]),
    if_neg (by simp [hblank]), if_neg (by simp [hcomment])]
  split
  all_goals first
    | rfl
    | (rename_i h; exact absurd h (hne _ (by decide)))

theorem readConstruct_literal (scope : Scope) (c : Char) (rest : List Symbol) :
    readConstruct scope ⟨c, specialChars.contains c⟩ rest =
      .ok (.atom (.code c.toNat false scope.rule), rest) := by
  cases hc : specialChars.contains c with
  | true =>
      show orMalformed (readEscape scope c rest) = _
      rw [readEscape_special scope hc]
      rfl
  | false => exact readConstruct_ordinary scope hc rest

namespace Regex.Reading

variable {st st' : Reading}

/-- A literal text is taken as its characters. -/
theorem takes_literal (hscope : st.scope = {}) (text : List Char) :
    st.Takes (escapeText text) (st.pushNodes (literalNodes text)) := by
  refine ⟨text.length, literalSymbols text, ofText?_escapeText text, by simp [literalSymbols],
    fun rest _ => ?_⟩
  induction text generalizing st with
  | nil => exact .refl _ _
  | cons c text ih =>
      have hperform : st.perform (.atom (.code c.toNat false st.scope.rule))
          = .ok (st.pushNode (.code c.toNat false .exact)) := by
        rw [hscope]
        rfl
      rw [List.length_cons, Nat.add_comm]
      exact (Leads.single (readConstruct_literal st.scope c _) hperform).trans (ih hscope)

/-! ## Reading tokens -/

/-- What has been read is extended by the slot of the token at a place: its nodes, new groups for the
groups that they open, and a name for the group of the token. -/
structure Extends (index : Nat) (slot : Slot) (st st' : Reading) : Prop where
  levels : st'.levels = st.levels
  branches : st'.branches = st.branches
  scope : st'.scope = st.scope
  pieces : st'.pieces.map Piece.node = st.pieces.map Piece.node ++ slot.nodes
  groups : st.groups ≤ st'.groups
  opens : ∀ g ∈ slot.opens, st.Since st' g
  own : slot.group ∉ slot.body.opens
  names : ∀ name g, st.names.lookup name = some g → st'.names.lookup name = some g
  named : slot.token.captures = true → st'.names.lookup (groupName index) = some slot.group

/-- Nothing is asked of groups that may be missing, no fault is kept for later, and no name is given
but that of the place. -/
structure Plainly (index : Nat) (st st' : Reading) : Prop where
  late : st'.late = st.late
  asked : st'.asked = st.asked
  names : ∀ entry ∈ st'.names, entry ∈ st.names ∨ entry.1 = groupName index

/-- A token that captures nothing. -/
theorem extends_pushNodes {index : Nat} {slot : Slot} (hcaptures : slot.token.captures = false)
    (st : Reading) : Extends index slot st (st.pushNodes slot.nodes) ∧
      Plainly index st (st.pushNodes slot.nodes) := by
  have hopens : slot.opens = [] := by rw [slot.opens_eq, hcaptures]; rfl
  have hbody : slot.body.opens = [] := by
    obtain ⟨token, group, label⟩ := slot
    cases token <;> first | rfl | cases hcaptures
  refine ⟨⟨?_, ?_, ?_, ?_, ?_, ?_, ?_, ?_, ?_⟩, ?_⟩
  · rw [pushNodes_eq]
  · rw [pushNodes_eq]
  · rw [pushNodes_eq]
  · rw [pieces_pushNodes, List.map_append, List.map_map]
    exact congrArg _ (List.map_id _)
  · exact Nat.le_of_eq (by rw [pushNodes_eq])
  · simp [hopens]
  · simp [hbody]
  · rw [pushNodes_eq]; exact fun _ _ h => h
  · rw [hcaptures]; exact fun h => (by cases h)
  · rw [pushNodes_eq]; exact ⟨rfl, rfl, fun _ hentry => Or.inl hentry⟩

/-- A new name does not hide another one. -/
theorem lookup_cons_fresh {names : List (List Char × Nat)} {name : List Char} {group : Nat}
    (hfresh : names.lookup name = none) (other : List Char) (g : Nat) (h : names.lookup other = some g) :
    ((name, group) :: names).lookup other = some g := by
  have hne : (other == name) = false := by
    rw [beq_eq_false_iff_ne]
    rintro rfl
    rw [hfresh] at h
    cases h
  rw [List.lookup_cons, hne]
  exact h

/-- A token whose group comes behind some nodes, perhaps in an optional group. What has been read is
extended if the last piece holds the group of the token, and only that one. -/
theorem extends_group {index : Nat} {slot : Slot} (hfresh : st.names.lookup (groupName index) = none)
    (hgroup : slot.group = st.groups + 1) (hcaptures : slot.token.captures = true)
    (hbody : slot.body.opens = []) (hlevels : st'.levels = st.levels)
    (hbranches : st'.branches = st.branches) (hscope : st'.scope = st.scope)
    (hpieces : st'.pieces.map Piece.node = st.pieces.map Piece.node ++ slot.nodes)
    (hgroups : st'.groups = st.groups + 1)
    (hnames : st'.names = (groupName index, st.groups + 1) :: st.names)
    (hlate : st'.late = st.late) (hasked : st'.asked = st.asked) :
    Extends index slot st st' ∧ Plainly index st st' := by
  refine ⟨⟨hlevels, hbranches, hscope, hpieces, ?_, ?_, ?_, ?_, ?_⟩, ⟨hlate, hasked, ?_⟩⟩
  · rw [hgroups]; exact Nat.le_succ _
  · intro g hg
    rw [slot.opens_eq, hcaptures, if_pos rfl, hbody, List.mem_singleton, hgroup] at hg
    subst hg
    exact ⟨Nat.lt_succ_self _, Nat.le_of_eq hgroups.symm⟩
  · rw [hbody]; exact List.not_mem_nil
  · rw [hnames]; exact lookup_cons_fresh hfresh
  · rw [hnames, hgroup]; exact fun _ => List.lookup_cons_self
  · intro entry hentry
    rw [hnames] at hentry
    rcases List.mem_cons.mp hentry with rfl | hentry
    · exact Or.inr rfl
    · exact Or.inl hentry

/-- A token that is nothing but a named group. -/
theorem extends_captured {index : Nat} {slot : Slot}
    (hfresh : st.names.lookup (groupName index) = none) (hgroup : slot.group = st.groups + 1)
    (hcaptures : slot.token.captures = true) (hbody : slot.body.opens = [])
    (hnodes : slot.nodes = [.capture slot.group slot.body]) :
    Extends index slot st (st.captured (groupName index) slot.body) ∧
      Plainly index st (st.captured (groupName index) slot.body) := by
  refine extends_group hfresh hgroup hcaptures hbody rfl rfl rfl ?_ rfl rfl rfl rfl
  rw [hnodes, hgroup]
  show List.map _ (Reading.pieces (st.push _)) = _
  rw [pieces_push, List.map_append]
  rfl

/-- The named group of a place around a fragment. -/
theorem takes_namedGroup {index : Nat} {inner : List Char} {items : List Item}
    (hscope : st.scope = {}) (hfresh : st.names.lookup (groupName index) = none)
    (hinner : (st.opening (groupName index)).Takes inner { st.opening (groupName index) with items }) :
    st.Takes (namedGroup index inner)
      (st.captured (groupName index) (nodeOfPieces (items.reverse.flatMap Item.pieces))) :=
  Takes.capture hscope (isIdentifier_groupName index)
    (not_mem_groupName (by decide) (by decide) index)
    (not_mem_groupName (by decide) (by decide) index) hfresh hinner

/-- A class of characters that is repeated at least once. -/
theorem takes_run {source : List Char} {symbols : List Symbol} {members : List Member}
    {negated : Bool} (hscope : st.scope = {})
    (hsymbols : Symbol.ofText? source = some (⟨'[', false⟩ :: symbols))
    (hread : ∀ rest, readConstruct {} ⟨'[', false⟩ (symbols ++ rest)
      = .ok (.atom (.set members negated .exact), rest)) :
    st.Takes (source ++ ['+']) (st.pushNodes [runOf members negated]) :=
  Takes.repeated hscope hsymbols (by decide) hread
    (fun _ hrest => congrArg Except.ok (repetitionOf_settled hrest 1 none)) rfl

theorem takes_filename (hscope : st.scope = {}) :
    st.Takes filenamePattern (st.pushNodes [filenameRun]) :=
  takes_run hscope (show Symbol.ofText? "[^ \\t:\\r\\n\\x00\\x0c\\x0b]".toList = _ from rfl) fun _ => rfl

theorem takes_position (hscope : st.scope = {}) :
    st.Takes positionPattern (st.pushNodes [positionRun]) :=
  takes_run hscope (show Symbol.ofText? "[0-9]".toList = _ from rfl) fun _ => rfl

theorem takes_message (hscope : st.scope = {}) :
    st.Takes messagePattern (st.pushNodes [messageRun]) :=
  takes_run hscope (show Symbol.ofText? "[^\\r\\n\\x00]".toList = _ from rfl) fun _ => rfl

theorem takes_blanks (hscope : st.scope = {}) : st.Takes blankPattern (st.pushNodes [blankRun]) :=
  takes_run hscope (show Symbol.ofText? "[ \\t]".toList = _ from rfl) fun _ => rfl

theorem takes_identifier (hscope : st.scope = {}) :
    st.Takes codePattern (st.pushNodes identifierNodes) := by
  have hfirst : st.Takes "[@A-Za-z0-9_]".toList (st.pushNodes (identifierNodes.take 1)) :=
    Takes.node hscope rfl fun _ => rfl
  have hlater : (st.pushNodes (identifierNodes.take 1)).Takes ("[A-Za-z0-9_./@-]".toList ++ ['*'])
      (st.pushNodes identifierNodes) :=
    Takes.repeated hscope rfl (by decide) (fun _ => rfl)
      (fun _ hrest => congrArg Except.ok (repetitionOf_settled hrest 0 none)) rfl
  exact hfirst.append hlater (unsigned_cons (by decide) (by decide) _)

/-! ## All tokens -/

theorem unsigned_namedGroup (index : Nat) (inner : List Char) : Unsigned (namedGroup index inner) :=
  unsigned_cons (c := '(') (by decide) (by decide) _

/-- The code of a rule: its fixed text and then its identifier. -/
theorem takes_required {index : Nat} (hscope : st.scope = {})
    (hfresh : st.names.lookup (groupName index) = none) (lead : List Char) :
    st.Takes (escapeText lead ++ namedGroup index codePattern)
      ((st.pushNodes (literalNodes lead)).captured (groupName index) (.ofList identifierNodes)) := by
  have hscope' : (st.pushNodes (literalNodes lead)).scope = {} := by rw [pushNodes_eq]; exact hscope
  have hfresh' : (st.pushNodes (literalNodes lead)).names.lookup (groupName index) = none := by
    rw [pushNodes_eq]; exact hfresh
  exact (takes_literal hscope lead).append
    (takes_namedGroup hscope' hfresh' (takes_identifier hscope')) (unsigned_namedGroup _ _)

/-- The code of a rule is taken as its slot, whether it may be absent or not. -/
theorem takes_code {index : Nat} (hscope : st.scope = {})
    (hfresh : st.names.lookup (groupName index) = none) (lead : String) (optional : Bool) :
    ∃ slot st', slot.token = .code lead optional ∧
      st.Takes (tokenSource index (.code lead optional)) st' ∧
      Extends index slot st st' ∧ Plainly index st st' := by
  have hpieces : ∀ st : Reading,
      ((st.pushNodes (literalNodes lead.toList)).captured (groupName index)
        (.ofList identifierNodes)).pieces.map Piece.node = st.pieces.map Piece.node ++
          codeNodes lead (st.groups + 1) := by
    intro st
    show List.map _ (Reading.pieces ((st.pushNodes _).push _)) = _
    rw [pieces_push, pieces_pushNodes, List.map_append, List.map_append, List.map_map,
      List.append_assoc, pushNodes_eq]
    exact congrArg _ (congrArg (· ++ _) (List.map_id _))
  cases optional with
  | false =>
      refine ⟨⟨.code lead false, st.groups + 1, .empty⟩, _, rfl,
        takes_required hscope hfresh lead.toList, ?_⟩
      refine extends_group hfresh rfl rfl rfl ?_ ?_ ?_ (hpieces st) ?_ ?_ ?_ ?_ <;>
        (rw [pushNodes_eq]; rfl)
  | true =>
      let opened := st.openLevel .plain st.scope
      have hopened := takes_required (show opened.scope = {} from hscope)
        (show opened.names.lookup (groupName index) = none from hfresh) lead.toList
      refine ⟨⟨.code lead true, st.groups + 1, .empty⟩, _, rfl, Takes.optional hscope hopened
        (by rw [pushNodes_eq]; rfl) (by rw [pushNodes_eq]; rfl), ?_⟩
      -- the optional group is one node more around the nodes of the required code
      refine extends_group hfresh rfl rfl rfl rfl rfl rfl ?_ ?_ ?_ ?_ ?_
      · have hinner := hpieces opened
        show List.map _ (Reading.pieces (st.push _)) = _
        rw [pieces_push, List.map_append]
        show _ ++ [Node.times .greedy 0 (some 1) (nodeOfPieces _)] = _
        rw [nodeOfPieces, hinner]
        rfl
      all_goals (simp only [Reading.optional, pushNodes_eq]; rfl)

/-- **A token is taken as its slot.** -/
theorem takes_token {index : Nat} {token : Token}
    (hlabel : ∀ pattern labels classifier, token ≠ .severityPattern pattern labels classifier)
    (hscope : st.scope = {})
    (hfresh : token.captures = true → st.names.lookup (groupName index) = none) :
    ∃ slot st', slot.token = token ∧ st.Takes (tokenSource index token) st' ∧
      Extends index slot st st' ∧ Plainly index st st' := by
  cases token with
  | filename =>
      exact ⟨⟨.filename, st.groups + 1, .empty⟩, _, rfl,
        takes_namedGroup hscope (hfresh rfl) (takes_filename hscope),
        extends_captured (hfresh rfl) rfl rfl rfl rfl⟩
  | line =>
      exact ⟨⟨.line, st.groups + 1, .empty⟩, _, rfl,
        takes_namedGroup hscope (hfresh rfl) (takes_position hscope),
        extends_captured (hfresh rfl) rfl rfl rfl rfl⟩
  | column =>
      exact ⟨⟨.column, st.groups + 1, .empty⟩, _, rfl,
        takes_namedGroup hscope (hfresh rfl) (takes_position hscope),
        extends_captured (hfresh rfl) rfl rfl rfl rfl⟩
  | message name =>
      exact ⟨⟨.message name, st.groups + 1, .empty⟩, _, rfl,
        takes_namedGroup hscope (hfresh rfl) (takes_message hscope),
        extends_captured (hfresh rfl) rfl rfl rfl rfl⟩
  | code lead optional => exact takes_code hscope (hfresh rfl) lead optional
  | severityPattern pattern labels classifier => exact absurd rfl (hlabel pattern labels classifier)
  | literal text =>
      exact ⟨⟨.literal text, 0, .empty⟩, _, rfl, takes_literal hscope text.toList,
        extends_pushNodes rfl st⟩
  | whitespace => exact ⟨⟨.whitespace, 0, .empty⟩, _, rfl, takes_blanks hscope, extends_pushNodes rfl st⟩
  | severityFromMessage source classifier =>
      exact ⟨⟨.severityFromMessage source classifier, 0, .empty⟩, _, rfl, Takes.nil st,
        extends_pushNodes rfl st⟩
  | severityFixed level =>
      exact ⟨⟨.severityFixed level, 0, .empty⟩, _, rfl, Takes.nil st, extends_pushNodes rfl st⟩

end Regex.Reading

end LintRunner
