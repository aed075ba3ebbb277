import LintRunner.Proofs.Format.Slot
import LintRunner.Proofs.Regex.Embedding
import LintRunner.Proofs.Regex.Progress

/-!
# The tree of a format

`Layout` says what the tree of a format looks like: the slots of its tokens one after the other, each
with groups of its own, the group of the token at a place bearing the name of the place. Every format has
a layout if its labels, the patterns that severities are matched by, are written regularly
(`exists_layout`); and whenever a format can be read, it has a layout if its labels are patterns on their
own, whatever is written in them (`layout_of_read`).
-/

set_option autoImplicit false

namespace LintRunner

open Regex Text

/-! ## Layouts -/

/-- The groups of the tokens bear the names of their places, the first of which is given. -/
def Named (names : List (List Char × Nat)) : Nat → List Slot → Prop
  | _, [] => True
  | index, slot :: slots =>
      (slot.token.captures = true → names.lookup (groupName index) = some slot.group)
        ∧ Named names (index + 1) slots

abbrev LabelTree := String → Node → Prop

/-- How the tree of a pattern consists of the slots of tokens. -/
structure Layout (labels : LabelTree) (tokens : List Token) (pattern : Pattern) (slots : List Slot) :
    Prop where
  tokens : slots.map Slot.token = tokens
  node : pattern.node = .ofList (slots.flatMap Slot.nodes)
  named : Named pattern.names 0 slots
  own : ∀ slot ∈ slots, slot.group ∉ slot.body.opens
  apart : slots.Pairwise fun a b => ∀ g ∈ a.opens, g ∉ b.opens
  labels : ∀ slot ∈ slots, ∀ text table classifier,
    slot.token = .severityPattern text table classifier → labels text slot.label

/-- The token of a slot is one of the tokens. -/
theorem Layout.mem_tokens {trees : LabelTree} {tokens : List Token} {pattern : Pattern}
    {slots : List Slot} {slot : Slot} (h : Layout trees tokens pattern slots) (hslot : slot ∈ slots) :
    slot.token ∈ tokens := by
  rw [← h.tokens]
  exact List.mem_map_of_mem hslot

/-- A token has a label or it has none. -/
theorem Token.label_or_none (token : Token) :
    (∃ text table classifier, token = .severityPattern text table classifier) ∨
      ∀ text table classifier, token ≠ .severityPattern text table classifier := by
  cases token with
  | severityPattern text table classifier => exact Or.inl ⟨text, table, classifier, rfl⟩
  | _ => exact Or.inr nofun

namespace Regex.Reading

/-! ## Sequences of slots -/

/-- What has been read is extended by one slot after the other, the first of which has the given
place. -/
inductive Extended : Nat → Reading → List Slot → Reading → Prop
  | nil (index : Nat) (st : Reading) : Extended index st [] st
  | cons {index : Nat} {st st₁ st' : Reading} {slot : Slot} {slots : List Slot}
      (first : Extends index slot st st₁) (later : Extended (index + 1) st₁ slots st') :
      Extended index st (slot :: slots) st'

variable {index : Nat} {st st' : Reading} {slots : List Slot}

theorem Extended.frame (h : Extended index st slots st') :
    st'.levels = st.levels ∧ st'.branches = st.branches ∧ st'.scope = st.scope := by
  induction h with
  | nil => exact ⟨rfl, rfl, rfl⟩
  | cons first later ih =>
      exact ⟨ih.1.trans first.levels, ih.2.1.trans first.branches, ih.2.2.trans first.scope⟩

theorem Extended.pieces (h : Extended index st slots st') :
    st'.pieces.map Piece.node = st.pieces.map Piece.node ++ slots.flatMap Slot.nodes := by
  induction h with
  | nil => simp
  | cons first later ih => rw [ih, first.pieces, List.append_assoc, List.flatMap_cons]

theorem Extended.groups (h : Extended index st slots st') : st.groups ≤ st'.groups := by
  induction h with
  | nil => exact Nat.le_refl _
  | cons first later ih => exact Nat.le_trans first.groups ih

theorem Extended.opens (h : Extended index st slots st') :
    ∀ slot ∈ slots, ∀ g ∈ slot.opens, st.Since st' g := by
  induction h with
  | nil => exact fun slot hslot => (by cases hslot)
  | cons first later ih =>
      rw [List.forall_mem_cons]
      refine ⟨fun g hg => ?_, fun slot hslot g hg => ?_⟩
      · exact ⟨(first.opens g hg).1, Nat.le_trans (first.opens g hg).2 later.groups⟩
      · exact ⟨Nat.lt_of_le_of_lt first.groups (ih slot hslot g hg).1, (ih slot hslot g hg).2⟩

/-- Slots have no groups in common, since the numbers of groups ascend. -/
theorem Extended.apart (h : Extended index st slots st') :
    slots.Pairwise fun a b => ∀ g ∈ a.opens, g ∉ b.opens := by
  induction h with
  | nil => exact List.Pairwise.nil
  | cons first later ih =>
      refine List.pairwise_cons.mpr ⟨fun slot hslot g hg hg' => ?_, ih⟩
      exact Nat.lt_irrefl g (Nat.lt_of_le_of_lt (first.opens g hg).2 (later.opens slot hslot g hg').1)

theorem Extended.own (h : Extended index st slots st') : ∀ slot ∈ slots, slot.group ∉ slot.body.opens := by
  induction h with
  | nil => exact fun slot hslot => (by cases hslot)
  | cons first later ih => exact List.forall_mem_cons.mpr ⟨first.own, ih⟩

theorem Extended.names (h : Extended index st slots st') :
    ∀ name g, st.names.lookup name = some g → st'.names.lookup name = some g := by
  induction h with
  | nil => exact fun _ _ hg => hg
  | cons first later ih => exact fun name g hg => ih name g (first.names name g hg)

theorem Extended.named (h : Extended index st slots st') : Named st'.names index slots := by
  induction h with
  | nil => trivial
  | cons first later ih =>
      exact ⟨fun hcaptures => later.names _ _ (first.named hcaptures), ih⟩

/-- What has been read from the beginning has a layout. -/
theorem Extended.layout {labels : LabelTree} {pattern : Pattern} (h : Extended 0 {} slots st')
    (hpattern : pattern = { node := nodeOfPieces st'.contents, names := st'.names })
    (hlabels : ∀ slot ∈ slots, ∀ text table classifier,
      slot.token = .severityPattern text table classifier → labels text slot.label) :
    Layout labels (slots.map Slot.token) pattern slots := by
  subst hpattern
  refine ⟨rfl, ?_, h.named, h.own, h.apart, hlabels⟩
  have hcontents : st'.contents = st'.pieces := by rw [contents, h.frame.2.1]; rfl
  show nodeOfPieces st'.contents = _
  rw [hcontents, nodeOfPieces, h.pieces]
  rfl

/-! ## Labels -/

/-- A label that is written regularly is taken as the group of its own tree. -/
theorem takes_label {text : String} {table : Labels} {classifier : Classifier} {alone : Pattern}
    (hscope : st.scope = {}) (hfresh : st.names.lookup (groupName index) = none)
    (hread : Pattern.read text.toList = .ok alone) (hregular : isRegularText text.toList = true) :
    ∃ slot st', slot.token = .severityPattern text table classifier ∧ slot.label = alone.node ∧
      st.Takes (tokenSource index (.severityPattern text table classifier)) st' ∧
      Extends index slot st st' ∧ Plainly index st st' := by
  obtain ⟨hsimple, pieces, hnode, htakes⟩ := Pattern.read_simple hread hregular
  have hbody : nodeOfPieces ([{ pieces, isGroup := true }].reverse.flatMap Item.pieces) = alone.node := by
    rw [hnode]
    show nodeOfPieces (pieces ++ []) = _
    rw [List.append_nil]
  have hgroup : st.Takes (namedGroup index _) (st.captured (groupName index)
      (nodeOfPieces ([{ pieces, isGroup := true }].reverse.flatMap Item.pieces))) :=
    takes_namedGroup hscope hfresh (htakes (st.opening (groupName index)) hscope)
  rw [hbody] at hgroup
  exact ⟨⟨.severityPattern text table classifier, st.groups + 1, alone.node⟩, _, rfl, rfl, hgroup,
    extends_captured hfresh rfl rfl hsimple.opens rfl⟩

/-- A name is given to one group only. -/
theorem refused_opening {name : List Char} (hscope : st.scope = {}) (hname : isIdentifier name = true)
    (hend : '>' ∉ name) (htaken : st.names.lookup name ≠ none) (rest : List Symbol) :
    Refused .malformed st (openingSymbols name ++ rest) := by
  obtain ⟨s, symbols, hsymbols, hread⟩ := readConstruct_opening {} hname hend rest
  have hopens : st.openCapture (some name) = .error .malformed := by
    rw [openCapture.eq_def]
    simp only
    rw [if_pos (Option.isSome_iff_ne_none.mpr htaken)]
  rw [hsymbols]
  refine ⟨0, st, s, symbols ++ rest, .refl _ _, ?_⟩
  rw [step, hscope, hread]
  show (st.perform (.captureGroup (some name)) >>= fun st' => _) = _
  rw [show st.perform (.captureGroup (some name)) = _ from hopens]
  rfl

/-- Whoever has read the beginning of a named group has found the name free. -/
theorem run_opening {name : List Char} {fuel : Nat} {final : Reading} {rest : List Symbol}
    (hscope : st.scope = {}) (hname : isIdentifier name = true) (hend : '>' ∉ name)
    (hrun : run fuel st (openingSymbols name ++ rest) = .ok final) :
    st.names.lookup name = none ∧ ∃ fuel', run fuel' (st.opening name) rest = .ok final := by
  have hfresh : st.names.lookup name = none := Classical.byContradiction fun htaken =>
    (refused_opening hscope hname hend htaken rest).run_ne_ok hrun
  exact ⟨hfresh, (leads_opening hscope hname hend hfresh rest).run hrun⟩

/-- The symbols of a label between those of the groups around it. -/
theorem ofText?_label {text : String} {inner : List Symbol}
    (hinner : Symbol.ofText? text.toList = some inner) (table : Labels) (classifier : Classifier) :
    Symbol.ofText? (tokenSource index (.severityPattern text table classifier))
      = some (openingSymbols (groupName index)
          ++ (Symbol.plain "(?:".toList ++ (inner ++ [closing, closing]))) := by
  have hregroup : ∀ a b c d : List Char, a ++ (b ++ c ++ d) ++ d = a ++ (b ++ (c ++ (d ++ d))) := by
    simp
  have hopening := ofText?_openingSymbols (not_mem_groupName (by decide) (by decide) index)
  have hplain : Symbol.ofText? "(?:".toList = some (Symbol.plain "(?:".toList) := rfl
  rw [show tokenSource index (.severityPattern text table classifier) = _ from hregroup _ _ _ _,
    Symbol.ofText?_append hopening, Symbol.ofText?_append hplain, Symbol.ofText?_append hinner]
  rfl

/-- A label that is a pattern on its own is read as one group, whatever is written in it. -/
theorem extends_label {text : String} {table : Labels} {classifier : Classifier} {alone : Pattern}
    {fuel : Nat} {final : Reading} {symbols rest : List Symbol} (hscope : st.scope = {})
    (hread : Pattern.read text.toList = .ok alone)
    (hsymbols : Symbol.ofText? (tokenSource index (.severityPattern text table classifier)) = some symbols)
    (hrun : run fuel st (symbols ++ rest) = .ok final) :
    ∃ slot fuel' st', slot.token = .severityPattern text table classifier ∧
      run fuel' st' rest = .ok final ∧ Extends index slot st st' := by
  obtain ⟨n, inner, own, hinner, -, hleads, hclosed, -⟩ := Pattern.read_eq_ok hread
  rw [ofText?_label hinner] at hsymbols
  have hall : symbols ++ rest = openingSymbols (groupName index)
      ++ (Symbol.plain "(?:".toList ++ (inner ++ closing :: closing :: rest)) := by
    obtain rfl := Option.some.inj hsymbols
    simp only [List.append_assoc]
    rfl
  rw [hall] at hrun
  obtain ⟨hfresh, fuel₁, hrun⟩ := run_opening hscope (isIdentifier_groupName index)
    (not_mem_groupName (by decide) (by decide) index) hrun
  -- the label stands in a plain group of its own, inside the group of its place
  let opened := st.opening (groupName index)
  let base := opened.openLevel .plain opened.scope
  obtain ⟨fuel₂, hrun⟩ := (leads_plain (show opened.scope = {} from hscope) _).run hrun
  have hstart : base.Inside base [] :=
    ⟨rfl, Nat.le_refl _, fun _ _ h => h, fun level hlevel => (by cases hlevel),
      fun item hitem => (by cases hitem), fun branch hbranch => (by cases hbranch)⟩
  have hscopes : base.scopes = Reading.scopes {} ++ base.levels.map Level.scope := by
    show st.scope :: base.levels.map Level.scope = {} :: base.levels.map Level.scope
    rw [hscope]
  obtain ⟨fuel₃, st₁, hrun, hinside⟩ :=
    hleads.inside hclosed rfl ⟨_, _, rfl, rfl⟩ hstart hscopes hrun
  have hlevels : st₁.levels = base.levels := hinside.levels
  obtain ⟨fuel₄, hrun⟩ := (leads_close (closeLevel_plain hlevels) _).run hrun
  obtain ⟨fuel₅, hrun⟩ := (leads_close (closeLevel_capture rfl rfl) _).run hrun
  -- the groups of the label have been opened behind the group of its place
  have hlabel : ∀ g ∈ (nodeOfPieces (st₁.contents ++ [])).opens, base.Since st₁ g := by
    rw [List.append_nil, opens_nodeOfPieces]
    exact hinside.contents
  refine ⟨⟨.severityPattern text table classifier, st.groups + 1, nodeOfPieces (st₁.contents ++ [])⟩,
    fuel₅, _, rfl, hrun, ⟨rfl, rfl, rfl, ?_, ?_, ?_, ?_, ?_, ?_⟩⟩
  · show List.map _ (Reading.pieces (st.push _)) = _
    rw [pieces_push, List.map_append]
    rfl
  · exact Nat.le_trans (Nat.le_succ _) hinside.groups
  · intro g hg
    rw [Slot.opens_eq] at hg
    rcases List.mem_cons.mp hg with rfl | hg
    · exact ⟨Nat.lt_succ_self _, hinside.groups⟩
    · exact ⟨Nat.lt_of_succ_lt (hlabel g hg).1, (hlabel g hg).2⟩
  · exact fun hg => Nat.lt_irrefl _ (hlabel _ hg).1
  · exact fun name g hg => hinside.names name g (lookup_cons_fresh hfresh name g hg)
  · exact fun _ => hinside.names _ _ List.lookup_cons_self

/-! ## Sequences of tokens -/

theorem unsigned_escapeText (text : List Char) : Unsigned (escapeText text) := by
  cases text with
  | nil => exact unsigned_nil
  | cons c text =>
      rw [escapeText, List.flatMap_cons]
      split
      · exact unsigned_cons (by decide) (by decide) _
      · rename_i hc
        refine unsigned_cons ?_ ?_ _ <;> (rintro rfl; exact hc (by decide))

/-- No token begins with a sign that would change the token before it. -/
theorem unsigned_tokenSource (index : Nat) (token : Token) : Unsigned (tokenSource index token) := by
  cases token with
  | literal text => exact unsigned_escapeText text.toList
  | code lead optional =>
      cases optional with
      | true => exact unsigned_cons (c := '(') (by decide) (by decide) _
      | false => exact (unsigned_escapeText lead.toList).append (unsigned_namedGroup index _)
  | severityFromMessage | severityFixed => exact unsigned_nil
  | whitespace => exact unsigned_cons (c := '[') (by decide) (by decide) _
  | filename | line | column | message | severityPattern => exact unsigned_namedGroup index _

theorem unsigned_sourceFrom (index : Nat) (tokens : List Token) :
    Unsigned (sourceFrom index tokens) := by
  induction tokens generalizing index with
  | nil => exact unsigned_nil
  | cons token tokens ih => exact (unsigned_tokenSource index token).append (ih (index + 1))

/-- A token is refused if the name of its place is taken. -/
theorem refused_of_taken {token : Token} {symbols : List Symbol} (hcaptures : token.captures = true)
    (hscope : st.scope = {}) (htaken : st.names.lookup (groupName index) ≠ none)
    (hsymbols : Symbol.ofText? (tokenSource index token) = some symbols) (rest : List Symbol) :
    Refused .malformed st (symbols ++ rest) := by
  -- whatever stands in front of the named group, the name is still taken when the reader comes to it
  have hgroup : ∀ (before inner after : List Char) (st₁ : Reading), st.Takes before st₁ →
      st₁.scope = {} → st₁.names = st.names →
      tokenSource index token = before ++ (namedGroup index inner ++ after) →
      Refused .malformed st (symbols ++ rest) := by
    intro before inner after st₁ htakes hscope₁ hnames hsource
    obtain ⟨n, taken, htaken', -, hleads⟩ := htakes
    have hregroup : ∀ a b c d : List Char, a ++ b ++ c ++ d = a ++ (b ++ (c ++ d)) := by simp
    have hopening := ofText?_openingSymbols (not_mem_groupName (by decide) (by decide) index)
    rw [hsource, Symbol.ofText?_append htaken',
      show namedGroup index inner ++ after = _ from hregroup _ _ _ _, Symbol.ofText?_append hopening,
      Option.map_map] at hsymbols
    obtain ⟨later, -, rfl⟩ := Option.map_eq_some_iff.mp hsymbols
    have hopening : Settled (openingSymbols (groupName index) ++ (later ++ rest)) :=
      settled_cons rfl rfl _
    simp only [Function.comp, List.append_assoc]
    exact (hleads _ hopening).refused (refused_opening hscope₁ (isIdentifier_groupName index)
      (not_mem_groupName (by decide) (by decide) index) (hnames ▸ htaken) _)
  cases token with
  | filename | line | column | message | severityPattern =>
      exact hgroup [] _ [] st (Takes.nil st) hscope rfl (List.append_nil _).symm
  | code lead optional =>
      cases optional with
      | false =>
          exact hgroup (escapeText lead.toList) codePattern [] _ (takes_literal hscope lead.toList)
            (by rw [pushNodes_eq]; exact hscope) (by rw [pushNodes_eq])
            (by rw [List.append_nil]; rfl)
      | true =>
          have hregroup : ∀ a b c d : List Char, a ++ (b ++ c) ++ d = (a ++ b) ++ (c ++ d) := by simp
          have hbefore := (takes_plain hscope).append
            (takes_literal (show (st.openLevel .plain st.scope).scope = {} from hscope) lead.toList)
            (unsigned_escapeText lead.toList)
          exact hgroup ("(?:".toList ++ escapeText lead.toList) codePattern ")?".toList _ hbefore
            (by rw [pushNodes_eq]; exact hscope) (by rw [pushNodes_eq]; rfl)
            (hregroup _ _ _ _)
  | severityFromMessage | severityFixed | literal | whitespace => cases hcaptures

/-- Whoever has read a token has found the name of its place free. -/
theorem fresh_of_run {token : Token} {fuel : Nat} {final : Reading} {symbols rest : List Symbol}
    (hcaptures : token.captures = true) (hscope : st.scope = {})
    (hsymbols : Symbol.ofText? (tokenSource index token) = some symbols)
    (hrun : run fuel st (symbols ++ rest) = .ok final) :
    st.names.lookup (groupName index) = none := by
  exact Classical.byContradiction fun htaken =>
    (refused_of_taken hcaptures hscope htaken hsymbols rest).run_ne_ok hrun

/-- A token has symbols if its label has. -/
theorem exists_symbols (index : Nat) {token : Token}
    (hlabel : ∀ text table classifier, token = .severityPattern text table classifier →
      ∃ alone, Pattern.read text.toList = .ok alone) :
    ∃ symbols, Symbol.ofText? (tokenSource index token) = some symbols := by
  rcases token.label_or_none with ⟨text, table, classifier, rfl⟩ | hnone
  · obtain ⟨alone, hread⟩ := hlabel text table classifier rfl
    obtain ⟨n, symbols, -, hsymbols, -⟩ := Pattern.read_eq_ok hread
    exact ⟨_, ofText?_label hsymbols table classifier⟩
  · obtain ⟨slot, st', -, ⟨n, symbols, hsymbols, -⟩, -⟩ := takes_token hnone
      (show Reading.scope {} = {} from rfl) (fun _ => (rfl : List.lookup (groupName index) [] = none))
    exact ⟨symbols, hsymbols⟩

/-- **Tokens that have been read have been read as slots**, if their labels are patterns on their
own. -/
theorem extended_of_run {tokens : List Token} {fuel : Nat} {final : Reading} {symbols : List Symbol}
    (hlabels : ∀ text table classifier, .severityPattern text table classifier ∈ tokens →
      ∃ alone, Pattern.read text.toList = .ok alone)
    (hscope : st.scope = {}) (hsymbols : Symbol.ofText? (sourceFrom index tokens) = some symbols)
    (hrun : run fuel st symbols = .ok final) :
    ∃ slots, slots.map Slot.token = tokens ∧ Extended index st slots final := by
  induction tokens generalizing index st symbols fuel with
  | nil =>
      obtain rfl := Option.some.inj hsymbols
      obtain rfl : st = final := by cases fuel <;> exact Except.ok.inj hrun
      exact ⟨[], rfl, .nil index st⟩
  | cons token tokens ih =>
      obtain ⟨taken, htaken⟩ := exists_symbols index
        (fun text table classifier h => hlabels text table classifier (h ▸ List.mem_cons_self))
      rw [sourceFrom, Symbol.ofText?_append htaken] at hsymbols
      obtain ⟨later, hlater, rfl⟩ := Option.map_eq_some_iff.mp hsymbols
      have hsettled : Settled later := by
        have h := (unsigned_sourceFrom (index + 1) tokens).settled hlater settled_nil
        rwa [List.append_nil] at h
      -- a label is read as one group whatever is in it, the other tokens have no choice
      have hfirst : ∃ slot fuel' st₁, slot.token = token ∧ run fuel' st₁ later = .ok final
          ∧ Extends index slot st st₁ := by
        rcases token.label_or_none with ⟨text, table, classifier, rfl⟩ | hnone
        · obtain ⟨alone, hread⟩ := hlabels text table classifier List.mem_cons_self
          exact extends_label hscope hread htaken hrun
        · obtain ⟨slot, st₁, htoken, ⟨n, taken', htaken', -, hleads⟩, hextends, -⟩ :=
            takes_token hnone hscope fun hcaptures => fresh_of_run hcaptures hscope htaken hrun
          obtain rfl := Option.some.inj (htaken.symm.trans htaken')
          obtain ⟨fuel', hrun'⟩ := (hleads later hsettled).run hrun
          exact ⟨slot, fuel', st₁, htoken, hrun', hextends⟩
      obtain ⟨slot, fuel', st₁, htoken, hrun', hextends⟩ := hfirst
      obtain ⟨slots, htokens, hextended⟩ := ih
        (fun text table classifier h => hlabels text table classifier (List.mem_cons_of_mem _ h))
        (hextends.scope.trans hscope) hlater hrun'
      exact ⟨slot :: slots, by rw [List.map_cons, htoken, htokens], .cons hextends hextended⟩

/-- **Tokens whose labels are written regularly are taken as slots.** -/
theorem takes_tokens {tokens : List Token}
    (hlabels : ∀ text table classifier, .severityPattern text table classifier ∈ tokens →
      isRegularText text.toList = true ∧ ∃ alone, Pattern.read text.toList = .ok alone)
    (hscope : st.scope = {}) (hnames : ∀ entry ∈ st.names, ∃ i < index, entry.1 = groupName i) :
    ∃ slots st', slots.map Slot.token = tokens ∧ st.Takes (sourceFrom index tokens) st' ∧
      Extended index st slots st' ∧ st'.late = st.late ∧ st'.asked = st.asked ∧
      ∀ slot ∈ slots, ∀ text table classifier, slot.token = .severityPattern text table classifier →
        ∃ alone, Pattern.read text.toList = .ok alone ∧ slot.label = alone.node := by
  induction tokens generalizing index st with
  | nil =>
      exact ⟨[], st, rfl, Takes.nil st, .nil index st, rfl, rfl, fun slot hslot => (by cases hslot)⟩
  | cons token tokens ih =>
      have hfresh : st.names.lookup (groupName index) = none := by
        rw [List.lookup_eq_none_iff]
        intro entry hentry
        obtain ⟨i, hi, hname⟩ := hnames entry hentry
        rw [bne_iff_ne, hname]
        exact fun h => Nat.ne_of_gt hi (groupName_injective h)
      have hfirst : ∃ slot st₁, slot.token = token ∧ st.Takes (tokenSource index token) st₁ ∧
          Extends index slot st st₁ ∧ Plainly index st st₁ ∧
          ∀ text table classifier, slot.token = .severityPattern text table classifier →
            ∃ alone, Pattern.read text.toList = .ok alone ∧ slot.label = alone.node := by
        rcases token.label_or_none with ⟨text, table, classifier, rfl⟩ | hnone
        · obtain ⟨hregular, alone, hread⟩ := hlabels text table classifier List.mem_cons_self
          obtain ⟨slot, st₁, htoken, htree, htakes, hextends, hplainly⟩ :=
            takes_label hscope hfresh hread hregular
          refine ⟨slot, st₁, htoken, htakes, hextends, hplainly, fun text' table' classifier' h => ?_⟩
          obtain ⟨rfl, -, -⟩ := Token.severityPattern.inj (htoken.symm.trans h)
          exact ⟨alone, hread, htree⟩
        · obtain ⟨slot, st₁, htoken, htakes, hextends, hplainly⟩ :=
            takes_token hnone hscope fun _ => hfresh
          exact ⟨slot, st₁, htoken, htakes, hextends, hplainly, fun text table classifier h =>
            absurd (htoken.symm.trans h) (hnone text table classifier)⟩
      obtain ⟨slot, st₁, htoken, htakes, hextends, hplainly, htree⟩ := hfirst
      -- the name of this place is the only new one, so that the names of later places stay free
      have hnames₁ : ∀ entry ∈ st₁.names, ∃ i < index + 1, entry.1 = groupName i := by
        intro entry hentry
        rcases hplainly.names entry hentry with hentry | hname
        · obtain ⟨i, hi, hname⟩ := hnames entry hentry
          exact ⟨i, Nat.lt_succ_of_lt hi, hname⟩
        · exact ⟨index, Nat.lt_succ_self index, hname⟩
      obtain ⟨slots, st', htokens, htakes', hextended, hlate, hasked, htrees⟩ := ih
        (fun text table classifier h => hlabels text table classifier (List.mem_cons_of_mem _ h))
        (hextends.scope.trans hscope) hnames₁
      exact ⟨slot :: slots, st', by rw [List.map_cons, htoken, htokens],
        htakes.append htakes' (unsigned_sourceFrom (index + 1) tokens), .cons hextends hextended,
        hlate.trans hplainly.late, hasked.trans hplainly.asked,
        List.forall_mem_cons.mpr ⟨htree, htrees⟩⟩

end Regex.Reading

/-! ## Formats -/

/-- The labels that are patterns on their own, with their trees. -/
def OwnTree : LabelTree := fun text node => ∃ alone, Pattern.read text.toList = .ok alone ∧ node = alone.node

/-- **The tree of a format that can be read consists of the slots of its tokens**, if its labels are
patterns on their own. -/
theorem layout_of_read {tokens : List Token} {pattern : Pattern}
    (hlabels : ∀ text table classifier, .severityPattern text table classifier ∈ tokens →
      ∃ alone, Pattern.read text.toList = .ok alone)
    (hread : Pattern.read (sourceFrom 0 tokens) = .ok pattern) :
    ∃ slots, Layout (fun _ _ => True) tokens pattern slots := by
  obtain ⟨n, symbols, st, hsymbols, -, hleads, -, hpattern⟩ := Pattern.read_eq_ok hread
  have hrun := Reading.run_of_leads hleads (show Reading.run 0 st [] = .ok st from rfl)
  obtain ⟨slots, htokens, hextended⟩ := Reading.extended_of_run hlabels rfl hsymbols hrun
  exact ⟨slots, htokens ▸ hextended.layout hpattern fun _ _ _ _ _ _ => trivial⟩

/-- **A format whose labels are written regularly can be read**, and its tree consists of the slots of
its tokens. -/
theorem exists_layout {tokens : List Token}
    (hlabels : ∀ text table classifier, .severityPattern text table classifier ∈ tokens →
      isRegularText text.toList = true ∧ ∃ alone, Pattern.read text.toList = .ok alone) :
    ∃ pattern slots, Pattern.read (sourceFrom 0 tokens) = .ok pattern ∧
      Layout OwnTree tokens pattern slots := by
  obtain ⟨slots, st, htokens, htakes, hextended, hlate, hasked, htrees⟩ :=
    @Reading.takes_tokens 0 {} tokens hlabels rfl (fun entry hentry => (by cases hentry))
  have hfinish : st.finish = .ok { node := nodeOfPieces st.contents, names := st.names } := by
    have hlate' : st.late = false := hlate
    have hasked' : st.asked = 0 := hasked
    have hlevels : st.levels = [] := hextended.frame.1
    rw [Reading.finish, hlate', hasked', hlevels]
    simp
  exact ⟨_, slots, htakes.read.trans hfinish, htokens ▸ hextended.layout rfl htrees⟩

end LintRunner
