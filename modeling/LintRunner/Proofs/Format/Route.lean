import LintRunner.Proofs.Format.Segment

/-!
# Routes

A route leads through the slots of a format, one segment of the text for each (`Route`). The outcomes
of the tree are the ends of routes, every route splits the text that it leads over, and at its end
the group of each token holds what the token captures of its segment (`Route.records`). If no label
matches in several ways from one place on, the first outcome that reaches the end of the text is the end
of the route whose segments are greatest in the order of their lengths (`exists_greatest_route`).
-/

set_option autoImplicit false

namespace LintRunner

open Regex Text

/-! ## Outcomes of sequences -/

namespace Regex.Node

theorem outcomes_ofList_append (a b : List Node) (t : Trail) :
    (ofList (a ++ b)).outcomes t = ((ofList a).outcomes t).flatMap (ofList b).outcomes := by
  induction a generalizing t with
  | nil => exact (List.append_nil _).symm
  | cons node a ih =>
      show (node.outcomes t).flatMap (ofList (a ++ b)).outcomes
        = ((node.outcomes t).flatMap (ofList a).outcomes).flatMap _
      rw [List.flatMap_assoc]
      exact congrArg (List.flatMap · (node.outcomes t)) (funext ih)

theorem outcomes_ofList_singleton (node : Node) (t : Trail) :
    (ofList [node]).outcomes t = node.outcomes t := by
  show (node.outcomes t).flatMap (fun t => [t]) = _
  exact List.flatMap_singleton' _

end Regex.Node

/-! ## Routes -/

/-- The label of a slot, if it has one, leads over nothing but what its pattern stands for. -/
def Slot.LeadsWithin (labels : String → List Char → Prop) (slot : Slot) : Prop :=
  ∀ pattern table classifier, slot.token = .severityPattern pattern table classifier →
    ∀ (t t' : Trail) (text : List Char), t' ∈ slot.label.outcomes t →
      t.place.Passes text t'.place → labels pattern text

/-- A way through slots: each of them leads over a segment. -/
inductive Route : List Slot → Trail → List Segment → Trail → Prop
  | nil (t : Trail) : Route [] t [] t
  | cons {slot : Slot} {slots : List Slot} {t u t' : Trail} {text : List Char}
      {segments : List Segment} (first : u ∈ (Node.ofList slot.nodes).outcomes t)
      (passes : t.place.Passes text u.place) (later : Route slots u segments t') :
      Route (slot :: slots) t (⟨slot.token, text⟩ :: segments) t'

/-- The outcomes of slots are the ends of routes through them. -/
theorem mem_outcomes_iff_route {slots : List Slot} {t t' : Trail} :
    t' ∈ (Node.ofList (slots.flatMap Slot.nodes)).outcomes t ↔ ∃ segments, Route slots t segments t' := by
  induction slots generalizing t with
  | nil =>
      constructor
      · intro h
        obtain rfl := List.mem_singleton.mp h
        exact ⟨[], .nil _⟩
      · rintro ⟨segments, h⟩
        cases h
        exact List.mem_singleton_self _
  | cons slot slots ih =>
      rw [List.flatMap_cons, Node.outcomes_ofList_append, List.mem_flatMap]
      constructor
      · rintro ⟨u, hu, h⟩
        obtain ⟨text, hpass⟩ := Node.outcomes_passes hu
        obtain ⟨segments, hroute⟩ := ih.mp h
        exact ⟨_, .cons hu hpass hroute⟩
      · rintro ⟨segments, h⟩
        cases h with
        | cons first passes later => exact ⟨_, first, ih.mpr ⟨_, later⟩⟩

namespace Route

variable {slots : List Slot} {segments : List Segment} {t t' : Trail}

theorem tokens (h : Route slots t segments t') :
    segments.map Segment.token = slots.map Slot.token := by
  induction h with
  | nil => rfl
  | cons first passes later ih => exact congrArg (_ :: ·) ih

theorem passes_text (h : Route slots t segments t') :
    t.place.Passes (segments.map Segment.text).flatten t'.place := by
  induction h with
  | nil t => exact Place.Passes.refl _
  | cons first passes later ih => exact passes.trans ih

/-- A route leaves the captures of those groups alone that its slots do not open. -/
theorem agree {g : Nat} (h : Route slots t segments t') (hg : ∀ slot ∈ slots, g ∉ slot.opens) :
    t.captures.Agree g t'.captures := by
  induction h with
  | nil t => exact Captures.Agree.refl g _
  | cons first passes later ih =>
      rw [List.forall_mem_cons] at hg
      refine (Node.outcomes_agree ?_ first).trans (ih hg.2)
      rw [opens_ofList]
      exact hg.1

/-- A route splits the text that it leads over. -/
theorem splits {labels : String → List Char → Prop} (h : Route slots t segments t')
    (hlabels : ∀ slot ∈ slots, slot.LeadsWithin labels) :
    Splits labels (slots.map Slot.token) (segments.map Segment.text).flatten segments := by
  refine ⟨h.tokens, rfl, ?_⟩
  induction h with
  | nil t => exact fun segment hsegment => (by cases hsegment)
  | @cons slot slots t u t' text segments first passes later ih =>
      rw [List.forall_mem_cons] at hlabels
      refine List.forall_mem_cons.mpr ⟨?_, ih hlabels.2⟩
      rcases slot.token.label_or_none with ⟨pattern, table, classifier, htoken⟩ | hnone
      · have hnodes : slot.nodes = [.capture slot.group slot.label] := by
          simp only [Slot.nodes, Slot.body, htoken]
        rw [hnodes, Node.outcomes_ofList_singleton] at first
        obtain ⟨v, hv, rfl⟩ := List.mem_map.mp first
        show slot.token.Accepts labels text
        rw [htoken]
        exact hlabels.1 pattern table classifier htoken _ _ text hv passes
      · have hregular := @Slot.isRegular_nodes slot
          fun pattern table classifier htoken => absurd htoken (hnone pattern table classifier)
        have hspells := ((Node.exists_outcome_iff hregular).mp ⟨u, first, passes⟩).2
        exact (Slot.spells_iff (fun pattern table classifier htoken =>
          absurd htoken (hnone pattern table classifier)) text).mp hspells

end Route

/-! ## Captured texts -/

/-- What a token captures of its segment: all of it, but of a code only what follows its fixed text. A
code that is absent captures nothing. -/
def Token.captured? : Token → List Char → Option (List Char)
  | .code lead _, text => if text = [] then none else some (text.drop lead.toList.length)
  | .literal _, _ | .whitespace, _ | .severityFromMessage .., _ | .severityFixed _, _ => none
  | _, text => some text

/-- A place in a text: the characters around it are those of the text, and its offset says how many of
them lie before it. -/
structure Regex.Place.In (p : Place) (text : List Char) : Prop where
  around : p.before.reverse ++ p.after = text
  offset : p.offset = p.before.length

theorem Regex.Place.In.passes {p p' : Place} {text seg : List Char} (h : p.In text)
    (hpass : p.Passes seg p') : p'.In text := by
  refine ⟨?_, ?_⟩
  · rw [← h.around, hpass.after, hpass.before, List.reverse_append, List.reverse_reverse,
      List.append_assoc]
  · rw [hpass.offset, hpass.before, h.offset, List.length_append, List.length_reverse, Nat.add_comm]

/-- The text that one has passed last. -/
theorem Regex.Place.In.slice {p p' : Place} {text a b : List Char} (h : p.In text)
    (hpass : p.Passes (a ++ b) p') :
    (text.drop (p.offset + a.length)).take (p'.offset - (p.offset + a.length)) = b := by
  have htext : text = (p.before.reverse ++ a) ++ (b ++ p'.after) := by
    rw [← h.around, hpass.after]
    simp only [List.append_assoc]
  have hstart : (p.before.reverse ++ a).length = p.offset + a.length := by
    rw [List.length_append, List.length_reverse, h.offset]
  have hstop : p'.offset - (p.offset + a.length) = b.length := by
    rw [hpass.offset, List.length_append]
    omega
  rw [htext, List.drop_left' hstart, hstop, List.take_left' rfl]

namespace Slot

variable {t u : Trail} {text : List Char}

/-- Fixed characters are passed over and capture nothing. -/
theorem mem_literal_outcomes {fixed : List Char}
    (h : u ∈ (Node.ofList (literalNodes fixed)).outcomes t) :
    t.place.Passes fixed u.place ∧ u.captures = t.captures := by
  induction fixed generalizing t with
  | nil =>
      rw [List.mem_singleton.mp h]
      exact ⟨Place.Passes.refl _, rfl⟩
  | cons c fixed ih =>
      obtain ⟨v, hv, hu⟩ := List.mem_flatMap.mp h
      obtain ⟨d, hd, hpass, hcaps⟩ := mem_advanceOutcomes.mp hv
      rw [codeAccepts_exact, beq_iff_eq] at hd
      subst hd
      obtain ⟨hpass', hcaps'⟩ := ih hu
      exact ⟨hpass.trans hpass', hcaps'.trans hcaps⟩

/-- A group spans what it has led over. -/
theorem span?_of_mem_capture {group : Nat} {body : Node} (hown : group ∉ body.opens)
    (h : u ∈ (Node.capture group body).outcomes t) :
    u.captures.span? group = some (t.place.offset, u.place.offset) := by
  obtain ⟨v, hv, rfl⟩ := List.mem_map.mp h
  obtain ⟨seg, hpass⟩ := Node.outcomes_passes hv
  have hle : t.place.offset ≤ v.place.offset := by
    have h : v.place.offset = t.place.offset + seg.length := hpass.offset
    omega
  exact Captures.span?_setStop (Node.outcomes_agree hown hv) hle

/-- A fixed text and a group are not a single character. -/
theorem single?_required (lead : String) (group : Nat) :
    (Node.ofList (codeNodes lead group)).single? = none := by
  rw [codeNodes]
  cases lead.toList with
  | nil => rfl
  | cons c fixed => cases fixed <;> rfl

/-- An optional node has the outcomes of its body, and then where it started. -/
theorem outcomes_optional {body : Node} (hbody : body.single? = none) (t : Trail) :
    (Node.times .greedy 0 (some 1) body).outcomes t = body.outcomes t ++ [t] := by
  have hsecond : ∀ (fuel : Nat) (last : Option Nat) (u : Trail),
      greedyOutcomes body.outcomes 0 (some 1) (fuel + 1) 1 last u = [u] := by
    intro fuel last u
    rw [greedyOutcomes, if_neg (by omega), if_neg (by simp [Place.below])]
  rw [Node.outcomes, hbody]
  show greedyOutcomes body.outcomes 0 (some 1) (0 + t.place.after.length + 1 + 1 + 1) 0 none t = _
  rw [greedyOutcomes, if_neg (by omega), if_pos (by simp [Place.below])]
  have hrounds : greedyOutcomes body.outcomes 0 (some 1) (0 + t.place.after.length + 1 + 1) (0 + 1)
      (some t.place.offset) = fun u => [u] := funext fun u => hsecond _ _ u
  rw [hrounds, List.flatMap_singleton']

/-- A code that is not absent has its fixed text in front of its group. -/
theorem span?_of_mem_required {lead : String} {group : Nat} (hpass : t.place.Passes text u.place)
    (h : u ∈ (Node.ofList (codeNodes lead group)).outcomes t) :
    ∃ code, text = lead.toList ++ code ∧ code ≠ [] ∧
      u.captures.span? group = some (t.place.offset + lead.toList.length, u.place.offset) := by
  rw [codeNodes, Node.outcomes_ofList_append] at h
  obtain ⟨v, hv, hu⟩ := List.mem_flatMap.mp h
  rw [Node.outcomes_ofList_singleton] at hu
  obtain ⟨hlead, -⟩ := mem_literal_outcomes hv
  obtain ⟨code, hcode⟩ := Node.outcomes_passes hu
  have hspells : IsCode code := by
    obtain ⟨w, hw, rfl⟩ := List.mem_map.mp hu
    exact (Node.spells_identifier code).mp ((Node.exists_outcome_iff rfl).mp ⟨w, hw, hcode⟩).2
  refine ⟨code, ?_, ?_, ?_⟩
  · exact List.append_cancel_right (hpass.after.symm.trans (hlead.trans hcode).after)
  · obtain ⟨c, rest, rfl, -⟩ := hspells
    exact List.cons_ne_nil c rest
  · rw [span?_of_mem_capture (show group ∉ (Node.ofList identifierNodes).opens from List.not_mem_nil) hu,
      hlead.offset]

/-- **A slot that has led over a segment has captured of it what its token captures.** -/
theorem captured_of_mem {slot : Slot} {whole : List Char} (hcaptures : slot.token.captures = true)
    (hown : slot.group ∉ slot.body.opens) (hfree : t.captures.span? slot.group = none)
    (hin : t.place.In whole) (hpass : t.place.Passes text u.place)
    (h : u ∈ (Node.ofList slot.nodes).outcomes t) :
    (u.captures.span? slot.group).map (fun (start, stop) => (whole.drop start).take (stop - start))
      = slot.token.captured? text := by
  have hall : slot.nodes = [.capture slot.group slot.body] →
      slot.token.captured? text = some text →
      (u.captures.span? slot.group).map (fun (start, stop) => (whole.drop start).take (stop - start))
        = slot.token.captured? text := by
    intro hnodes hcaptured
    rw [hnodes, Node.outcomes_ofList_singleton] at h
    rw [hcaptured, span?_of_mem_capture hown h, Option.map_some]
    exact congrArg some (hin.slice (a := []) hpass)
  obtain ⟨token, group, label⟩ := slot
  cases token with
  | filename | line | column | message | severityPattern => exact hall rfl rfl
  | literal | whitespace | severityFromMessage | severityFixed => cases hcaptures
  | code lead optional =>
      -- a code that is there, be it optional or not
      have hrequired : u ∈ (Node.ofList (codeNodes lead group)).outcomes t →
          (u.captures.span? group).map (fun (start, stop) => (whole.drop start).take (stop - start))
            = (Token.code lead optional).captured? text := by
        intro hu
        obtain ⟨code, rfl, hcode, hspan⟩ := span?_of_mem_required hpass hu
        rw [hspan, Token.captured?, if_neg (List.append_ne_nil_of_right_ne_nil _ hcode),
          List.drop_left]
        exact congrArg some (hin.slice hpass)
      cases optional with
      | false => exact hrequired h
      | true =>
          rw [show Slot.nodes ⟨.code lead true, group, label⟩ = [Node.times .greedy 0 (some 1) _]
            from rfl, Node.outcomes_ofList_singleton, outcomes_optional (single?_required lead group)] at h
          rcases List.mem_append.mp h with h | h
          · exact hrequired h
          · obtain rfl := List.mem_singleton.mp h
            obtain rfl := hpass.seg_eq (Place.Passes.refl _)
            rw [hfree]
            rfl

end Slot

/-- The group of each token holds what the token captures of its segment. -/
def Records (m : Match) : Nat → List Segment → Prop
  | _, [] => True
  | index, segment :: segments =>
      (segment.token.captures = true →
          m.group? (groupName index) = some (segment.token.captured? segment.text))
        ∧ Records m (index + 1) segments

/-- **At the end of a route the group of each token holds what the token captures of its
segment**, if no two slots share a group and no group of them was open before. -/
theorem Route.records {names : List (List Char × Nat)} {whole : List Char} {index : Nat}
    {slots : List Slot} {segments : List Segment} {t t' : Trail} (h : Route slots t segments t')
    (hnamed : Named names index slots) (hown : ∀ slot ∈ slots, slot.group ∉ slot.body.opens)
    (hapart : slots.Pairwise fun a b => ∀ g ∈ a.opens, g ∉ b.opens)
    (hfree : ∀ slot ∈ slots, ∀ g ∈ slot.opens, t.captures.span? g = none) (hin : t.place.In whole) :
    Records { text := whole, names, captures := t'.captures } index segments := by
  induction h generalizing index with
  | nil => trivial
  | @cons slot slots t u t' text segments first passes later ih =>
      rw [List.forall_mem_cons] at hown hfree
      rw [List.pairwise_cons] at hapart
      refine ⟨fun hcaptures => ?_, ih hnamed.2 hown.2 hapart.2 ?_ (hin.passes passes)⟩
      · have hgroup : slot.group ∈ slot.opens := by
          rw [slot.opens_eq, if_pos hcaptures]
          exact List.mem_cons_self
        have hkept := (later.agree fun slot' hslot' => hapart.1 slot' hslot' _ hgroup).span?
        rw [Match.group?, hnamed.1 hcaptures, Option.map_some]
        show some ((t'.captures.span? slot.group).map _) = _
        rw [hkept]
        exact congrArg some (Slot.captured_of_mem hcaptures hown.1 (hfree.1 _ hgroup) hin passes first)
      · intro slot' hslot' g hg
        rw [← hfree.2 slot' hslot' g hg]
        refine (Node.outcomes_agree ?_ first).span?
        rw [opens_ofList]
        exact fun hmem => hapart.1 slot' hslot' g hmem hg

/-! ## The order of outcomes -/

def Descending (trails : List Trail) : Prop :=
  trails.Pairwise fun t t' => t'.place.offset < t.place.offset

theorem descending_of_length_le_one {trails : List Trail} (h : trails.length ≤ 1) :
    Descending trails := by
  match trails, h with
  | [], _ => exact List.Pairwise.nil
  | [t], _ => exact List.pairwise_singleton _ t

theorem descending_flatMap {trails : List Trail} {f : Trail → List Trail} (h : trails.length ≤ 1)
    (hf : ∀ t, Descending (f t)) : Descending (trails.flatMap f) := by
  match trails, h with
  | [], _ => exact List.Pairwise.nil
  | [t], _ =>
      rw [List.flatMap_singleton]
      exact hf t

theorem length_advanceOutcomes (accepts : Char → Bool) (t : Trail) :
    (advanceOutcomes accepts t).length ≤ 1 := by
  rw [advanceOutcomes]
  split <;> simp

theorem length_literal_outcomes (fixed : List Char) (t : Trail) :
    ((Node.ofList (literalNodes fixed)).outcomes t).length ≤ 1 := by
  induction fixed generalizing t with
  | nil => exact Nat.le_refl 1
  | cons c fixed ih =>
      show ((advanceOutcomes _ t).flatMap (Node.ofList (literalNodes fixed)).outcomes).length ≤ 1
      match advanceOutcomes _ t, length_advanceOutcomes (codeAccepts c.toNat false .exact) t with
      | [], _ => exact Nat.zero_le 1
      | [u], _ =>
          rw [List.flatMap_singleton]
          exact ih u

/-- A class of characters that is repeated as often as possible gives back one character after the
other. -/
theorem descending_times_set (members : List Member) (negated : Bool) (least : Nat) (t : Trail) :
    Descending ((Node.times .greedy least none
      (.cat (.set members negated .exact) .empty)).outcomes t) := by
  show Descending (if _ < least then [] else retreatOutcomes _ _ _)
  obtain ⟨run, hpass, -, hcount, -⟩ := @advanceWhile_spec (setAccepts members negated .exact) none
    t.place 0 (fun _ h => by cases h)
  split
  · exact List.Pairwise.nil
  · refine retreatOutcomes_descending t.captures hpass ?_
    show (Place.advanceWhile _ _ _ _ _ _).2 - least ≤ _
    omega

theorem descending_capture {group : Nat} {body : Node} (h : ∀ t, Descending (body.outcomes t))
    (t : Trail) : Descending ((Node.capture group body).outcomes t) :=
  List.pairwise_map.mpr (h _)

namespace Slot

theorem descending_identifier (t : Trail) : Descending ((Node.ofList identifierNodes).outcomes t) :=
  descending_flatMap (length_advanceOutcomes _ t) fun u => by
    rw [← Node.ofList, Node.outcomes_ofList_singleton]
    exact descending_times_set _ _ _ u

theorem descending_required (lead : String) (group : Nat) (t : Trail) :
    Descending ((Node.ofList (codeNodes lead group)).outcomes t) := by
  rw [codeNodes, Node.outcomes_ofList_append]
  refine descending_flatMap (length_literal_outcomes _ t) fun u => ?_
  rw [Node.outcomes_ofList_singleton]
  exact descending_capture descending_identifier u

def Descends (slot : Slot) : Prop := ∀ t, Descending ((Node.ofList slot.nodes).outcomes t)

/-- **The outcomes of a slot lie further and further back**, if its label has one outcome at most. -/
theorem descends_of_label {slot : Slot} (hlabel : ∀ pattern table classifier,
      slot.token = .severityPattern pattern table classifier →
        ∀ t, (slot.label.outcomes t).length ≤ 1) : slot.Descends := by
  intro t
  obtain ⟨token, group, label⟩ := slot
  have hgroup : ∀ members negated,
      Descending ((Node.ofList [.capture group (.ofList [runOf members negated])]).outcomes t) := by
    intro members negated
    rw [Node.outcomes_ofList_singleton]
    refine descending_capture (fun u => ?_) t
    rw [Node.outcomes_ofList_singleton]
    exact descending_times_set members negated 1 u
  cases token with
  | filename | line | column | message => exact hgroup _ _
  | severityPattern pattern table classifier =>
      show Descending ((Node.ofList [.capture group label]).outcomes t)
      rw [Node.outcomes_ofList_singleton]
      exact descending_capture
        (fun u => descending_of_length_le_one (hlabel pattern table classifier rfl u)) t
  | severityFromMessage | severityFixed => exact descending_of_length_le_one (Nat.le_refl 1)
  | literal fixed => exact descending_of_length_le_one (length_literal_outcomes fixed.toList t)
  | whitespace =>
      show Descending ((Node.ofList [blankRun]).outcomes t)
      rw [Node.outcomes_ofList_singleton]
      exact descending_times_set _ _ 1 t
  | code lead optional =>
      cases optional with
      | false => exact descending_required lead group t
      | true =>
          rw [show Slot.nodes ⟨.code lead true, group, label⟩ = [Node.times .greedy 0 (some 1) _]
            from rfl, Node.outcomes_ofList_singleton, outcomes_optional (single?_required lead group)]
          -- the way without the code comes last, and a code that is there is not empty
          refine List.pairwise_append.mpr
            ⟨descending_required lead group t, List.pairwise_singleton _ t, fun u hu v hv => ?_⟩
          obtain rfl := List.mem_singleton.mp hv
          obtain ⟨text, hpass⟩ := Node.outcomes_passes hu
          obtain ⟨code, rfl, hcode, -⟩ := span?_of_mem_required hpass hu
          rw [hpass.offset, List.length_append]
          have hpos := List.length_pos_iff.mpr hcode
          omega

end Slot

/-! ## The greatest route -/

/-- The label of a slot, if it has one, is regular and spells what its pattern stands for. -/
def Slot.LabelSpells (labels : String → List Char → Prop) (slot : Slot) : Prop :=
  ∀ pattern table classifier, slot.token = .severityPattern pattern table classifier →
    slot.label.isRegular = true ∧ ∀ text, slot.label.Spells text ↔ labels pattern text

theorem Slot.LabelSpells.leadsWithin {labels : String → List Char → Prop} {slot : Slot}
    (h : slot.LabelSpells labels) : slot.LeadsWithin labels := by
  intro pattern table classifier htoken t t' text hmem hpass
  obtain ⟨hregular, hspells⟩ := h pattern table classifier htoken
  exact (hspells text).mp ((Node.exists_outcome_iff hregular).mp ⟨t', hmem, hpass⟩).2

/-- Every way to split what lies ahead is a route. -/
theorem exists_route {labels : String → List Char → Prop} {slots : List Slot}
    {segments : List Segment} {t : Trail} {text : List Char}
    (hlabels : ∀ slot ∈ slots, slot.LabelSpells labels)
    (hsplits : Splits labels (slots.map Slot.token) text segments) (hahead : text <+: t.place.after) :
    ∃ t', Route slots t segments t' := by
  induction slots generalizing segments t text with
  | nil =>
      obtain ⟨-, rfl⟩ := splits_nil.mp hsplits
      exact ⟨t, .nil t⟩
  | cons slot slots ih =>
      rw [List.forall_mem_cons] at hlabels
      obtain ⟨first, later, segments, rfl, rfl, haccepts, hlater⟩ := splits_cons.mp hsplits
      have hspells : (Node.ofList slot.nodes).Spells first :=
        (Slot.spells_iff (fun pattern table classifier htoken =>
          (hlabels.1 pattern table classifier htoken).2) first).mpr haccepts
      obtain ⟨rest, hrest⟩ := hahead
      rw [List.append_assoc] at hrest
      obtain ⟨u, hu, hpass⟩ := (Node.exists_outcome_iff (Slot.isRegular_nodes
        fun pattern table classifier htoken => (hlabels.1 pattern table classifier htoken).1)).mpr
          ⟨⟨_, hrest⟩, hspells⟩
      obtain ⟨t', hroute⟩ := ih hlabels.2 hlater
        ⟨rest, List.append_cancel_left (hrest.trans hpass.after)⟩
      exact ⟨t', .cons hu hpass hroute⟩

def lengths (segments : List Segment) : List Nat := segments.map fun segment => segment.text.length

/-- One sequence of lengths is at most another one, the first difference deciding. -/
def AtMost : List Nat → List Nat → Prop
  | [], _ => True
  | _ :: _, [] => False
  | a :: later, b :: later' => a < b ∨ a = b ∧ AtMost later later'

theorem AtMost.antisymm {a b : List Nat} (h : AtMost a b) (h' : AtMost b a) : a = b := by
  induction a generalizing b with
  | nil =>
      cases b with
      | nil => rfl
      | cons => exact h'.elim
  | cons first later ih =>
      cases b with
      | nil => exact h.elim
      | cons first' later' =>
          rcases h with h | ⟨rfl, h⟩ <;> rcases h' with h' | ⟨h'', h'⟩
          · exact absurd h' (Nat.lt_asymm h)
          · exact absurd h (Nat.not_lt.mpr (Nat.le_of_eq h''))
          · exact absurd h' (Nat.lt_irrefl _)
          · rw [ih h h']

/-- **The first outcome of a kind is the end of the greatest route to outcomes of that kind**, if the
outcomes of all slots lie further and further back. -/
theorem exists_greatest_route {slots : List Slot} {t t' : Trail} {wanted : Trail → Bool}
    (hdescends : ∀ slot ∈ slots, slot.Descends)
    (hfirst : ((Node.ofList (slots.flatMap Slot.nodes)).outcomes t).find? wanted = some t') :
    ∃ segments, Route slots t segments t' ∧ ∀ others t'', Route slots t others t'' →
      wanted t'' = true → AtMost (lengths others) (lengths segments) := by
  induction slots generalizing t with
  | nil =>
      obtain rfl := List.mem_singleton.mp (List.mem_of_find?_eq_some hfirst)
      refine ⟨[], .nil _, fun others t'' hothers _ => ?_⟩
      cases hothers
      trivial
  | cons slot slots ih =>
      rw [List.forall_mem_cons] at hdescends
      rw [List.flatMap_cons, Node.outcomes_ofList_append, List.find?_flatMap,
        List.findSome?_eq_some_iff] at hfirst
      obtain ⟨before, u, after, hsplit, hlater, hmissed⟩ := hfirst
      obtain ⟨segments, hroute, hgreatest⟩ := ih hdescends.2 hlater
      have hu : u ∈ (Node.ofList slot.nodes).outcomes t := by rw [hsplit]; simp
      obtain ⟨text, hpass⟩ := Node.outcomes_passes hu
      refine ⟨_, .cons hu hpass hroute, fun others t'' hothers hwanted => ?_⟩
      cases hothers with
      | @cons _ _ _ v _ text' segments' hv hpass' hothers =>
          show text'.length < text.length ∨ text'.length = text.length ∧
            AtMost (lengths segments') (lengths segments)
          -- the other route cannot go through an outcome in front of `u`
          have hdescending := hdescends.1 t
          rw [hsplit] at hv hdescending
          rcases List.mem_append.mp hv with hv | hv
          · have hnone := hmissed v hv
            rw [List.find?_eq_none] at hnone
            exact absurd hwanted (hnone t'' (mem_outcomes_iff_route.mpr ⟨_, hothers⟩))
          rcases List.mem_cons.mp hv with rfl | hv
          · right
            have hsame := hpass.offset.symm.trans hpass'.offset
            exact ⟨by omega, hgreatest _ _ hothers hwanted⟩
          · left
            have hlater := (List.pairwise_cons.mp (List.pairwise_append.mp hdescending).2.1).1 v hv
            rw [hpass.offset, hpass'.offset] at hlater
            omega

end LintRunner
