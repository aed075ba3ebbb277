import LintRunner.Proofs.Format.Layout

/-!
# Segments

The grammar of a format, said without patterns: what each token accepts (`Token.Accepts`), and how a text
splits into one segment per token (`Splits`). The nodes of a slot spell exactly the segments that its
token accepts (`Slot.spells_iff`), so the tree of a format spells exactly the texts that split
(`spells_slots`), and these are the texts that the format matches (`Layout.fullMatch?_isSome_iff`).
-/

set_option autoImplicit false

namespace LintRunner

open Regex Text

/-! ## The grammar -/

def isFilenameChar (c : Char) : Bool :=
  !([' ', '\t', ':', '\r', '\n', '\x00', '\x0c', '\x0b'].contains c)

def isMessageChar (c : Char) : Bool := !(['\r', '\n', '\x00'].contains c)

def isCodeStart (c : Char) : Bool := isAsciiWord c || c == '@'

def isCodeChar (c : Char) : Bool := isAsciiWord c || ['.', '/', '@', '-'].contains c

def isInlineBlank (c : Char) : Bool := c == ' ' || c == '\t'

def IsRun (p : Char → Bool) (text : List Char) : Prop := text ≠ [] ∧ ∀ c ∈ text, p c = true

def IsCode (text : List Char) : Prop :=
  ∃ c rest, text = c :: rest ∧ isCodeStart c = true ∧ ∀ d ∈ rest, isCodeChar d = true

/-- A class of characters that holds no end of a line and no NUL is one of characters of messages. -/
theorem isMessageChar_of_accepts {accepts : Char → Bool} (hreturn : accepts '\r' = false)
    (hnewline : accepts '\n' = false) (hnul : accepts '\x00' = false) {c : Char}
    (h : accepts c = true) : isMessageChar c = true := by
  rw [isMessageChar, Bool.not_eq_true', List.contains_eq_mem, decide_eq_false_iff_not]
  intro hmem
  simp only [List.mem_cons, List.not_mem_nil, or_false] at hmem
  rcases hmem with rfl | rfl | rfl
  · exact Bool.eq_false_iff.mp hreturn h
  · exact Bool.eq_false_iff.mp hnewline h
  · exact Bool.eq_false_iff.mp hnul h

/-- The segments that a token accepts, given the texts that stand for the pattern of a severity. -/
def Token.Accepts (labels : String → List Char → Prop) : Token → List Char → Prop
  | .filename, text => IsRun isFilenameChar text
  | .line, text | .column, text => IsRun isAsciiDigit text
  | .message _, text => IsRun isMessageChar text
  | .code lead optional, text =>
      (∃ code, text = lead.toList ++ code ∧ IsCode code) ∨ (optional = true ∧ text = [])
  | .severityPattern pattern _ _, text => labels pattern text
  | .literal fixed, text => text = fixed.toList
  | .whitespace, text => IsRun isInlineBlank text
  | .severityFromMessage .., text | .severityFixed _, text => text = []

structure Segment where
  token : Token
  text : List Char
  deriving DecidableEq

/-- A text as one segment after the other, each of which its token accepts. -/
structure Splits (labels : String → List Char → Prop) (tokens : List Token) (text : List Char)
    (segments : List Segment) : Prop where
  tokens : segments.map Segment.token = tokens
  text : (segments.map Segment.text).flatten = text
  accepts : ∀ segment ∈ segments, segment.token.Accepts labels segment.text

/-- The token of a segment is one of the tokens. -/
theorem Splits.mem_tokens {labels : String → List Char → Prop} {tokens : List Token} {text : List Char}
    {segments : List Segment} {segment : Segment} (h : Splits labels tokens text segments)
    (hsegment : segment ∈ segments) : segment.token ∈ tokens := by
  rw [← h.tokens]
  exact List.mem_map_of_mem hsegment

theorem splits_nil {labels : String → List Char → Prop} {text : List Char} {segments : List Segment} :
    Splits labels [] text segments ↔ text = [] ∧ segments = [] := by
  constructor
  · rintro ⟨htokens, rfl, -⟩
    obtain rfl := List.map_eq_nil_iff.mp htokens
    exact ⟨rfl, rfl⟩
  · rintro ⟨rfl, rfl⟩
    exact ⟨rfl, rfl, fun segment hsegment => (by cases hsegment)⟩

/-- The first token takes the first segment. -/
theorem splits_cons {labels : String → List Char → Prop} {token : Token} {tokens : List Token}
    {text : List Char} {segments : List Segment} :
    Splits labels (token :: tokens) text segments ↔
      ∃ first rest later, segments = ⟨token, first⟩ :: later ∧ text = first ++ rest ∧
        token.Accepts labels first ∧ Splits labels tokens rest later := by
  constructor
  · rintro ⟨htokens, rfl, haccepts⟩
    obtain ⟨⟨token', first⟩, later, rfl⟩ := List.exists_cons_of_ne_nil
      (show segments ≠ [] by rintro rfl; cases htokens)
    obtain ⟨rfl, hlater⟩ := List.cons.inj htokens
    rw [List.forall_mem_cons] at haccepts
    exact ⟨first, _, later, rfl, rfl, haccepts.1, hlater, rfl, haccepts.2⟩
  · rintro ⟨first, rest, later, rfl, rfl, hfirst, hlater⟩
    exact ⟨congrArg (token :: ·) hlater.tokens, congrArg (first ++ ·) hlater.text,
      List.forall_mem_cons.mpr ⟨hfirst, hlater.accepts⟩⟩

/-! ## Classes of characters -/

theorem accepts_char (c d : Char) : Member.accepts .exact c (.code d.toNat) = (c == d) := by
  show [c.toNat].contains d.toNat = _
  rw [Bool.eq_iff_iff, List.contains_iff_mem, List.mem_singleton, beq_iff_eq, Char.toNat_inj, eq_comm]

theorem accepts_range (c lo hi : Char) :
    Member.accepts .exact c (.range lo.toNat hi.toNat) = (decide (lo ≤ c) && decide (c ≤ hi)) := by
  have hle : ∀ a b : Char, (decide (a.toNat ≤ b.toNat)) = decide (a ≤ b) := fun _ _ => rfl
  simp [Member.accepts, CaseRule.variants, hle]

theorem codeAccepts_exact (c d : Char) : codeAccepts d.toNat false .exact c = (c == d) := by
  rw [codeAccepts, Bool.bne_false]
  exact accepts_char c d

theorem setAccepts_filename (c : Char) :
    setAccepts [.code 32, .code 9, .code 58, .code 13, .code 10, .code 0, .code 12, .code 11] true
      .exact c = isFilenameChar c := by
  show setAccepts [.code ' '.toNat, .code '\t'.toNat, .code ':'.toNat, .code '\r'.toNat,
    .code '\n'.toNat, .code '\x00'.toNat, .code '\x0c'.toNat, .code '\x0b'.toNat] true .exact c = _
  simp only [setAccepts, List.any_cons, List.any_nil, accepts_char, isFilenameChar, List.contains_cons,
    List.contains_nil, Bool.bne_true]

theorem setAccepts_position (c : Char) :
    setAccepts [.range 48 57] false .exact c = isAsciiDigit c := by
  show setAccepts [.range '0'.toNat '9'.toNat] false .exact c = _
  simp only [setAccepts, List.any_cons, List.any_nil, accepts_range, isAsciiDigit, Bool.or_false,
    Bool.bne_false]

theorem setAccepts_message (c : Char) :
    setAccepts [.code 13, .code 10, .code 0] true .exact c = isMessageChar c := by
  show setAccepts [.code '\r'.toNat, .code '\n'.toNat, .code '\x00'.toNat] true .exact c = _
  simp only [setAccepts, List.any_cons, List.any_nil, accepts_char, isMessageChar, List.contains_cons,
    List.contains_nil, Bool.bne_true]

theorem setAccepts_blank (c : Char) :
    setAccepts [.code 32, .code 9] false .exact c = isInlineBlank c := by
  show setAccepts [.code ' '.toNat, .code '\t'.toNat] false .exact c = _
  simp only [setAccepts, List.any_cons, List.any_nil, accepts_char, isInlineBlank, Bool.or_false,
    Bool.bne_false]

theorem setAccepts_codeStart (c : Char) :
    setAccepts [.code 64, .range 65 90, .range 97 122, .range 48 57, .code 95] false .exact c
      = isCodeStart c := by
  show setAccepts [.code '@'.toNat, .range 'A'.toNat 'Z'.toNat, .range 'a'.toNat 'z'.toNat,
    .range '0'.toNat '9'.toNat, .code '_'.toNat] false .exact c = _
  simp only [setAccepts, List.any_cons, List.any_nil, accepts_char, accepts_range, isCodeStart,
    isAsciiWord, isAsciiLetter, isAsciiDigit, Bool.or_false, Bool.bne_false]
  ac_rfl

theorem setAccepts_codeChar (c : Char) :
    setAccepts [.range 65 90, .range 97 122, .range 48 57, .code 95, .code 46, .code 47, .code 64,
      .code 45] false .exact c = isCodeChar c := by
  show setAccepts [.range 'A'.toNat 'Z'.toNat, .range 'a'.toNat 'z'.toNat, .range '0'.toNat '9'.toNat,
    .code '_'.toNat, .code '.'.toNat, .code '/'.toNat, .code '@'.toNat, .code '-'.toNat] false .exact c = _
  simp only [setAccepts, List.any_cons, List.any_nil, accepts_char, accepts_range, isCodeChar,
    isAsciiWord, isAsciiLetter, isAsciiDigit, List.contains_cons, List.contains_nil, Bool.or_false,
    Bool.bne_false]
  ac_rfl

/-! ## What nodes spell -/

namespace Regex.Node

theorem spells_ofList_append (a b : List Node) (text : List Char) :
    (ofList (a ++ b)).Spells text ↔
      ∃ x y, text = x ++ y ∧ (ofList a).Spells x ∧ (ofList b).Spells y := by
  induction a generalizing text with
  | nil =>
      constructor
      · exact fun h => ⟨[], text, rfl, rfl, h⟩
      · rintro ⟨x, y, rfl, rfl, h⟩
        exact h
  | cons node a ih =>
      show (∃ x y, text = x ++ y ∧ node.Spells x ∧ (ofList (a ++ b)).Spells y) ↔
        ∃ x y, text = x ++ y ∧ (∃ u v, x = u ++ v ∧ node.Spells u ∧ (ofList a).Spells v)
          ∧ (ofList b).Spells y
      constructor
      · rintro ⟨x, y, rfl, hx, hy⟩
        obtain ⟨u, v, rfl, hu, hv⟩ := (ih y).mp hy
        exact ⟨x ++ u, v, by rw [List.append_assoc], ⟨x, u, rfl, hx, hu⟩, hv⟩
      · rintro ⟨x, y, rfl, ⟨u, v, rfl, hu, hv⟩, hy⟩
        exact ⟨u, v ++ y, by rw [List.append_assoc], hu, (ih _).mpr ⟨v, y, rfl, hv, hy⟩⟩

theorem spells_ofList_singleton (node : Node) (text : List Char) :
    (ofList [node]).Spells text ↔ node.Spells text := by
  constructor
  · rintro ⟨x, y, rfl, hx, rfl⟩
    rwa [List.append_nil]
  · exact fun h => ⟨text, [], (List.append_nil text).symm, h, rfl⟩

theorem spells_literalNodes (fixed text : List Char) :
    (ofList (literalNodes fixed)).Spells text ↔ text = fixed := by
  induction fixed generalizing text with
  | nil => exact Iff.rfl
  | cons c fixed ih =>
      show (∃ x y, text = x ++ y ∧ (code c.toNat false .exact).Spells x
        ∧ (ofList (literalNodes fixed)).Spells y) ↔ _
      simp only [ih, Spells, codeAccepts_exact, beq_iff_eq]
      constructor
      · rintro ⟨x, y, rfl, ⟨d, rfl, rfl⟩, rfl⟩
        rfl
      · rintro rfl
        exact ⟨[c], fixed, rfl, ⟨c, rfl, rfl⟩, rfl⟩

/-- A repeated set of characters spells the texts over that set, of an admissible length. -/
theorem spells_times_set {members : List Member} {negated : Bool} {greed : Greed} {least : Nat}
    {text : List Char} :
    (times greed least none (.cat (.set members negated .exact) .empty)).Spells text ↔
      least ≤ text.length ∧ ∀ c ∈ text, setAccepts members negated .exact c = true := by
  have hsingle : (Node.cat (.set members negated .exact) .empty).single?
      = some (setAccepts members negated .exact) := rfl
  constructor
  · rintro ⟨rounds, rfl, hleast, -, hall⟩
    obtain ⟨hlen, haccepts⟩ := rounds_of_single hsingle hall
    exact ⟨by rwa [hlen], haccepts⟩
  · rintro ⟨hleast, hall⟩
    -- each character is a round
    refine ⟨text.map ([·]), ?_, by rwa [List.length_map], fun _ h => (by cases h), ?_⟩
    · rw [List.flatten_eq_flatMap, List.flatMap_map]
      simp
    · intro round hround
      obtain ⟨c, hc, rfl⟩ := List.mem_map.mp hround
      exact (spells_of_single hsingle).mpr ⟨c, rfl, hall c hc⟩

/-- An optional node spells what it spells, and nothing. -/
theorem spells_optional {greed : Greed} {body : Node} {text : List Char} :
    (times greed 0 (some 1) body).Spells text ↔ body.Spells text ∨ text = [] := by
  constructor
  · rintro ⟨rounds, rfl, -, hmost, hall⟩
    have hlen := hmost 1 rfl
    cases rounds with
    | nil => exact Or.inr rfl
    | cons round rounds =>
        obtain rfl : rounds = [] := List.length_eq_zero_iff.mp (by simpa using hlen)
        left
        rw [List.flatten_cons, List.flatten_nil, List.append_nil]
        exact hall round List.mem_cons_self
  · rintro (h | rfl)
    · refine ⟨[text], by simp, Nat.zero_le _, ?_, List.forall_mem_singleton.mpr h⟩
      rintro m ⟨⟩
      exact Nat.le_refl 1
    · exact ⟨[], rfl, Nat.zero_le _, fun _ _ => Nat.zero_le _, fun _ h => (by cases h)⟩

theorem spells_runOf {members : List Member} {negated : Bool} {p : Char → Bool}
    (h : ∀ c, setAccepts members negated .exact c = p c) (text : List Char) :
    (runOf members negated).Spells text ↔ IsRun p text := by
  rw [runOf, spells_times_set, IsRun]
  simp only [h, Nat.succ_le_iff, List.length_pos_iff]

theorem spells_identifier (text : List Char) :
    (ofList identifierNodes).Spells text ↔ IsCode text := by
  constructor
  · rintro ⟨x, y, rfl, ⟨c, rfl, hc⟩, hy⟩
    rw [← ofList, spells_ofList_singleton, spells_times_set] at hy
    exact ⟨c, y, rfl, by rwa [← setAccepts_codeStart], fun d hd => by
      rw [← setAccepts_codeChar]; exact hy.2 d hd⟩
  · rintro ⟨c, rest, rfl, hc, hrest⟩
    refine ⟨[c], rest, rfl, ⟨c, rfl, by rwa [setAccepts_codeStart]⟩, ?_⟩
    refine (spells_ofList_singleton _ rest).mpr (spells_times_set.mpr ⟨Nat.zero_le _, fun d hd => ?_⟩)
    rw [setAccepts_codeChar]
    exact hrest d hd

end Regex.Node

/-! ## Slots -/

theorem isRegular_ofList_append (a b : List Node) :
    (Node.ofList (a ++ b)).isRegular = ((Node.ofList a).isRegular && (Node.ofList b).isRegular) := by
  induction a with
  | nil => rfl
  | cons node a ih =>
      show (node.isRegular && (Node.ofList (a ++ b)).isRegular) = _
      rw [ih, ← Bool.and_assoc]
      rfl

theorem isRegular_literalNodes (fixed : List Char) :
    (Node.ofList (literalNodes fixed)).isRegular = true := by
  induction fixed with
  | nil => rfl
  | cons c fixed ih => exact ih

namespace Slot

variable {slot : Slot}

/-- The nodes of a slot are regular, unless it has a label that is not. -/
theorem isRegular_nodes (hlabel : ∀ text table classifier,
    slot.token = .severityPattern text table classifier → slot.label.isRegular = true) :
    (Node.ofList slot.nodes).isRegular = true := by
  obtain ⟨token, group, label⟩ := slot
  cases token with
  | filename | line | column | message | whitespace | severityFromMessage | severityFixed => rfl
  | literal fixed => exact isRegular_literalNodes fixed.toList
  | severityPattern text table classifier =>
      show (label.isRegular && true) = true
      rw [hlabel text table classifier rfl]
      rfl
  | code lead optional =>
      have hrequired : (Node.ofList (codeNodes lead group)).isRegular = true := by
        rw [codeNodes, isRegular_ofList_append, isRegular_literalNodes]
        rfl
      cases optional with
      | false => exact hrequired
      | true =>
          show (true && true && (Node.ofList (codeNodes lead group)).isRegular && true) = true
          rw [hrequired]
          rfl

theorem spells_required (lead : String) (group : Nat) (text : List Char) :
    (Node.ofList (codeNodes lead group)).Spells text
      ↔ ∃ code, text = lead.toList ++ code ∧ IsCode code := by
  rw [codeNodes, Node.spells_ofList_append]
  constructor
  · rintro ⟨x, y, rfl, hx, hy⟩
    rw [Node.spells_ofList_singleton] at hy
    exact ⟨y, by rw [(Node.spells_literalNodes _ _).mp hx], (Node.spells_identifier y).mp hy⟩
  · rintro ⟨code, rfl, hcode⟩
    exact ⟨lead.toList, code, rfl, (Node.spells_literalNodes _ _).mpr rfl,
      (Node.spells_ofList_singleton _ _).mpr ((Node.spells_identifier code).mpr hcode)⟩

/-- **The nodes of a slot spell what its token accepts.** -/
theorem spells_iff {labels : String → List Char → Prop} (hlabel : ∀ pattern table classifier,
      slot.token = .severityPattern pattern table classifier →
        ∀ text, slot.label.Spells text ↔ labels pattern text) (text : List Char) :
    (Node.ofList slot.nodes).Spells text ↔ slot.token.Accepts labels text := by
  obtain ⟨token, group, label⟩ := slot
  have hgroup : ∀ node : Node, (Node.ofList [.capture group (.ofList [node])]).Spells text
      ↔ node.Spells text := fun node =>
    (Node.spells_ofList_singleton _ _).trans (Node.spells_ofList_singleton node text)
  cases token with
  | filename => exact (hgroup _).trans (Node.spells_runOf setAccepts_filename text)
  | line | column => exact (hgroup _).trans (Node.spells_runOf setAccepts_position text)
  | message name => exact (hgroup _).trans (Node.spells_runOf setAccepts_message text)
  | whitespace =>
      exact (Node.spells_ofList_singleton _ _).trans (Node.spells_runOf setAccepts_blank text)
  | literal fixed => exact Node.spells_literalNodes fixed.toList text
  | severityFromMessage | severityFixed => exact Iff.rfl
  | severityPattern pattern table classifier =>
      exact (Node.spells_ofList_singleton _ _).trans (hlabel pattern table classifier rfl text)
  | code lead optional =>
      cases optional with
      | false =>
          refine (spells_required lead group text).trans ?_
          simp [Token.Accepts]
      | true =>
          show (Node.ofList [Node.times .greedy 0 (some 1)
            (.ofList (codeNodes lead group))]).Spells text ↔ _
          rw [Node.spells_ofList_singleton, Node.spells_optional, spells_required]
          simp [Token.Accepts]

end Slot

/-! ## Formats -/

theorem isRegular_slots {slots : List Slot} (h : ∀ slot ∈ slots, ∀ text table classifier,
      slot.token = .severityPattern text table classifier → slot.label.isRegular = true) :
    (Node.ofList (slots.flatMap Slot.nodes)).isRegular = true := by
  induction slots with
  | nil => rfl
  | cons slot slots ih =>
      rw [List.forall_mem_cons] at h
      rw [List.flatMap_cons, isRegular_ofList_append, Slot.isRegular_nodes h.1, ih h.2]
      rfl

theorem spells_slots {labels : String → List Char → Prop} {slots : List Slot}
    (hlabels : ∀ slot ∈ slots, ∀ pattern table classifier,
      slot.token = .severityPattern pattern table classifier →
        ∀ text, slot.label.Spells text ↔ labels pattern text) (text : List Char) :
    (Node.ofList (slots.flatMap Slot.nodes)).Spells text
      ↔ ∃ segments, Splits labels (slots.map Slot.token) text segments := by
  induction slots generalizing text with
  | nil =>
      simp only [List.map_nil, splits_nil]
      exact ⟨fun h => ⟨[], h, rfl⟩, fun ⟨_, h, _⟩ => h⟩
  | cons slot slots ih =>
      rw [List.forall_mem_cons] at hlabels
      rw [List.flatMap_cons, Node.spells_ofList_append]
      simp only [List.map_cons, splits_cons, Slot.spells_iff hlabels.1, ih hlabels.2]
      constructor
      · rintro ⟨x, y, htext, hx, segments, hy⟩
        exact ⟨_, x, y, segments, rfl, htext, hx, hy⟩
      · rintro ⟨_, x, y, segments, -, htext, hx, hy⟩
        exact ⟨x, y, htext, hx, segments, hy⟩

/-- What a label stands for if it is a pattern on its own: the texts that it matches as a whole. -/
def MatchesAlone (label : String) (text : List Char) : Prop :=
  ∃ alone, Pattern.read label.toList = .ok alone ∧ (alone.fullMatch? text).isSome = true

/-- **A format whose labels are written regularly matches exactly the texts that split.** -/
theorem Layout.fullMatch?_isSome_iff {tokens : List Token} {pattern : Pattern} {slots : List Slot}
    (h : Layout OwnTree tokens pattern slots)
    (hlabels : ∀ text table classifier, .severityPattern text table classifier ∈ tokens →
      isRegularText text.toList = true) (text : List Char) :
    (pattern.fullMatch? text).isSome = true ↔ ∃ segments, Splits MatchesAlone tokens text segments := by
  -- the tree of a label in the format is the tree that it has alone, and that one is regular
  have hlabel : ∀ slot ∈ slots, ∀ label table classifier,
      slot.token = .severityPattern label table classifier → ∃ alone : Pattern,
        Pattern.read label.toList = .ok alone ∧ slot.label = alone.node ∧ alone.node.isRegular = true := by
    intro slot hslot label table classifier htoken
    obtain ⟨alone, hread, hnode⟩ := h.labels slot hslot label table classifier htoken
    have hmem : .severityPattern label table classifier ∈ tokens := htoken ▸ h.mem_tokens hslot
    exact ⟨alone, hread, hnode,
      (Pattern.read_simple hread (hlabels label table classifier hmem)).1.regular⟩
  have hregular : pattern.node.isRegular = true := by
    rw [h.node]
    exact isRegular_slots fun slot hslot label table classifier htoken => by
      obtain ⟨alone, -, hnode, hregular⟩ := hlabel slot hslot label table classifier htoken
      rw [hnode, hregular]
  rw [Pattern.fullMatch?_isSome_iff_spells hregular, h.node, ← h.tokens]
  refine spells_slots (fun slot hslot label table classifier htoken text => ?_) text
  obtain ⟨alone, hread, hnode, hregular⟩ := hlabel slot hslot label table classifier htoken
  rw [hnode, ← Pattern.fullMatch?_isSome_iff_spells hregular]
  constructor
  · exact fun hmatch => ⟨alone, hread, hmatch⟩
  · rintro ⟨alone', hread', hmatch⟩
    obtain rfl := Except.ok.inj (hread.symm.trans hread')
    exact hmatch

end LintRunner
