import LintRunner.Proofs.Format.Conformance

/-!
# Labels that are words

A label may list the words that it stands for (`Choice`): its pattern spells these words and no other
text, and from one place on at most one of them can be read, since none begins with another one
(`length_wordsOutcomes`). Such a label leaves no room for several readings, so a match of its format reads
the greatest split, as without labels (`Format.exists_greatestBy`).
-/

set_option autoImplicit false

namespace LintRunner

open Regex Text

/-! ## Trees of words -/

namespace Regex.Node

def ofWords (words : List (List Char)) : Node :=
  ofAlternatives (words.map fun word => ofList (literalNodes word))

def ofChars (cs : List Char) : Node := .set (cs.map fun c => .code c.toNat) false .exact

theorem ofWords_cons (word next : List Char) (words : List (List Char)) :
    ofWords (word :: next :: words) = .alt (ofList (literalNodes word)) (ofWords (next :: words)) := rfl

theorem spells_ofWords {words : List (List Char)} (hne : words ≠ []) (text : List Char) :
    (ofWords words).Spells text ↔ text ∈ words := by
  induction words with
  | nil => exact absurd rfl hne
  | cons word words ih =>
      cases words with
      | nil =>
          show (ofList (literalNodes word)).Spells text ↔ _
          rw [spells_literalNodes, List.mem_singleton]
      | cons next words =>
          rw [ofWords_cons, Spells, spells_literalNodes, ih (List.cons_ne_nil _ _)]
          exact List.mem_cons.symm

theorem spells_ofChars (cs text : List Char) :
    (ofChars cs).Spells text ↔ text ∈ cs.map ([·]) := by
  have haccepts : ∀ c, setAccepts (cs.map fun d => .code d.toNat) false .exact c = true ↔ c ∈ cs := by
    intro c
    rw [setAccepts, Bool.bne_false, List.any_map, List.any_eq_true]
    simp only [Function.comp, accepts_char, beq_iff_eq]
    constructor
    · rintro ⟨d, hd, rfl⟩
      exact hd
    · exact fun hc => ⟨c, hc, rfl⟩
  show (∃ c, text = [c] ∧ setAccepts _ false .exact c = true) ↔ _
  rw [List.mem_map]
  constructor
  · rintro ⟨c, rfl, hc⟩
    exact ⟨c, (haccepts c).mp hc, rfl⟩
  · rintro ⟨c, hc, rfl⟩
    exact ⟨c, rfl, (haccepts c).mpr hc⟩

/-- What lies ahead of an outcome of words begins with one of them. -/
theorem prefix_of_mem_ofWords {words : List (List Char)} (hne : words ≠ []) {t u : Trail}
    (h : u ∈ (ofWords words).outcomes t) : ∃ word ∈ words, word <+: t.place.after := by
  have hword : ∀ word : List Char, u ∈ (ofList (literalNodes word)).outcomes t →
      word <+: t.place.after := by
    intro word hu
    obtain ⟨hpass, -⟩ := Slot.mem_literal_outcomes hu
    exact ⟨u.place.after, hpass.after.symm⟩
  induction words with
  | nil => exact absurd rfl hne
  | cons word words ih =>
      cases words with
      | nil => exact ⟨word, List.mem_cons_self, hword word h⟩
      | cons next words =>
          rw [ofWords_cons, outcomes, List.mem_append] at h
          rcases h with h | h
          · exact ⟨word, List.mem_cons_self, hword word h⟩
          · obtain ⟨other, hother, hahead⟩ := ih (List.cons_ne_nil _ _) h
            exact ⟨other, List.mem_cons_of_mem _ hother, hahead⟩

/-- At most one of some words can be read, if none of them begins with another one. -/
theorem length_wordsOutcomes {words : List (List Char)} (hne : words ≠ [])
    (happart : words.Pairwise fun a b => ¬ a <+: b ∧ ¬ b <+: a) (t : Trail) :
    ((ofWords words).outcomes t).length ≤ 1 := by
  induction words with
  | nil => exact absurd rfl hne
  | cons word words ih =>
      cases words with
      | nil => exact length_literal_outcomes word t
      | cons next words =>
          rw [List.pairwise_cons] at happart
          rw [ofWords_cons, outcomes, List.length_append]
          have hfirst := length_literal_outcomes word t
          have hlater := ih (List.cons_ne_nil _ _) happart.2
          -- if both could be read, one of the two words would begin with the other
          by_cases hnone : (ofList (literalNodes word)).outcomes t = []
          · rw [hnone, List.length_nil]
            omega
          · obtain ⟨u, hu⟩ := List.exists_mem_of_ne_nil _ hnone
            obtain ⟨hpass, -⟩ := Slot.mem_literal_outcomes hu
            have hahead : word <+: t.place.after := ⟨u.place.after, hpass.after.symm⟩
            have hempty : (ofWords (next :: words)).outcomes t = [] := by
              rw [List.eq_nil_iff_forall_not_mem]
              intro v hv
              obtain ⟨other, hother, hahead'⟩ := prefix_of_mem_ofWords (List.cons_ne_nil _ _) hv
              rcases List.prefix_or_prefix_of_prefix hahead hahead' with h | h
              · exact (happart.1 other hother).1 h
              · exact (happart.1 other hother).2 h
            rw [hempty, List.length_nil]
            omega

end Regex.Node

/-! ## Labels -/

/-- A label that stands for one of some words, and from one place on for one at most. -/
structure Choice (label : String) (words : List (List Char)) : Prop where
  written : isRegularText label.toList = true
  reading : ∃ alone, Pattern.read label.toList = .ok alone ∧ alone.node.isRegular = true ∧
    (∀ text, alone.node.Spells text ↔ text ∈ words) ∧ ∀ t, (alone.node.outcomes t).length ≤ 1

namespace Choice

variable {label : String} {words : List (List Char)}

theorem matchesAlone_iff (h : Choice label words) (text : List Char) :
    MatchesAlone label text ↔ text ∈ words := by
  obtain ⟨alone, hread, hregular, hspells, -⟩ := h.reading
  rw [← hspells, ← Pattern.fullMatch?_isSome_iff_spells hregular]
  constructor
  · rintro ⟨alone', hread', hmatch⟩
    obtain rfl := Except.ok.inj (hread.symm.trans hread')
    exact hmatch
  · exact fun hmatch => ⟨alone, hread, hmatch⟩

/-- A label that lists words none of which begins with another one. -/
theorem ofWords (hwritten : isRegularText label.toList = true) (hne : words ≠ [])
    (hread : Pattern.read label.toList = .ok { node := .ofList [.ofWords words], names := [] })
    (happart : words.Pairwise fun a b => ¬ a <+: b ∧ ¬ b <+: a) : Choice label words := by
  refine ⟨hwritten, _, hread, (Pattern.read_simple hread hwritten).1.regular, fun text => ?_, fun t => ?_⟩
  · rw [Node.spells_ofList_singleton, Node.spells_ofWords hne]
  · rw [Node.outcomes_ofList_singleton]
    exact Node.length_wordsOutcomes hne happart t

/-- A label that lists characters. -/
theorem ofChars {cs : List Char} (hwritten : isRegularText label.toList = true)
    (hread : Pattern.read label.toList = .ok { node := .ofList [.ofChars cs], names := [] }) :
    Choice label (cs.map ([·])) := by
  refine ⟨hwritten, _, hread, (Pattern.read_simple hread hwritten).1.regular, fun text => ?_, fun t => ?_⟩
  · rw [Node.spells_ofList_singleton, Node.spells_ofChars]
  · rw [Node.outcomes_ofList_singleton]
    exact length_advanceOutcomes _ t

end Choice

/-! ## Formats -/

/-- What a pattern matches are the texts that split, and a match reads the greatest split. -/
structure Format.GreatestBy (format : Format) (pattern : Pattern) : Prop where
  isSome_iff : ∀ text, (pattern.fullMatch? text).isSome = true ↔
    ∃ segments, Splits MatchesAlone format.tokens text segments
  reads : ∀ text m, pattern.fullMatch? text = some m →
    ∃ segments, Splits MatchesAlone format.tokens text segments ∧ Records m 0 segments ∧
      ∀ others, Splits MatchesAlone format.tokens text others → AtMost (lengths others) (lengths segments)

/-- **A format whose labels list words can be compiled, and a match reads the greatest split.** -/
theorem Format.exists_greatestBy {format : Format}
    (hlabels : ∀ label table classifier, .severityPattern label table classifier ∈ format.tokens →
      ∃ words, Choice label words)
    (hlevels : ∀ word, .severityFixed (.unknown word) ∉ format.tokens) :
    ∃ pattern, format.compile = .ok { format, pattern } ∧ format.GreatestBy pattern := by
  have hregular : format.LabelsRegular := by
    intro label table classifier hmem
    obtain ⟨words, hchoice⟩ := hlabels label table classifier hmem
    obtain ⟨alone, hread, -⟩ := hchoice.reading
    exact ⟨hchoice.written, alone, hread⟩
  obtain ⟨pattern, slots, hread, hlayout⟩ := exists_layout hregular
  -- the tree of a label in the format is the tree that it has alone
  have hslot : ∀ slot ∈ slots, ∀ label table classifier,
      slot.token = .severityPattern label table classifier → slot.label.isRegular = true ∧
        (∀ text, slot.label.Spells text ↔ MatchesAlone label text) ∧
        ∀ t, (slot.label.outcomes t).length ≤ 1 := by
    intro slot hslot label table classifier htoken
    have hmem : .severityPattern label table classifier ∈ format.tokens :=
      htoken ▸ hlayout.mem_tokens hslot
    obtain ⟨words, hchoice⟩ := hlabels label table classifier hmem
    obtain ⟨alone, hread, hregular, hspells, houtcomes⟩ := hchoice.reading
    obtain ⟨alone', hread', hnode⟩ := hlayout.labels slot hslot label table classifier htoken
    obtain rfl := Except.ok.inj (hread.symm.trans hread')
    rw [hnode]
    exact ⟨hregular, fun text => (hspells text).trans (hchoice.matchesAlone_iff text).symm, houtcomes⟩
  refine ⟨pattern, compile_eq hlevels hread,
    hlayout.fullMatch?_isSome_iff fun label _ _ h => (hregular label _ _ h).1, fun text m hmatch => ?_⟩
  refine hlayout.exists_greatest_of_descends (fun slot hmem label table classifier htoken => ?_)
    (fun slot hmem => Slot.descends_of_label fun label table classifier htoken =>
      (hslot slot hmem label table classifier htoken).2.2) hmatch
  exact ⟨(hslot slot hmem label table classifier htoken).1,
    (hslot slot hmem label table classifier htoken).2.1⟩

/-- **A line is read as its greatest split**, if the segments of that split cause no failure and are not
refused. -/
theorem Format.GreatestBy.exists_says {format : Format} {pattern : Pattern} {line : String}
    {segments : List Segment} (h : format.GreatestBy pattern)
    (hsplits : Splits MatchesAlone format.tokens (matchedText line.toList) segments)
    (hgreatest : ∀ others, Splits MatchesAlone format.tokens (matchedText line.toList) others →
      AtMost (lengths others) (lengths segments))
    (hreadable : ∀ segment ∈ segments, segment.fault? = none ∧ segment.isRefused = false) :
    ∃ d, Matcher.apply { format, pattern } line = .ok (some d) ∧ format.Says segments d := by
  obtain ⟨m, hmatch⟩ := Option.isSome_iff_exists.mp ((h.isSome_iff _).mpr ⟨segments, hsplits⟩)
  obtain ⟨others, hothers, hrecords, hgreatest'⟩ := h.reads _ m hmatch
  obtain rfl : others = segments := hothers.eq_of_lengths hsplits
    ((hgreatest others hothers).antisymm (hgreatest' segments hsplits))
  exact Matcher.exists_says hmatch hsplits hrecords (fun segment hmem => (hreadable segment hmem).1)
    fun segment hmem => (hreadable segment hmem).2

end LintRunner
