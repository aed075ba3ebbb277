import LintRunner.Proofs.Format.Compilation
import LintRunner.Proofs.Format.Extraction
import LintRunner.Proofs.Text.Lines

/-!
# Conforming lines

A line conforms to a format if the part of it that is matched splits into segments. Without labels the
matcher reads the greatest of all splits and nothing else (`Format.exists_matcher_reads`). With a label
that is written regularly the lines that match are those that split, the label taking what its pattern
matches alone, and a match reads one of the splits (`Format.exists_matcher_labels`).
-/

set_option autoImplicit false

namespace LintRunner

open Regex Text

/-! ## Matches and their segments -/

namespace Layout

variable {trees : LabelTree} {labels : String → List Char → Prop} {tokens : List Token}
  {pattern : Pattern} {slots : List Slot} {text : List Char} {m : Regex.Match}

/-- The captures of a route through a layout are recorded. -/
theorem records (h : Layout trees tokens pattern slots) {segments : List Segment} {t : Trail}
    (hroute : Route slots ⟨Place.start text, {}⟩ segments t) :
    Records { text, names := pattern.names, captures := t.captures } 0 segments :=
  hroute.records h.named h.own h.apart (fun _ _ _ _ => rfl) ⟨rfl, rfl⟩

/-- A route to the end of a text splits the text. -/
theorem splits (h : Layout trees tokens pattern slots) {segments : List Segment} {t : Trail}
    (hlabels : ∀ slot ∈ slots, slot.LeadsWithin labels)
    (hroute : Route slots ⟨Place.start text, {}⟩ segments t) (hend : t.place.after = []) :
    Splits labels tokens text segments := by
  have htext : text = (segments.map Segment.text).flatten := by
    have hafter : text = (segments.map Segment.text).flatten ++ t.place.after :=
      hroute.passes_text.after
    rwa [hend, List.append_nil] at hafter
  rw [← h.tokens, htext]
  exact hroute.splits hlabels

/-- A match reads one of the splits of its text. -/
theorem exists_segments (h : Layout trees tokens pattern slots)
    (hlabels : ∀ slot ∈ slots, slot.LeadsWithin labels)
    (hmatch : pattern.fullMatch? text = some m) :
    ∃ segments, Splits labels tokens text segments ∧ Records m 0 segments := by
  obtain ⟨t, ⟨before, after, houtcomes, -⟩, hend, rfl⟩ := Pattern.fullMatch?_eq_some hmatch
  have hmem : t ∈ pattern.node.outcomes ⟨Place.start text, {}⟩ := by rw [houtcomes]; simp
  rw [h.node, mem_outcomes_iff_route] at hmem
  obtain ⟨segments, hroute⟩ := hmem
  exact ⟨segments, h.splits hlabels hroute hend, h.records hroute⟩

/-- A match reads the greatest split of its text, if the outcomes of all slots lie further and further
back. -/
theorem exists_greatest_of_descends (h : Layout trees tokens pattern slots)
    (hlabels : ∀ slot ∈ slots, slot.LabelSpells labels) (hdescends : ∀ slot ∈ slots, slot.Descends)
    (hmatch : pattern.fullMatch? text = some m) :
    ∃ segments, Splits labels tokens text segments ∧ Records m 0 segments ∧
      ∀ others, Splits labels tokens text others → AtMost (lengths others) (lengths segments) := by
  obtain ⟨t, ⟨before, after, houtcomes, hbefore⟩, hend, rfl⟩ := Pattern.fullMatch?_eq_some hmatch
  have hfirst : (pattern.node.outcomes ⟨Place.start text, {}⟩).find? (fun t => t.place.after.isEmpty)
      = some t := by
    rw [houtcomes, List.find?_append, List.find?_cons_of_pos (by simpa using hend),
      List.find?_eq_none.mpr fun u hu => by simpa using hbefore u hu]
    rfl
  rw [h.node] at hfirst
  obtain ⟨segments, hroute, hgreatest⟩ := exists_greatest_route hdescends hfirst
  refine ⟨segments, h.splits (fun slot hslot => (hlabels slot hslot).leadsWithin) hroute hend,
    h.records hroute, fun others hothers => ?_⟩
  -- any other split is a route to the end of the text, too
  obtain ⟨t', hroute'⟩ := exists_route (t := ⟨Place.start text, {}⟩) hlabels
    (h.tokens ▸ hothers) List.prefix_rfl
  refine hgreatest others t' hroute' ?_
  have hafter : text = (others.map Segment.text).flatten ++ t'.place.after :=
    hroute'.passes_text.after
  rw [hothers.text, List.self_eq_append_right] at hafter
  exact List.isEmpty_iff.mpr hafter

/-- A match reads the greatest split of its text, if there are no labels. -/
theorem exists_greatest_segments (h : Layout trees tokens pattern slots)
    (hplain : ∀ text table classifier, .severityPattern text table classifier ∉ tokens)
    (hmatch : pattern.fullMatch? text = some m) :
    ∃ segments, Splits labels tokens text segments ∧ Records m 0 segments ∧
      ∀ others, Splits labels tokens text others → AtMost (lengths others) (lengths segments) := by
  have hslots : ∀ slot ∈ slots, ∀ pattern table classifier,
      slot.token ≠ .severityPattern pattern table classifier := by
    intro slot hslot pattern table classifier htoken
    exact hplain pattern table classifier (htoken ▸ h.mem_tokens hslot)
  exact h.exists_greatest_of_descends
    (fun slot hslot pattern table classifier htoken =>
      absurd htoken (hslots slot hslot pattern table classifier))
    (fun slot hslot => Slot.descends_of_label fun pattern table classifier htoken =>
      absurd htoken (hslots slot hslot pattern table classifier)) hmatch

end Layout

/-! ## Formats without labels -/

/-- What a format says about a line: the diagnostic of the greatest split of the part that is matched,
if that part splits at all. -/
inductive Format.Reads (format : Format) (line : List Char) : Option Diagnostic → Prop
  | refused {text : List Char} (part : IsMatchedText line text)
      (unsplit : ∀ segments, ¬ Splits MatchesAlone format.tokens text segments) : Reads format line none
  | conforming {text : List Char} {segments : List Segment} (part : IsMatchedText line text)
      (splits : Splits MatchesAlone format.tokens text segments)
      (greatest : ∀ others, Splits MatchesAlone format.tokens text others →
        AtMost (lengths others) (lengths segments)) :
      Reads format line (format.diagnosticOf? segments)

/-- The lengths of its segments decide how a text is split. -/
theorem Splits.eq_of_lengths {labels : String → List Char → Prop} {tokens : List Token}
    {text : List Char} {a b : List Segment} (ha : Splits labels tokens text a)
    (hb : Splits labels tokens text b) (hlengths : lengths a = lengths b) : a = b := by
  have hmap : ∀ segments : List Segment,
      lengths segments = (segments.map Segment.text).map List.length := by
    intro segments
    rw [lengths, List.map_map]
    rfl
  have htexts : a.map Segment.text = b.map Segment.text :=
    List.eq_iff_flatten_eq.mpr ⟨ha.text.trans hb.text.symm, by rw [← hmap, ← hmap, hlengths]⟩
  have htokens : a.map Segment.token = b.map Segment.token := ha.tokens.trans hb.tokens.symm
  clear ha hb hlengths
  induction a generalizing b with
  | nil => exact (List.map_eq_nil_iff.mp htexts.symm).symm
  | cons segment a ih =>
      obtain ⟨other, b, rfl⟩ := List.exists_cons_of_ne_nil
        (show b ≠ [] by rintro rfl; cases htexts)
      obtain ⟨htext, hlaterTexts⟩ := List.cons.inj htexts
      obtain ⟨htoken, hlaterTokens⟩ := List.cons.inj htokens
      obtain ⟨token, text⟩ := segment
      obtain ⟨token', text'⟩ := other
      obtain rfl : text = text' := htext
      obtain rfl : token = token' := htoken
      rw [ih hlaterTexts hlaterTokens]

/-- **A format without labels has a matcher, which reads the greatest split of every line.** -/
theorem Format.exists_matcher_reads (format : Format)
    (hplain : ∀ text table classifier, .severityPattern text table classifier ∉ format.tokens)
    (hlevels : ∀ word, .severityFixed (.unknown word) ∉ format.tokens) :
    ∃ matcher, format.compile = .ok matcher ∧ ∀ line : String, ∃ result,
      matcher.apply line = .ok result ∧ ∀ other, format.Reads line.toList other ↔ other = result := by
  obtain ⟨pattern, slots, hread, hlayout⟩ := @exists_layout format.tokens
    fun text table classifier h => absurd h (hplain text table classifier)
  refine ⟨_, compile_eq hlevels hread, fun line => ?_⟩
  have hsome := hlayout.fullMatch?_isSome_iff
    (fun text table classifier h => absurd h (hplain text table classifier)) (matchedText line.toList)
  cases hmatch : pattern.fullMatch? (matchedText line.toList) with
  | none =>
      have hunsplit : ∀ segments,
          ¬ Splits MatchesAlone format.tokens (matchedText line.toList) segments := by
        intro segments hsplits
        have h := hsome.mpr ⟨segments, hsplits⟩
        rw [hmatch] at h
        cases h
      refine ⟨none, by rw [Matcher.apply, hmatch], fun other => ⟨?_, ?_⟩⟩
      · rintro (⟨-, -⟩ | ⟨hpart, hsplits, -⟩)
        · rfl
        · rw [isMatchedText_iff] at hpart
          exact absurd (hpart ▸ hsplits) (hunsplit _)
      · rintro rfl
        exact .refused (isMatchedText_iff.mpr rfl) hunsplit
  | some m =>
      obtain ⟨segments, hsplits, hrecords, hgreatest⟩ :=
        @Layout.exists_greatest_segments _ MatchesAlone _ _ _ _ _ hlayout hplain hmatch
      have hfault : ∀ segment ∈ segments, segment.fault? = none := by
        intro segment hsegment
        have htoken : segment.token ∈ format.tokens := hsplits.mem_tokens hsegment
        obtain ⟨token, text⟩ := segment
        cases token with
        | severityPattern text table classifier => exact absurd htoken (hplain text table classifier)
        | severityFixed level =>
            cases level with
            | known severity => rfl
            | unknown word => exact absurd htoken (hlevels word)
        | _ => rfl
      obtain ⟨conforms, hverdict⟩ := exists_verdict hfault
      refine ⟨format.diagnosticOf? segments, ?_, fun other => ⟨?_, ?_⟩⟩
      · rw [@Matcher.apply_eq { format, pattern } _ _ _ _ hmatch hsplits hrecords, hverdict]
        rfl
      -- of two splits that are both the greatest the lengths agree, and so do the splits
      · rintro (⟨hpart, hunsplit⟩ | ⟨hpart, hsplits', hgreatest'⟩) <;>
          rw [isMatchedText_iff] at hpart <;> subst hpart
        · exact absurd hsplits (hunsplit segments)
        · rw [hsplits'.eq_of_lengths hsplits
            ((hgreatest _ hsplits').antisymm (hgreatest' _ hsplits))]
      · rintro rfl
        exact .conforming (isMatchedText_iff.mpr rfl) hsplits hgreatest

def colonFormat : Format where
  tokens := [.filename, .literal ":", .line, .literal ":", .message "message"]
  fallback := .warning
  valid := by decide

theorem colonFormat_reads : ∃ matcher, colonFormat.compile = .ok matcher ∧
    ∀ line : String, ∃ result, matcher.apply line = .ok result ∧
      ∀ other, colonFormat.Reads line.toList other ↔ other = result :=
  colonFormat.exists_matcher_reads (by simp [colonFormat]) (by simp [colonFormat])

/-! ## Formats with a label -/

/-- Of at most one element with a property there are no two. -/
theorem eq_of_countP_le_one {α : Type} {p : α → Bool} {l : List α} {a b : α} (h : l.countP p ≤ 1)
    (ha : a ∈ l) (hb : b ∈ l) (hpa : p a = true) (hpb : p b = true) : a = b := by
  obtain ⟨before, after, rfl⟩ := List.append_of_mem ha
  obtain ⟨hbefore, hafter⟩ := eq_false_of_countP_le_one h hpa
  rcases List.mem_append.mp hb with hb | hb
  · exact absurd hpb (Bool.eq_false_iff.mp (hbefore b hb))
  · rcases List.mem_cons.mp hb with rfl | hb
    · rfl
    · exact absurd hpb (Bool.eq_false_iff.mp (hafter b hb))

/-- A regular label leads over nothing but what its pattern matches alone. -/
theorem Slot.leadsWithin_of_ownTree {slot : Slot}
    (hlabel : ∀ text table classifier, slot.token = .severityPattern text table classifier →
      OwnTree text slot.label ∧ isRegularText text.toList = true) : slot.LeadsWithin MatchesAlone := by
  intro label table classifier htoken t t' text hmem hpass
  obtain ⟨⟨alone, hread, hnode⟩, hwritten⟩ := hlabel label table classifier htoken
  have hregular : alone.node.isRegular = true := (Pattern.read_simple hread hwritten).1.regular
  rw [hnode] at hmem
  have hspells := ((Node.exists_outcome_iff hregular).mp ⟨t', hmem, hpass⟩).2
  exact ⟨alone, hread, (Pattern.fullMatch?_isSome_iff_spells hregular text).mpr hspells⟩

/-- The labels of a format are written regularly and are patterns on their own. -/
def Format.LabelsRegular (format : Format) : Prop :=
  ∀ label table classifier, .severityPattern label table classifier ∈ format.tokens →
    isRegularText label.toList = true ∧ ∃ alone, Pattern.read label.toList = .ok alone

/-- What a pattern matches are the texts that split, and a match reads one of the splits. -/
structure Format.MatchedBy (format : Format) (pattern : Pattern) : Prop where
  isSome_iff : ∀ text, (pattern.fullMatch? text).isSome = true ↔
    ∃ segments, Splits MatchesAlone format.tokens text segments
  reads : ∀ text m, pattern.fullMatch? text = some m →
    ∃ segments, Splits MatchesAlone format.tokens text segments ∧ Records m 0 segments

/-- A format whose labels are regular and whose levels are known can be compiled. -/
theorem Format.exists_matchedBy {format : Format} (hlabels : format.LabelsRegular)
    (hlevels : ∀ word, .severityFixed (.unknown word) ∉ format.tokens) :
    ∃ pattern, format.compile = .ok { format, pattern } ∧ format.MatchedBy pattern := by
  obtain ⟨pattern, slots, hread, hlayout⟩ := exists_layout hlabels
  refine ⟨pattern, compile_eq hlevels hread,
    hlayout.fullMatch?_isSome_iff fun label _ _ h => (hlabels label _ _ h).1, fun text m hmatch => ?_⟩
  refine hlayout.exists_segments (fun slot hslot => ?_) hmatch
  refine Slot.leadsWithin_of_ownTree fun label table classifier htoken =>
    ⟨hlayout.labels slot hslot label table classifier htoken, (hlabels label table classifier ?_).1⟩
  exact htoken ▸ hlayout.mem_tokens hslot

section

variable {format : Format} {pattern : Pattern} {line : String} {segments : List Segment}

/-- A line that does not split has no diagnostic. -/
theorem Matcher.apply_of_unsplit (hmatched : format.MatchedBy pattern)
    (hunsplit : ∀ segments, ¬ Splits MatchesAlone format.tokens (matchedText line.toList) segments) :
    Matcher.apply { format, pattern } line = .ok none := by
  have hnone : pattern.fullMatch? (matchedText line.toList) = none := by
    rw [← Option.not_isSome_iff_eq_none, hmatched.isSome_iff]
    rintro ⟨segments, hsplits⟩
    exact hunsplit segments hsplits
  rw [apply, hnone]

/-- Segments that cause no failure and are not refused make up the diagnostic of their line. -/
theorem Matcher.exists_says {m : Regex.Match}
    (hmatch : pattern.fullMatch? (matchedText line.toList) = some m)
    (hsplits : Splits MatchesAlone format.tokens (matchedText line.toList) segments)
    (hrecords : Records m 0 segments) (hfault : ∀ segment ∈ segments, segment.fault? = none)
    (hrefused : ∀ segment ∈ segments, segment.isRefused = false) :
    ∃ d, Matcher.apply { format, pattern } line = .ok (some d) ∧ format.Says segments d := by
  obtain ⟨conforms, hverdict⟩ := exists_verdict hfault
  obtain ⟨d, hd⟩ := exists_diagnosticOf? format (valid_of_tokens hsplits.tokens) hrefused
  refine ⟨d, ?_, Format.says_of_diagnosticOf? hd⟩
  rw [@Matcher.apply_eq { format, pattern } _ _ _ _ hmatch hsplits hrecords, hverdict]
  exact congrArg Except.ok hd

end

/-- **A format with a label that is written regularly has a matcher.** A line matches if and only if the
part of it that is matched splits, the label taking a text that its pattern matches alone. A match
reads one of the splits, and unless a position in it is refused the diagnostic says what the split says,
with the severity that the label stands for. -/
theorem Format.exists_matcher_labels (format : Format) {label : String} {table : Labels}
    {classifier : Classifier} {alone : Pattern}
    (hlabel : .severityPattern label table classifier ∈ format.tokens)
    (hread : Pattern.read label.toList = .ok alone) (hregular : isRegularText label.toList = true) :
    ∃ matcher, format.compile = .ok matcher ∧
      ∀ (line : String) (text : List Char), IsMatchedText line.toList text →
        ((matcher.pattern.fullMatch? text).isSome = true ↔
          ∃ segments, Splits MatchesAlone format.tokens text segments) ∧
        ∀ m, matcher.pattern.fullMatch? text = some m →
          ∃ segments word, Splits MatchesAlone format.tokens text segments ∧ Records m 0 segments ∧
            ⟨.severityPattern label table classifier, word⟩ ∈ segments ∧
            ∀ severity, severityOfLabel table classifier (String.ofList word) = .ok severity →
              ((∃ segment ∈ segments, segment.isRefused = true) → matcher.apply line = .ok none) ∧
              ((∀ segment ∈ segments, segment.isRefused = false) →
                ∃ d, matcher.apply line = .ok (some d) ∧ format.Says segments d ∧
                  d.severity = severity) := by
  have hvalid := valid_of_layout format.valid
  have honly : ∀ token ∈ format.tokens, token.isSeverity = true →
      token = .severityPattern label table classifier :=
    fun token htoken hdecides => eq_of_countP_le_one hvalid.severity htoken hlabel hdecides rfl
  have hlabels : format.LabelsRegular := by
    intro text table' classifier' hmem
    obtain ⟨rfl, -, -⟩ := Token.severityPattern.inj (honly _ hmem rfl)
    exact ⟨hregular, alone, hread⟩
  obtain ⟨pattern, hcompile, hmatched⟩ := exists_matchedBy hlabels
    fun word hword => by cases honly _ hword rfl
  refine ⟨_, hcompile, fun line text hpart => ?_⟩
  rw [isMatchedText_iff] at hpart
  subst hpart
  refine ⟨hmatched.isSome_iff _, fun m hmatch => ?_⟩
  obtain ⟨segments, hsplits, hrecords⟩ := hmatched.reads _ m hmatch
  obtain ⟨⟨token, word⟩, hword, htoken⟩ := List.mem_map.mp (hsplits.tokens ▸ hlabel)
  obtain rfl : token = .severityPattern label table classifier := htoken
  refine ⟨segments, word, hsplits, hrecords, hword, fun severity hseverity => ?_⟩
  have hvalid' : Valid (segments.map Segment.token) := by
    rw [hsplits.tokens]
    exact hvalid
  have hfault : ∀ segment ∈ segments, segment.fault? = none := by
    intro other hother
    by_cases hdecides : other.token.isSeverity = true
    · have hcount := hvalid'.severity
      rw [List.countP_map] at hcount
      obtain rfl := eq_of_countP_le_one hcount hother hword hdecides rfl
      simp only [Segment.fault?, hseverity]
    · obtain ⟨token, text⟩ := other
      cases token <;> first | rfl | exact absurd rfl hdecides
  refine ⟨fun hrefused => ?_, fun hrefused => ?_⟩
  · obtain ⟨conforms, hverdict⟩ := exists_verdict hfault
    rw [@Matcher.apply_eq { format, pattern } _ _ _ _ hmatch hsplits hrecords, hverdict]
    exact congrArg Except.ok (diagnosticOf?_of_isRefused hvalid' hrefused)
  · obtain ⟨d, happly, hmeaning⟩ := Matcher.exists_says hmatch hsplits hrecords hfault hrefused
    refine ⟨d, happly, hmeaning, ?_⟩
    rw [hmeaning.severity, severityFrom_of_mem hvalid' hword rfl]
    · rfl
    · intro earlier
      rw [Segment.severity?, hseverity]
      rfl

def wordFormat : Format where
  tokens := [.filename, .literal ":", .line, .literal ":",
    .severityPattern "error|warn(?:ing)??" [("warn", .known .warning)] .blanks, .literal ":",
    .message "message"]
  fallback := .info
  valid := by decide

theorem wordFormat_matches : ∃ matcher, wordFormat.compile = .ok matcher ∧
    ∀ (line : String) (text : List Char), IsMatchedText line.toList text →
      ((matcher.pattern.fullMatch? text).isSome = true ↔
        ∃ segments, Splits MatchesAlone wordFormat.tokens text segments) := by
  obtain ⟨alone, hread⟩ : ∃ alone, Pattern.read "error|warn(?:ing)??".toList = .ok alone :=
    exists_of_isSome_toOption (by decide +kernel)
  have hlabel : .severityPattern "error|warn(?:ing)??" [("warn", .known .warning)] .blanks ∈
      wordFormat.tokens := by simp [wordFormat]
  obtain ⟨matcher, hcompile, hmatches⟩ :=
    wordFormat.exists_matcher_labels hlabel hread (by decide +kernel)
  exact ⟨matcher, hcompile, fun line text hpart => (hmatches line text hpart).1⟩

end LintRunner
