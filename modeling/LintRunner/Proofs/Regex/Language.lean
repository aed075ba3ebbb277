import LintRunner.Proofs.Regex.Frame

/-!
# The language of a node

A node is regular if it neither looks around nor refers to captures and every repetition in it may
give back. `Node.Spells` is the language of such a node, without regard to the text around it. The
search is sound and complete for it: the outcomes of a regular node lie exactly behind the texts that it
spells (`Node.exists_outcome_iff`), whatever precedes and follows them, and a whole text is matched
exactly if it is spelled (`Pattern.fullMatch?_isSome_iff_spells`).
-/

set_option autoImplicit false

namespace LintRunner.Regex

namespace Node

/-- Characters, sets, sequences, alternatives, groups and repetitions that may give back, with bounds
that can be met. -/
def isRegular : Node → Bool
  | empty | code .. | set .. | any _ => true
  | cat first second | alt first second => first.isRegular && second.isRegular
  | times greed least most body =>
      greed != .possessive && most.all (least ≤ ·) && body.isRegular
  | capture _ body => body.isRegular
  | _ => false

/-- The texts of a regular node. -/
def Spells : Node → List Char → Prop
  | empty, text => text = []
  | code n negated rule, text => ∃ c, text = [c] ∧ codeAccepts n negated rule c = true
  | set members negated rule, text => ∃ c, text = [c] ∧ setAccepts members negated rule c = true
  | any newline, text => ∃ c, text = [c] ∧ (newline || c != '\n') = true
  | cat first second, text => ∃ a b, text = a ++ b ∧ first.Spells a ∧ second.Spells b
  | alt first second, text => first.Spells text ∨ second.Spells text
  | times _ least most body, text => ∃ rounds : List (List Char), text = rounds.flatten
      ∧ least ≤ rounds.length ∧ Within most rounds.length ∧ ∀ round ∈ rounds, body.Spells round
  | capture _ body, text => body.Spells text
  | _, _ => False

/-- A node that stands for a class of characters spells the characters of that class. -/
theorem spells_of_single {n : Node} {accepts : Char → Bool} (h : n.single? = some accepts)
    {text : List Char} : n.Spells text ↔ ∃ c, text = [c] ∧ accepts c = true := by
  fun_induction single? n generalizing text with
  | case1 n negated rule => injection h with h; subst h; rfl
  | case2 members negated rule => injection h with h; subst h; rfl
  | case3 newline => injection h with h; subst h; rfl
  | case4 first ih =>
      rw [Spells]
      constructor
      · rintro ⟨a, b, rfl, ha, rfl⟩
        rw [List.append_nil]
        exact (ih h).mp ha
      · intro htext
        exact ⟨text, [], by simp, (ih h).mpr htext, rfl⟩
  | case5 => cases h

end Node

/-! ## Repetitions -/

section

variable {outcomes : Trail → List Trail} {spells : List Char → Prop}

/-- Where a repetition ends, rounds lie behind it, as many as the bounds allow. -/
theorem greedyOutcomes_sound
    (hbody : ∀ t, ∀ t' ∈ outcomes t, ∃ round, spells round ∧ t.place.Passes round t'.place)
    {least : Nat} {most : Option Nat} (hbounds : Within most least) {fuel count : Nat}
    {last : Option Nat} {t t' : Trail} (hcount : Within most count)
    (h : t' ∈ greedyOutcomes outcomes least most fuel count last t) :
    ∃ rounds : List (List Char), t.place.Passes rounds.flatten t'.place
      ∧ least ≤ count + rounds.length ∧ Within most (count + rounds.length)
      ∧ ∀ round ∈ rounds, spells round := by
  induction fuel generalizing count last t with
  | zero => cases h
  | succ fuel ih =>
      -- the two ways on: one more round, whatever the place of the last one was, or the end of the repetition
      have hround : ∀ last', Within most (count + 1) →
          t' ∈ (outcomes t).flatMap
            (greedyOutcomes outcomes least most fuel (count + 1) last') →
          ∃ rounds : List (List Char), t.place.Passes rounds.flatten t'.place
            ∧ least ≤ count + rounds.length ∧ Within most (count + rounds.length)
            ∧ ∀ round ∈ rounds, spells round := by
        intro last' hnext h
        obtain ⟨u, hu, h⟩ := List.mem_flatMap.mp h
        obtain ⟨round, hspells, hpass⟩ := hbody t u hu
        obtain ⟨rounds, hpass', hleast, hmost, hall⟩ := ih hnext h
        refine ⟨round :: rounds, hpass.trans hpass', ?_, ?_, ?_⟩
        · rw [List.length_cons]; omega
        · rwa [List.length_cons, show count + (rounds.length + 1) = count + 1 + rounds.length by omega]
        · intro r hr
          rcases List.mem_cons.mp hr with rfl | hr
          · exact hspells
          · exact hall r hr
      have hstop : least ≤ count → ∃ rounds : List (List Char),
          t.place.Passes rounds.flatten t.place ∧ least ≤ count + rounds.length
            ∧ Within most (count + rounds.length) ∧ ∀ round ∈ rounds, spells round :=
        fun hleast => ⟨[], Place.Passes.refl _, hleast, hcount, by simp⟩
      rw [greedyOutcomes] at h
      split at h
      · rename_i hlt
        exact hround last (fun m hm => Nat.le_trans hlt (hbounds m hm)) h
      · rename_i hge
        have hleast : least ≤ count := Nat.le_of_not_lt hge
        split at h
        · rename_i hgo
          rw [Bool.and_eq_true] at hgo
          rcases List.mem_append.mp h with h | h
          · exact hround _ (within_succ_of_below.mp hgo.1) h
          · rw [List.mem_singleton.mp h]
            exact hstop hleast
        · rw [List.mem_singleton.mp h]
          exact hstop hleast

/-- Rounds can be taken if those beyond the required ones move on. -/
theorem greedyOutcomes_complete
    (hbody : ∀ (t : Trail) (round rest : List Char), spells round →
      t.place.after = round ++ rest → ∃ t' ∈ outcomes t, t.place.Passes round t'.place)
    {least : Nat} {most : Option Nat} {fuel count : Nat} {last : Option Nat} {t : Trail}
    {rounds : List (List Char)} {rest : List Char} (hafter : t.place.after = rounds.flatten ++ rest)
    (hall : ∀ round ∈ rounds, spells round) (hleast : least ≤ count + rounds.length)
    (hmost : Within most (count + rounds.length)) (hfuel : rounds.length < fuel)
    (hmoves : ∀ round ∈ rounds.drop (least - count), round ≠ [])
    (hlast : ∀ o, last = some o → o < t.place.offset) :
    ∃ t' ∈ greedyOutcomes outcomes least most fuel count last t,
      t.place.Passes rounds.flatten t'.place := by
  induction rounds generalizing fuel count last t with
  | nil =>
      obtain ⟨fuel, rfl⟩ := Nat.exists_eq_succ_of_ne_zero (Nat.ne_of_gt hfuel)
      refine ⟨t, ?_, Place.Passes.refl _⟩
      rw [greedyOutcomes, if_neg (by simpa using hleast)]
      split
      · exact List.mem_append_right _ (List.mem_singleton_self t)
      · exact List.mem_singleton_self t
  | cons round rounds ih =>
      obtain ⟨fuel, rfl⟩ := Nat.exists_eq_succ_of_ne_zero (Nat.ne_of_gt (Nat.zero_lt_of_lt hfuel))
      rw [List.length_cons] at hleast hmost hfuel
      obtain ⟨u, hu, hpass⟩ := hbody t round (rounds.flatten ++ rest)
        (hall round List.mem_cons_self) (by rw [hafter, List.flatten_cons, List.append_assoc])
      have hafter' : u.place.after = rounds.flatten ++ rest := by
        have h := hpass.after.symm.trans hafter
        rw [List.flatten_cons, List.append_assoc] at h
        exact List.append_cancel_left h
      -- one round leads to `u`, from where the others can be taken
      have hnext : ∀ last', (∀ o, last' = some o → o < u.place.offset) →
          (∀ r ∈ rounds.drop (least - (count + 1)), r ≠ []) →
          ∃ t' ∈ (outcomes t).flatMap (greedyOutcomes outcomes least most fuel (count + 1) last'),
            t.place.Passes (round :: rounds).flatten t'.place := by
        intro last' hlast' hmoves'
        obtain ⟨t', ht', hpass'⟩ := ih hafter' (fun r hr => hall r (List.mem_cons_of_mem _ hr))
          (show least ≤ count + 1 + rounds.length by omega)
          (show Within most (count + 1 + rounds.length) by
            rwa [show count + 1 + rounds.length = count + (rounds.length + 1) by omega])
          (show rounds.length < fuel by omega) hmoves' hlast'
        exact ⟨t', List.mem_flatMap.mpr ⟨u, hu, ht'⟩, hpass.trans hpass'⟩
      rw [greedyOutcomes]
      by_cases hrequired : count < least
      · rw [if_pos hrequired]
        refine hnext last ?_ ?_
        · intro o ho
          rw [hpass.offset]
          exact Nat.lt_of_lt_of_le (hlast o ho) (Nat.le_add_right _ _)
        · rwa [show least - count = least - (count + 1) + 1 by omega, List.drop_succ_cons] at hmoves
      · -- a round beyond the required ones is tried, since the round before it has moved on
        have hdrop : least - count = 0 := by omega
        rw [hdrop, List.drop_zero] at hmoves
        have hbelow : Place.below most count = true :=
          within_succ_of_below.mpr fun m hm => by have := hmost m hm; omega
        have hfresh : (last != some t.place.offset) = true := by
          rw [bne_iff_ne]
          intro h
          exact Nat.lt_irrefl _ (hlast _ h)
        rw [if_neg hrequired, if_pos (by rw [hbelow, hfresh]; rfl)]
        have hlen : 0 < round.length := List.length_pos_iff.mpr (hmoves round List.mem_cons_self)
        obtain ⟨t', ht', hpass'⟩ := hnext (some t.place.offset)
          (by rintro _ ⟨⟩; rw [hpass.offset]; omega)
          (fun r hr => hmoves r (List.mem_cons_of_mem _ (List.mem_of_mem_drop hr)))
        exact ⟨t', List.mem_append_left _ ht', hpass'⟩

/-- Of the rounds beyond the required ones the empty ones can be left out. -/
theorem exists_moving_rounds {least : Nat} {rounds : List (List Char)}
    (hleast : least ≤ rounds.length) :
    ∃ rounds' : List (List Char), rounds'.flatten = rounds.flatten ∧ least ≤ rounds'.length
      ∧ rounds'.length ≤ rounds.length ∧ (∀ round ∈ rounds', round ∈ rounds)
      ∧ ∀ round ∈ rounds'.drop least, round ≠ [] := by
  let kept := (rounds.drop least).filter fun round => !round.isEmpty
  have htake : (rounds.take least).length = least := by rw [List.length_take]; omega
  have hkept : kept.flatten = (rounds.drop least).flatten := by
    show ((rounds.drop least).filter _).flatten = _
    induction rounds.drop least with
    | nil => rfl
    | cons round rest ih => cases round <;> simp [ih]
  -- the required rounds stay, whether they are empty or not
  refine ⟨rounds.take least ++ kept, ?_, ?_, ?_, ?_, ?_⟩
  · rw [List.flatten_append, hkept, ← List.flatten_append, List.take_append_drop]
  · rw [List.length_append]; omega
  · have hle : kept.length ≤ (rounds.drop least).length := List.length_filter_le _ _
    rw [List.length_drop] at hle
    rw [List.length_append]; omega
  · intro round h
    rcases List.mem_append.mp h with h | h
    · exact List.mem_of_mem_take h
    · exact List.mem_of_mem_drop (List.mem_filter.mp h).1
  · intro round h
    have hdrop : (rounds.take least ++ kept).drop least = kept := by
      rw [List.drop_append_of_le_length (by omega), List.drop_of_length_le (by omega)]
      rfl
    rw [hdrop] at h
    simpa using (List.mem_filter.mp h).2

/-- A list of texts that are not empty is no longer than the texts together. -/
theorem length_le_flatten {rounds : List (List Char)} (h : ∀ round ∈ rounds, round ≠ []) :
    rounds.length ≤ rounds.flatten.length := by
  induction rounds with
  | nil => exact Nat.le_refl _
  | cons round rounds ih =>
      have hlen : 0 < round.length := List.length_pos_iff.mpr (h round List.mem_cons_self)
      have hrest := ih fun r hr => h r (List.mem_cons_of_mem _ hr)
      rw [List.length_cons, List.flatten_cons, List.length_append]
      omega

/-- **A repetition that may give back ends exactly behind the admissible numbers of rounds.** -/
theorem exists_mem_repeatBodyOutcomes
    (hsound : ∀ t, ∀ t' ∈ outcomes t, ∃ round, spells round ∧ t.place.Passes round t'.place)
    (hcomplete : ∀ (t : Trail) (round rest : List Char), spells round →
      t.place.after = round ++ rest → ∃ t' ∈ outcomes t, t.place.Passes round t'.place)
    {greed : Greed} (hgreed : greed ≠ .possessive) {least : Nat} {most : Option Nat}
    (hbounds : Within most least) {t : Trail} {seg : List Char} :
    (∃ t' ∈ repeatBodyOutcomes greed least most outcomes t, t.place.Passes seg t'.place)
      ↔ seg <+: t.place.after ∧ ∃ rounds : List (List Char), seg = rounds.flatten
          ∧ least ≤ rounds.length ∧ Within most rounds.length ∧ ∀ round ∈ rounds, spells round := by
  have hgreedy : ∀ t' : Trail, t' ∈ repeatBodyOutcomes greed least most outcomes t
      ↔ t' ∈ greedyOutcomes outcomes least most (least + t.place.after.length + 3) 0 none t := by
    intro t'
    cases greed with
    | greedy => rfl
    | lazy => exact mem_lazyOutcomes
    | possessive => exact absurd rfl hgreed
  have hzero : Within most 0 := fun _ _ => Nat.zero_le _
  constructor
  · rintro ⟨t', ht', hpass⟩
    obtain ⟨rounds, hpass', hleast, hmost, hall⟩ :=
      greedyOutcomes_sound hsound hbounds hzero ((hgreedy t').mp ht')
    rw [Nat.zero_add] at hleast hmost
    exact ⟨⟨_, hpass.after.symm⟩, rounds, hpass.seg_eq hpass', hleast, hmost, hall⟩
  · rintro ⟨⟨rest, hrest⟩, rounds, rfl, hleast, hmost, hall⟩
    obtain ⟨rounds', hflat, hleast', hle, hsub, hmoves⟩ := exists_moving_rounds hleast
    -- rounds that move on use up the text, so that the fuel of the search is enough for them
    have hlen : rounds'.length ≤ least + t.place.after.length := by
      have hdrop := length_le_flatten hmoves
      have hsplit : rounds'.flatten.length
          = (rounds'.take least).flatten.length + (rounds'.drop least).flatten.length := by
        rw [← List.length_append, ← List.flatten_append, List.take_append_drop]
      have hafter : t.place.after.length = rounds'.flatten.length + rest.length := by
        rw [← hrest, List.length_append, hflat]
      rw [List.length_drop] at hdrop
      omega
    have hmost' : Within most (0 + rounds'.length) := fun m hm => by
      have := hmost m hm
      omega
    obtain ⟨t', ht', hpass⟩ : ∃ t' ∈ greedyOutcomes outcomes least most
          (least + t.place.after.length + 3) 0 none t, t.place.Passes rounds'.flatten t'.place :=
      greedyOutcomes_complete hcomplete (by rw [hflat]; exact hrest.symm)
        (fun r hr => hall r (hsub r hr)) (by omega) hmost' (by omega) (by simpa using hmoves)
        (by simp)
    exact ⟨t', (hgreedy t').mpr ht', by rwa [hflat] at hpass⟩

end

/-! ## All regular nodes -/

theorem exists_advance_iff {accepts : Char → Bool} {t : Trail} {seg : List Char} :
    (∃ t' ∈ advanceOutcomes accepts t, t.place.Passes seg t'.place)
      ↔ seg <+: t.place.after ∧ ∃ c, seg = [c] ∧ accepts c = true := by
  constructor
  · rintro ⟨t', ht', hpass⟩
    obtain ⟨c, hc, hpass', -⟩ := mem_advanceOutcomes.mp ht'
    exact ⟨⟨_, hpass.after.symm⟩, c, hpass.seg_eq hpass', hc⟩
  · rintro ⟨⟨rest, hrest⟩, c, rfl, hc⟩
    obtain ⟨p, hpass, -⟩ := Place.exists_passes hrest.symm
    exact ⟨{ t with place := p }, mem_advanceOutcomes.mpr ⟨c, hc, hpass, rfl⟩, hpass⟩

/-- Rounds of a class of characters are single characters of that class. -/
theorem rounds_of_single {n : Node} {accepts : Char → Bool} (h : n.single? = some accepts)
    {rounds : List (List Char)} (hall : ∀ round ∈ rounds, n.Spells round) :
    rounds.flatten.length = rounds.length ∧ ∀ c ∈ rounds.flatten, accepts c = true := by
  induction rounds with
  | nil => simp
  | cons round rounds ih =>
      obtain ⟨c, rfl, hc⟩ := (Node.spells_of_single h).mp (hall round List.mem_cons_self)
      obtain ⟨hlen, hall'⟩ := ih fun r hr => hall r (List.mem_cons_of_mem _ hr)
      refine ⟨by simp [hlen], fun d hd => ?_⟩
      rw [List.flatten_cons, List.singleton_append, List.mem_cons] at hd
      rcases hd with rfl | hd
      · exact hc
      · exact hall' d hd

/-- A repeated class of characters that may give back ends exactly behind the admissible numbers of
its rounds. -/
theorem exists_mem_repeatOneOutcomes {n : Node} {accepts : Char → Bool}
    (hsingle : n.single? = some accepts) {greed : Greed} (hgreed : greed ≠ .possessive) {least : Nat}
    {most : Option Nat} (hbounds : Within most least) {t : Trail} {seg : List Char} :
    (∃ t' ∈ repeatOneOutcomes greed least most accepts t, t.place.Passes seg t'.place)
      ↔ seg <+: t.place.after ∧ ∃ rounds : List (List Char), seg = rounds.flatten
          ∧ least ≤ rounds.length ∧ Within most rounds.length ∧ ∀ round ∈ rounds, n.Spells round := by
  constructor
  · rintro ⟨t', ht', hpass⟩
    obtain ⟨seg', hall, hleast, hmost, hpass', -⟩ := (mem_repeatOneOutcomes hgreed hbounds).mp ht'
    obtain rfl := hpass.seg_eq hpass'
    -- every character that is passed over is a round of its own
    refine ⟨⟨_, hpass.after.symm⟩, seg.map ([·]), ?_, by simpa, by simpa, ?_⟩
    · rw [List.flatten_eq_flatMap, List.flatMap_map]
      simp
    · intro round hround
      obtain ⟨c, hc, rfl⟩ := List.mem_map.mp hround
      exact (Node.spells_of_single hsingle).mpr ⟨c, rfl, hall c hc⟩
  · rintro ⟨⟨rest, hrest⟩, rounds, rfl, hleast, hmost, hall⟩
    obtain ⟨hlen, hall'⟩ := rounds_of_single hsingle hall
    obtain ⟨p, hpass, -⟩ := Place.exists_passes hrest.symm
    refine ⟨{ t with place := p }, ?_, hpass⟩
    exact (mem_repeatOneOutcomes hgreed hbounds).mpr
      ⟨_, hall', by rwa [hlen], by rwa [hlen], hpass, rfl⟩

/-- **The outcomes of a regular node lie exactly behind the texts that it spells.** -/
theorem Node.exists_outcome_iff {n : Node} (hregular : n.isRegular = true) {t : Trail}
    {seg : List Char} :
    (∃ t' ∈ n.outcomes t, t.place.Passes seg t'.place) ↔ seg <+: t.place.after ∧ n.Spells seg := by
  induction n generalizing t seg with
  | empty =>
      constructor
      · rintro ⟨t', ht', hpass⟩
        rw [List.mem_singleton.mp ht'] at hpass
        obtain rfl := hpass.seg_eq (Place.Passes.refl _)
        exact ⟨List.nil_prefix, rfl⟩
      · rintro ⟨-, rfl⟩
        exact ⟨t, List.mem_singleton_self t, Place.Passes.refl _⟩
  | code n negated rule => exact exists_advance_iff
  | set members negated rule => exact exists_advance_iff
  | any newline => exact exists_advance_iff
  | cat first second ih₁ ih₂ =>
      rw [isRegular, Bool.and_eq_true] at hregular
      constructor
      · rintro ⟨t', ht', hpass⟩
        obtain ⟨u, hu, ht'⟩ := List.mem_flatMap.mp ht'
        obtain ⟨a, ha⟩ := outcomes_passes hu
        obtain ⟨b, hb⟩ := outcomes_passes ht'
        exact ⟨⟨_, hpass.after.symm⟩, a, b, hpass.seg_eq (ha.trans hb),
          ((ih₁ hregular.1).mp ⟨u, hu, ha⟩).2, ((ih₂ hregular.2).mp ⟨t', ht', hb⟩).2⟩
      · rintro ⟨⟨rest, hrest⟩, a, b, rfl, ha, hb⟩
        rw [List.append_assoc] at hrest
        obtain ⟨u, hu, hpass⟩ := (ih₁ hregular.1).mpr ⟨⟨_, hrest⟩, ha⟩
        -- `first` leads behind its part, where the part of `second` follows
        have hafter : b ++ rest = u.place.after :=
          List.append_cancel_left (hrest.trans hpass.after)
        obtain ⟨t', ht', hpass'⟩ := (ih₂ hregular.2).mpr ⟨⟨_, hafter⟩, hb⟩
        exact ⟨t', List.mem_flatMap.mpr ⟨u, hu, ht'⟩, hpass.trans hpass'⟩
  | alt first second ih₁ ih₂ =>
      rw [isRegular, Bool.and_eq_true] at hregular
      simp only [outcomes, List.mem_append, or_and_right, exists_or, ih₁ hregular.1,
        ih₂ hregular.2, Spells, and_or_left]
  | times greed least most body ih =>
      rw [isRegular, Bool.and_eq_true, Bool.and_eq_true] at hregular
      obtain ⟨⟨hgreed, hbounds⟩, hbody⟩ := hregular
      have hgreed' : greed ≠ .possessive := by simpa using hgreed
      have hbounds' : Within most least := by
        rintro m rfl
        simpa using hbounds
      rw [outcomes]
      cases hsingle : body.single? with
      | none =>
          refine exists_mem_repeatBodyOutcomes (fun u u' hu => ?_) (fun u round rest hround hrest => ?_)
            hgreed' hbounds'
          · obtain ⟨round, hpass⟩ := outcomes_passes hu
            exact ⟨round, ((ih hbody).mp ⟨u', hu, hpass⟩).2, hpass⟩
          · exact (ih hbody).mpr ⟨⟨rest, hrest.symm⟩, hround⟩
      | some accepts => exact exists_mem_repeatOneOutcomes hsingle hgreed' hbounds'
  | capture group body ih =>
      rw [isRegular] at hregular
      -- the captures that are noted on the way do not move the place
      have hbody := @ih hregular
        { t with captures := t.captures.setStart group t.place.offset } seg
      constructor
      · rintro ⟨t', ht', hpass⟩
        obtain ⟨u, hu, rfl⟩ := List.mem_map.mp ht'
        exact hbody.mp ⟨u, hu, hpass⟩
      · intro h
        obtain ⟨u, hu, hpass⟩ := hbody.mpr h
        exact ⟨_, List.mem_map.mpr ⟨u, hu, rfl⟩, hpass⟩
  | anchor | atomic | ahead | behind | same | given => cases hregular

/-- **A regular pattern matches a whole text exactly if it spells it.** -/
theorem Pattern.fullMatch?_isSome_iff_spells {pattern : Pattern}
    (hregular : pattern.node.isRegular = true) (cs : List Char) :
    (pattern.fullMatch? cs).isSome ↔ pattern.node.Spells cs := by
  rw [fullMatch?_isSome]
  have hiff := @Node.exists_outcome_iff _ hregular ⟨Place.start cs, {}⟩ cs
  constructor
  · rintro ⟨t, ht, hend⟩
    obtain ⟨seg, hpass⟩ := Node.outcomes_passes ht
    have hseg : cs = seg := by simpa [Place.start, hend] using hpass.after
    exact (hiff.mp ⟨t, ht, hseg ▸ hpass⟩).2
  · intro h
    obtain ⟨t, ht, hpass⟩ := hiff.mpr ⟨List.prefix_refl _, h⟩
    refine ⟨t, ht, ?_⟩
    have hafter : cs = cs ++ t.place.after := hpass.after
    simpa using hafter

end LintRunner.Regex
