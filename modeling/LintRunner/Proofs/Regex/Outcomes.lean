import LintRunner.Regex.Search

/-!
# The outcomes of a node

`Node.outcomes` lists the trails on which a node can end when it starts on a given trail, the
preferred one first. `Node.search_eq_findSome?` says that the search of a node is the first success
of what follows among these outcomes. So a question about the search with its continuations becomes
a question about a list.
-/

set_option autoImplicit false

namespace LintRunner.Regex

/-- Backtracking over two stages is backtracking over the joined list. -/
theorem findSome?_flatMap {α β γ : Type} (f : α → List β) (k : β → Option γ) (l : List α) :
    (l.flatMap f).findSome? k = l.findSome? fun a => (f a).findSome? k := by
  induction l with
  | nil => rfl
  | cons a l ih =>
      rw [List.flatMap_cons, List.findSome?_append, ih, List.findSome?_cons]
      cases (f a).findSome? k <;> rfl

/-- The search that accepts at once returns the first outcome. -/
theorem findSome?_some {α : Type} (l : List α) : l.findSome? some = l.head? := by
  cases l <;> rfl

/-! ## Repetitions of one character -/

def retreatOutcomes (caps : Captures) : Nat → Place → List Trail
  | 0, p => [⟨p, caps⟩]
  | n + 1, p => ⟨p, caps⟩ :: retreatOutcomes caps n p.back

def extendOutcomes (accepts : Char → Bool) (most : Option Nat) (caps : Captures) :
    List Char → Nat → Nat → List Char → List Trail
  | before, offset, _, [] => [⟨⟨before, [], offset⟩, caps⟩]
  | before, offset, count, c :: after =>
      ⟨⟨before, c :: after, offset⟩, caps⟩ ::
        if Place.below most count && accepts c then
          extendOutcomes accepts most caps (c :: before) (offset + 1) (count + 1) after
        else []

def repeatOneOutcomes (greed : Greed) (least : Nat) (most : Option Nat) (accepts : Char → Bool)
    (t : Trail) : List Trail :=
  let run := fun limit =>
    Place.advanceWhile accepts limit t.place.before t.place.offset 0 t.place.after
  match greed with
  | .greedy =>
      if (run most).2 < least then []
      else retreatOutcomes t.captures ((run most).2 - least) (run most).1
  | .possessive => if (run most).2 < least then [] else [⟨(run most).1, t.captures⟩]
  | .lazy =>
      let reached := run (some least)
      if reached.2 < least then []
      else extendOutcomes accepts most t.captures reached.1.before reached.1.offset reached.2
        reached.1.after

theorem retreat_eq_findSome? (k : Next) (caps : Captures) (n : Nat) (p : Place) :
    retreat k caps n p = (retreatOutcomes caps n p).findSome? k := by
  induction n generalizing p with
  | zero =>
      show k ⟨p, caps⟩ = _
      rw [retreatOutcomes, List.findSome?_singleton]
  | succ n ih =>
      rw [retreat, retreatOutcomes, List.findSome?_cons, ih]
      cases k ⟨p, caps⟩ <;> rfl

theorem extend_eq_findSome? (accepts : Char → Bool) (most : Option Nat) (k : Next)
    (caps : Captures) (before : List Char) (offset count : Nat) (after : List Char) :
    extend accepts most k caps before offset count after
      = (extendOutcomes accepts most caps before offset count after).findSome? k := by
  induction after generalizing before offset count with
  | nil => rw [extend, extendOutcomes, List.findSome?_singleton]
  | cons c after ih =>
      rw [extend, extendOutcomes, List.findSome?_cons]
      cases k ⟨⟨before, c :: after, offset⟩, caps⟩ with
      | some result => rfl
      | none =>
          by_cases h : (Place.below most count && accepts c) = true
          · simp only [h, if_true]
            exact ih (c :: before) (offset + 1) (count + 1)
          · simp only [h]
            rfl

theorem repeatOne_eq_findSome? (greed : Greed) (least : Nat) (most : Option Nat)
    (accepts : Char → Bool) (k : Next) (t : Trail) :
    repeatOne greed least most accepts k t
      = (repeatOneOutcomes greed least most accepts t).findSome? k := by
  cases greed with
  | greedy =>
      simp only [repeatOne, repeatOneOutcomes]
      split
      · rfl
      · exact retreat_eq_findSome? k t.captures _ _
  | possessive =>
      simp only [repeatOne, repeatOneOutcomes]
      split
      · rfl
      · rw [List.findSome?_singleton]
  | lazy =>
      simp only [repeatOne, repeatOneOutcomes]
      split
      · rfl
      · exact extend_eq_findSome? accepts most k t.captures _ _ _ _

/-! ## Repetitions of a pattern -/

def greedyOutcomes (body : Trail → List Trail) (least : Nat) (most : Option Nat) :
    Nat → Nat → Option Nat → Trail → List Trail
  | 0, _, _, _ => []
  | fuel + 1, count, last, t =>
      if count < least then (body t).flatMap (greedyOutcomes body least most fuel (count + 1) last)
      else if Place.below most count && last != some t.place.offset then
        (body t).flatMap (greedyOutcomes body least most fuel (count + 1) (some t.place.offset))
          ++ [t]
      else [t]

def lazyOutcomes (body : Trail → List Trail) (least : Nat) (most : Option Nat) :
    Nat → Nat → Option Nat → Trail → List Trail
  | 0, _, _, _ => []
  | fuel + 1, count, last, t =>
      if count < least then (body t).flatMap (lazyOutcomes body least most fuel (count + 1) last)
      else
        t :: if Place.below most count && last != some t.place.offset then
          (body t).flatMap (lazyOutcomes body least most fuel (count + 1) (some t.place.offset))
        else []

def possessiveOutcomes (body : Trail → List Trail) (least : Nat) (most : Option Nat) :
    Nat → Nat → Option Nat → Trail → List Trail
  | 0, _, _, _ => []
  | fuel + 1, count, last, t =>
      if count < least then
        (body t).head?.toList.flatMap (possessiveOutcomes body least most fuel (count + 1) last)
      else if Place.below most count && last != some t.place.offset then
        match (body t).head? with
        | some t' => possessiveOutcomes body least most fuel (count + 1) (some t.place.offset) t'
        | none => [t]
      else [t]

def repeatBodyOutcomes (greed : Greed) (least : Nat) (most : Option Nat)
    (body : Trail → List Trail) (t : Trail) : List Trail :=
  let fuel := least + t.place.after.length + 3
  match greed with
  | .greedy => greedyOutcomes body least most fuel 0 none t
  | .lazy => lazyOutcomes body least most fuel 0 none t
  | .possessive => possessiveOutcomes body least most fuel 0 none t

section

variable {body : Next → Next} {outcomes : Trail → List Trail}

theorem repeatGreedy_eq_findSome? (hbody : ∀ k t, body k t = (outcomes t).findSome? k)
    (least : Nat) (most : Option Nat) (k : Next) (fuel count : Nat) (last : Option Nat)
    (t : Trail) :
    repeatGreedy body least most k fuel count last t
      = (greedyOutcomes outcomes least most fuel count last t).findSome? k := by
  induction fuel generalizing count last t with
  | zero => rfl
  | succ fuel ih =>
      have hround : ∀ last', body (repeatGreedy body least most k fuel (count + 1) last') t
          = ((outcomes t).flatMap
              (greedyOutcomes outcomes least most fuel (count + 1) last')).findSome? k := by
        intro last'
        rw [hbody, findSome?_flatMap]
        congr 1
        funext t'
        exact ih (count + 1) last' t'
      rw [repeatGreedy, greedyOutcomes]
      split
      · exact hround last
      · split
        · rw [hround, List.findSome?_append, List.findSome?_singleton]
          cases List.findSome? k _ <;> rfl
        · rw [List.findSome?_singleton]

theorem repeatLazy_eq_findSome? (hbody : ∀ k t, body k t = (outcomes t).findSome? k)
    (least : Nat) (most : Option Nat) (k : Next) (fuel count : Nat) (last : Option Nat)
    (t : Trail) :
    repeatLazy body least most k fuel count last t
      = (lazyOutcomes outcomes least most fuel count last t).findSome? k := by
  induction fuel generalizing count last t with
  | zero => rfl
  | succ fuel ih =>
      have hround : ∀ last', body (repeatLazy body least most k fuel (count + 1) last') t
          = ((outcomes t).flatMap
              (lazyOutcomes outcomes least most fuel (count + 1) last')).findSome? k := by
        intro last'
        rw [hbody, findSome?_flatMap]
        congr 1
        funext t'
        exact ih (count + 1) last' t'
      rw [repeatLazy, lazyOutcomes]
      split
      · exact hround last
      · rw [List.findSome?_cons]
        cases k t with
        | some result => rfl
        | none =>
            -- what follows has failed here, so that one more round is tried
            show (if _ then _ else none) = _
            split
            · exact hround _
            · rfl

theorem repeatPossessive_eq_findSome? (hbody : ∀ k t, body k t = (outcomes t).findSome? k)
    (least : Nat) (most : Option Nat) (k : Next) (fuel count : Nat) (last : Option Nat)
    (t : Trail) :
    repeatPossessive body least most k fuel count last t
      = (possessiveOutcomes outcomes least most fuel count last t).findSome? k := by
  induction fuel generalizing count last t with
  | zero => rfl
  | succ fuel ih =>
      have hfirst : body some t = (outcomes t).head? := by rw [hbody, findSome?_some]
      rw [repeatPossessive, possessiveOutcomes, hfirst]
      cases (outcomes t).head? with
      | none =>
          show (if _ then none else if _ then k t else k t) = _
          split
          · rfl
          · split <;> rw [List.findSome?_singleton]
      | some t' =>
          simp only [Option.toList_some, List.flatMap_cons, List.flatMap_nil, List.append_nil]
          split
          · exact ih (count + 1) last t'
          · split
            · exact ih (count + 1) (some t.place.offset) t'
            · rw [List.findSome?_singleton]

theorem repeatBody_eq_findSome? (hbody : ∀ k t, body k t = (outcomes t).findSome? k)
    (greed : Greed) (least : Nat) (most : Option Nat) (k : Next) (t : Trail) :
    repeatBody greed least most body k t
      = (repeatBodyOutcomes greed least most outcomes t).findSome? k := by
  cases greed with
  | greedy => exact repeatGreedy_eq_findSome? hbody least most k _ 0 none t
  | lazy => exact repeatLazy_eq_findSome? hbody least most k _ 0 none t
  | possessive => exact repeatPossessive_eq_findSome? hbody least most k _ 0 none t

end

/-! ## All nodes -/

def advanceOutcomes (accepts : Char → Bool) (t : Trail) : List Trail :=
  match t.place.advance? accepts with
  | some p => [{ t with place := p }]
  | none => []

/-- The trails on which a node can end, the preferred one first. -/
def Node.outcomes : Node → Trail → List Trail
  | .empty, t => [t]
  | .code n negated rule, t => advanceOutcomes (codeAccepts n negated rule) t
  | .set members negated rule, t => advanceOutcomes (setAccepts members negated rule) t
  | .any newline, t => advanceOutcomes (fun c => newline || c != '\n') t
  | .anchor a, t => if t.place.satisfies a then [t] else []
  | .cat first second, t => (first.outcomes t).flatMap second.outcomes
  | .alt first second, t => first.outcomes t ++ second.outcomes t
  | .times greed least most body, t =>
      match body.single? with
      | some accepts => repeatOneOutcomes greed least most accepts t
      | none => repeatBodyOutcomes greed least most body.outcomes t
  | .capture group body, t =>
      (body.outcomes { t with captures := t.captures.setStart group t.place.offset }).map
        fun t' => { t' with captures := t'.captures.setStop group t'.place.offset }
  | .atomic body, t => (body.outcomes t).head?.toList
  | .ahead negated body, t =>
      match (body.outcomes t).head? with
      | some t' => if negated then [] else [{ t with captures := t'.captures }]
      | none => if negated then [t] else []
  | .behind width negated body, t =>
      if t.place.offset < width then (if negated then [t] else [])
      else
        match (body.outcomes { t with place := t.place.backBy width }).head? with
        | some t' => if negated then [] else [{ t with captures := t'.captures }]
        | none => if negated then [t] else []
  | .same group rule, t =>
      match t.captures.span? group with
      | none => []
      | some (start, stop) =>
          match repeatSpan rule (t.place.slice start stop) t.place with
          | some p => [{ t with place := p }]
          | none => []
  | .given group yes no, t =>
      if (t.captures.span? group).isSome then yes.outcomes t else no.outcomes t

theorem advance_eq_findSome? (accepts : Char → Bool) (k : Next) (t : Trail) :
    (match t.place.advance? accepts with
      | some p => k { t with place := p }
      | none => none) = (advanceOutcomes accepts t).findSome? k := by
  rw [advanceOutcomes]
  cases t.place.advance? accepts with
  | none => rfl
  | some p => rw [List.findSome?_singleton]

/-- **The search is the first success among the outcomes.** -/
theorem Node.search_eq_findSome? (n : Node) (k : Next) (t : Trail) :
    n.search k t = (n.outcomes t).findSome? k := by
  induction n generalizing k t with
  | empty => rw [search, outcomes, List.findSome?_singleton]
  | code n negated rule => exact advance_eq_findSome? _ k t
  | set members negated rule => exact advance_eq_findSome? _ k t
  | any newline => exact advance_eq_findSome? _ k t
  | anchor a =>
      rw [search, outcomes]
      split
      · rw [List.findSome?_singleton]
      · rfl
  | cat first second ih₁ ih₂ =>
      rw [search, outcomes, findSome?_flatMap, ih₁]
      congr 1
      funext t'
      exact ih₂ k t'
  | alt first second ih₁ ih₂ =>
      rw [search, outcomes, List.findSome?_append, ih₁, ih₂]
      cases (first.outcomes t).findSome? k <;> rfl
  | times greed least most body ih =>
      rw [search, outcomes]
      cases body.single? with
      | some accepts => exact repeatOne_eq_findSome? greed least most accepts k t
      | none => exact repeatBody_eq_findSome? ih greed least most k t
  | capture group body ih =>
      rw [search, outcomes, List.findSome?_map, ih]
      rfl
  | atomic body ih =>
      rw [search, outcomes, ih, findSome?_some]
      cases (body.outcomes t).head? with
      | none => rfl
      | some t' => rw [Option.toList_some, List.findSome?_singleton]
  | ahead negated body ih =>
      rw [search, outcomes, ih, findSome?_some]
      cases (body.outcomes t).head? <;> cases negated <;> simp
  | behind width negated body ih =>
      rw [search, outcomes, ih, findSome?_some]
      split
      · cases negated <;> simp
      · cases (body.outcomes { t with place := t.place.backBy width }).head? <;>
          cases negated <;> simp
  | same group rule =>
      rw [search, outcomes]
      cases t.captures.span? group with
      | none => rfl
      | some span =>
          obtain ⟨start, stop⟩ := span
          simp only
          cases repeatSpan rule (t.place.slice start stop) t.place with
          | none => rfl
          | some p => rw [List.findSome?_singleton]
  | given group yes no ih₁ ih₂ =>
      rw [search, outcomes, ih₁, ih₂]
      split <;> rfl

/-! ## Matches of whole texts -/

/-- A whole text matches if some outcome of the pattern lies at its end. -/
theorem Pattern.fullMatch?_isSome (pattern : Pattern) (cs : List Char) :
    (pattern.fullMatch? cs).isSome
      ↔ ∃ t ∈ pattern.node.outcomes ⟨Place.start cs, {}⟩, t.place.after = [] := by
  rw [fullMatch?, Option.isSome_map, Node.search_eq_findSome?, List.findSome?_isSome_iff]
  constructor
  · rintro ⟨t, ht, h⟩
    refine ⟨t, ht, ?_⟩
    by_cases hend : t.place.after.isEmpty = true
    · simpa using hend
    · rw [if_neg hend] at h
      cases h
  · rintro ⟨t, ht, h⟩
    exact ⟨t, ht, by rw [if_pos (by simpa using h)]; rfl⟩

/-- The captures of a match are those of the first outcome at the end of the text. -/
theorem Pattern.fullMatch?_eq_some {pattern : Pattern} {cs : List Char} {m : Match}
    (h : pattern.fullMatch? cs = some m) :
    ∃ t, (∃ before after, pattern.node.outcomes ⟨Place.start cs, {}⟩ = before ++ t :: after
          ∧ ∀ t' ∈ before, t'.place.after ≠ [])
      ∧ t.place.after = []
      ∧ m = { text := cs, names := pattern.names, captures := t.captures } := by
  rw [fullMatch?, Option.map_eq_some_iff] at h
  obtain ⟨t, ht, rfl⟩ := h
  rw [Node.search_eq_findSome?, List.findSome?_eq_some_iff] at ht
  obtain ⟨before, t', after, hsplit, hhit, hmiss⟩ := ht
  by_cases hend : t'.place.after.isEmpty = true
  · rw [if_pos hend] at hhit
    cases hhit
    refine ⟨t, ⟨before, after, hsplit, ?_⟩, by simpa using hend, rfl⟩
    intro u hu hnil
    have hnone := hmiss u hu
    rw [if_pos (by simpa using hnil)] at hnone
    cases hnone
  · rw [if_neg hend] at hhit
    cases hhit

end LintRunner.Regex
