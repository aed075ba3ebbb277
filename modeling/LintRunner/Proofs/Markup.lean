import LintRunner.Markup
import LintRunner.Value

/-!
# Texts with markup

What is relied on of texts with markup: a text in which no tag begins is shown, and a text whose first tag
closes what nothing has opened is not (`Markup.Decides`). Both are properties of a list of texts that are put
together with commas (`Markup.untagged_commaSeparated`, `Markup.unmatched_commaSeparated`), and both hold of
the texts that `Markup.read?` reads (`Markup.exists_read?_of_untagged`, `Markup.read?_of_unmatched`).
-/

set_option autoImplicit false

namespace LintRunner.Markup

/-- No tag begins in a text. -/
def Untagged (cs : List Char) : Prop := ∀ c, isTagStart c = true → ¬ ['[', c] <:+: cs

/-- The first tag of a text is a closing one. Its name is made of words; a tag behind a backslash is none. -/
def Unmatched (cs : List Char) : Prop :=
  ∃ before name after, cs = before ++ '[' :: '/' :: (name ++ ']' :: after) ∧ Untagged before ∧
    before.getLast? ≠ some '\\' ∧ ∀ c ∈ name, c ≠ '[' ∧ c ≠ ']' ∧ c ≠ '('

/-- Texts with markup decide between two outcomes: the first one if no tag begins in any of them, and the
second one if there is a text whose first tag closes nothing, and no other text with a tag. -/
structure Decides (texts : List String) (shown refused : Prop) : Prop where
  shown : (∀ s ∈ texts, Untagged s.toList) → shown
  refused : (∃ s ∈ texts, Unmatched s.toList) →
    (∀ s ∈ texts, Untagged s.toList ∨ Unmatched s.toList) → refused

theorem untagged_of_not_mem {cs : List Char} (h : '[' ∉ cs) : Untagged cs :=
  fun _ _ hin => h (hin.subset List.mem_cons_self)

/-! ## Tags -/

theorem tagBody?_eq_some {cs body : List Char} (h : tagBody? cs = some body) : '[' :: body <+: cs := by
  unfold tagBody? at h
  split at h
  · rename_i c rest
    split at h
    · simp only at h
      split at h
      · obtain rfl := Option.some.inj h
        exact List.prefix_cons_inj '[' |>.mpr (List.prefix_cons_inj c |>.mpr (List.takeWhile_prefix _))
      · cases h
    · cases h
  · cases h

theorem Marked.infix_of_read? {cs : List Char} {m : Marked} (h : Marked.read? cs = some m) :
    '[' :: m.body <:+: cs := by
  unfold Marked.read? at h
  obtain ⟨body, hbody, rfl⟩ := Option.map_eq_some_iff.mp h
  exact (tagBody?_eq_some hbody).isInfix.trans (List.drop_suffix _ _).isInfix

theorem Marked.eq_body_of_mem {m : Marked} {body : List Char} (h : .tag body ∈ m.pieces) : body = m.body := by
  unfold Marked.pieces at h
  rcases List.mem_append.mp h with h | h
  · split at h
    · cases h
    · cases List.mem_singleton.mp h
  · split at h
    · cases List.mem_singleton.mp h
    · exact Piece.tag.inj (List.mem_singleton.mp h)

/-- **The tags of a text stand in it.** -/
theorem infix_of_mem_scan {skip : Nat} {before cs body : List Char} (h : .tag body ∈ scan skip before cs) :
    '[' :: body <:+: cs := by
  induction cs generalizing skip before with
  | nil =>
      rw [scan] at h
      cases List.mem_singleton.mp h
  | cons c cs ih =>
      cases skip with
      | succ skip =>
          rw [scan] at h
          exact (ih h).trans (List.suffix_cons c cs).isInfix
      | zero =>
          rw [scan] at h
          split at h
          · rename_i m hread
            rcases List.mem_cons.mp h with h | h
            · cases h
            rcases List.mem_append.mp h with h | h
            · rw [Marked.eq_body_of_mem h]
              exact Marked.infix_of_read? hread
            · exact (ih h).trans (List.suffix_cons c cs).isInfix
          · exact (ih h).trans (List.suffix_cons c cs).isInfix

/-! ## Styles -/

/-- Only a tag with a slash in front can be without a style to close. -/
theorem openAfter_eq_none {styles : List String} {body : List Char} (h : openAfter styles body = none) :
    ['/'] <+: body := by
  unfold openAfter at h
  split at h
  · rename_i name hname
    have hprefix : '/' :: name <+: body := hname ▸ List.takeWhile_prefix _
    exact (List.prefix_append ['/'] name).trans hprefix
  · cases h

theorem assemble_eq_none {styles : List String} {pieces : List Piece} (h : assemble styles pieces = none) :
    ∃ body, .tag body ∈ pieces ∧ ['/'] <+: body := by
  induction pieces generalizing styles with
  | nil => cases h
  | cons piece rest ih =>
      cases piece with
      | text cs =>
          rw [assemble, Option.map_eq_none_iff] at h
          obtain ⟨body, hmem, hclosing⟩ := ih h
          exact ⟨body, List.mem_cons_of_mem _ hmem, hclosing⟩
      | tag body =>
          rw [assemble] at h
          split at h
          · rename_i hnone
            exact ⟨body, List.mem_cons_self, openAfter_eq_none hnone⟩
          · obtain ⟨body', hmem, hclosing⟩ := ih h
            exact ⟨body', List.mem_cons_of_mem _ hmem, hclosing⟩

/-- **A text in which no tag begins can be read.** -/
theorem exists_read?_of_untagged {s : String} (h : Untagged s.toList) : ∃ cs, read? s = some cs := by
  rw [← Option.isSome_iff_exists, Option.isSome_iff_ne_none]
  intro hnone
  obtain ⟨body, hmem, hclosing⟩ := assemble_eq_none hnone
  have hbegins : ['[', '/'] <+: '[' :: body := (List.prefix_cons_inj '[').mpr hclosing
  exact h '/' (by decide) (hbegins.isInfix.trans (infix_of_mem_scan hmem))

/-! ## Closing tags -/

theorem Marked.read?_backslash (cs : List Char) : Marked.read? ('\\' :: cs) =
    (Marked.read? cs).map fun m => { m with backslashes := m.backslashes + 1 } := by
  simp [Marked.read?, Function.comp_def]

theorem Marked.read?_of_ne {c : Char} (h : c ≠ '\\') (cs : List Char) :
    Marked.read? (c :: cs) = (tagBody? (c :: cs)).map fun body => { backslashes := 0, body } := by
  simp [Marked.read?, h]

theorem Untagged.of_infix {part cs : List Char} (h : Untagged cs) (hin : part <:+: cs) :
    Untagged part := fun c hc hpart => h c hc (hpart.trans hin)

/-- Where no tag begins, none is read, also not across an opening bracket behind the text. -/
theorem Untagged.read?_append {before : List Char} (h : Untagged before) (hne : before ≠ [])
    (hlast : before.getLast? ≠ some '\\') (rest : List Char) :
    Marked.read? (before ++ '[' :: rest) = none := by
  induction before with
  | nil => exact absurd rfl hne
  | cons c later ih =>
      rw [List.cons_append]
      by_cases hc : c = '\\'
      · subst hc
        have hlater : later ≠ [] := by
          rintro rfl
          exact hlast rfl
        rw [Marked.read?_backslash,
          ih (h.of_infix (List.suffix_cons _ later).isInfix) hlater (by
            rwa [List.getLast?_cons_of_ne_nil hlater] at hlast)]
        rfl
      · rw [Marked.read?_of_ne hc, Option.map_eq_none_iff]
        unfold tagBody?
        split
        · rename_i d rest' htag
          obtain ⟨rfl, hnext⟩ := List.cons.inj htag
          have hstart : isTagStart d = false := by
            cases later with
            | nil =>
                obtain rfl := (List.cons.inj hnext).1
                decide
            | cons e later =>
                obtain rfl := (List.cons.inj hnext).1
                rw [Bool.eq_false_iff]
                exact fun hstart => h e hstart ⟨[], later, rfl⟩
          rw [hstart]
          rfl
        · rfl

/-- A text in which no tag begins is skipped. -/
theorem Untagged.scan_append {before : List Char} (h : Untagged before)
    (hlast : before.getLast? ≠ some '\\') (kept rest : List Char) :
    scan 0 kept (before ++ '[' :: rest) = scan 0 (before.reverse ++ kept) ('[' :: rest) := by
  induction before generalizing kept with
  | nil => rfl
  | cons c later ih =>
      have hread : Marked.read? (c :: (later ++ '[' :: rest)) = none :=
        h.read?_append (List.cons_ne_nil c later) hlast rest
      have hlater : later.getLast? ≠ some '\\' := by
        by_cases hnil : later = []
        · simp [hnil]
        · rwa [List.getLast?_cons_of_ne_nil hnil] at hlast
      rw [List.cons_append, scan, hread]
      simp only [ih (h.of_infix (List.suffix_cons c later).isInfix) hlater, List.reverse_cons,
        List.append_assoc, List.singleton_append]

theorem Marked.read?_closing {name after : List Char} (h : ∀ c ∈ name, c ≠ '[' ∧ c ≠ ']' ∧ c ≠ '(') :
    Marked.read? ('[' :: '/' :: (name ++ ']' :: after)) = some { backslashes := 0, body := '/' :: name } := by
  have htake : (name ++ ']' :: after).takeWhile (fun d => d != '[' && d != ']') = name := by
    rw [List.takeWhile_append_of_pos (by simpa using fun c hc => ⟨(h c hc).1, (h c hc).2.1⟩)]
    simp
  have hstart : isTagStart '/' = true := by decide
  rw [read?_of_ne (by decide)]
  simp [tagBody?, hstart, htake]

/-- A closing tag closes nothing where nothing is open. -/
theorem openAfter_closing (name : List Char) : openAfter [] ('/' :: name) = none := by
  have htake : ('/' :: name).takeWhile (fun c => c != '=') = '/' :: name.takeWhile (fun c => c != '=') :=
    List.takeWhile_cons_of_pos (by decide)
  rw [openAfter, htake]
  simp only
  split <;> rfl

/-- **A text whose first tag is a closing one cannot be read.** -/
theorem read?_of_unmatched {s : String} (h : Unmatched s.toList) : read? s = none := by
  obtain ⟨before, name, after, hs, hbefore, hlast, hname⟩ := h
  rw [read?, hs, hbefore.scan_append hlast, scan, Marked.read?_closing hname]
  simp [Marked.pieces, assemble, openAfter_closing]

/-! ## Texts with commas between them -/

/-- A comma and a space keep an opening bracket and the beginning of a tag apart. -/
theorem infix_of_separated {c : Char} (hc : c ≠ ',') {cs later : List Char}
    (h : ['[', c] <:+: cs ++ ',' :: ' ' :: later) : ['[', c] <:+: cs ∨ ['[', c] <:+: later := by
  have hcomma : ∀ {d : Char} {rest : List Char}, d :: rest <+: ',' :: ' ' :: later → d = ',' :=
    fun h => (List.cons_prefix_cons.mp h).1
  rcases List.infix_append_iff.mp h with h | h | ⟨front, back, hsplit, hfront, hback⟩
  · exact Or.inl h
  · rcases List.infix_cons_iff.mp h with h | h
    · exact absurd (hcomma h) (by decide)
    rcases List.infix_cons_iff.mp h with h | h
    · exact absurd (List.cons_prefix_cons.mp h).1 (by decide)
    · exact Or.inr h
  · -- What reaches beyond the front part holds the comma.
    cases back with
    | nil =>
        rw [List.append_nil] at hsplit
        exact Or.inl (hsplit ▸ hfront.isInfix)
    | cons d back =>
        obtain rfl := hcomma hback
        have hmem : ',' ∈ ['[', c] := hsplit ▸ List.mem_append_right _ List.mem_cons_self
        simp [hc.symm] at hmem

theorem Untagged.separated {cs later : List Char} (h : Untagged cs) (hlater : Untagged later) :
    Untagged (cs ++ ',' :: ' ' :: later) := by
  intro c hc hin
  have hcomma : c ≠ ',' := by
    rintro rfl
    exact absurd hc (by decide)
  rcases infix_of_separated hcomma hin with hin | hin
  · exact h c hc hin
  · exact hlater c hc hin

theorem toList_commaSeparated_cons (name next : String) (names : List String) :
    (commaSeparated (name :: next :: names)).toList =
      name.toList ++ ',' :: ' ' :: (commaSeparated (next :: names)).toList := by
  rw [commaSeparated, String.intercalate_cons_cons, String.toList_append, String.toList_append,
    List.append_assoc]
  rfl

theorem untagged_commaSeparated {names : List String} (h : ∀ name ∈ names, Untagged name.toList) :
    Untagged (commaSeparated names).toList := by
  induction names with
  | nil => exact untagged_of_not_mem (by decide)
  | cons name names ih =>
      rw [List.forall_mem_cons] at h
      cases names with
      | nil => simpa [commaSeparated] using h.1
      | cons next names =>
          rw [toList_commaSeparated_cons]
          exact h.1.separated (ih h.2)

/-- What stands behind a closing tag does not matter. -/
theorem Unmatched.append {cs : List Char} (h : Unmatched cs) (more : List Char) : Unmatched (cs ++ more) := by
  obtain ⟨before, name, after, rfl, hbefore⟩ := h
  exact ⟨before, name, after ++ more, by simp, hbefore⟩

theorem Unmatched.separated {cs later : List Char} (h : Untagged cs) (hlater : Unmatched later) :
    Unmatched (cs ++ ',' :: ' ' :: later) := by
  obtain ⟨before, name, after, rfl, hbefore, hlast, hname⟩ := hlater
  refine ⟨cs ++ ',' :: ' ' :: before, name, after, by simp, h.separated hbefore, ?_, hname⟩
  cases before with
  | nil => simp
  | cons c before => simpa [List.getLast?_append] using hlast

/-- If some names begin with closing tags and the others have no tag, their first tag is a closing one. -/
theorem unmatched_commaSeparated {names : List String} (hex : ∃ name ∈ names, Unmatched name.toList)
    (hall : ∀ name ∈ names, Untagged name.toList ∨ Unmatched name.toList) :
    Unmatched (commaSeparated names).toList := by
  induction names with
  | nil => simp at hex
  | cons name names ih =>
      rw [List.forall_mem_cons] at hall
      cases names with
      | nil => simpa [commaSeparated] using hex
      | cons next names =>
          rw [toList_commaSeparated_cons]
          rcases hall.1 with hname | hname
          · have hsplit : Unmatched name.toList ∨ ∃ other ∈ next :: names, Unmatched other.toList := by
              simpa using hex
            rcases hsplit with hfirst | hrest
            · exact hfirst.append _
            · exact (ih hrest hall.2).separated hname
          · exact hname.append _

end LintRunner.Markup
