import Mathlib.Data.List.Infix
import LintRunner.Catalogue
import LintRunner.Proofs.Text.Words

/-!
# Commands

The target of a run is data. It stands in a word of the command exactly where the word is cut at its
placeholders, so the number of words and the parts between the placeholders are the same for all
targets, whatever a target holds (`Adapter.buildCommand_inserts`).

A command is given word by word or as one text. A text in which every word is quoted gives the same
adapter as the words themselves (`Adapter.make_quotedCommand`).
-/

set_option autoImplicit false

namespace LintRunner

open Text

/-! ## Placeholders -/

def placeholder : List Char := ['%', 'f']

/-- Whether the placeholder between two texts is the first one in the text that they give together. -/
def IsFirst (part rest : List Char) : Prop :=
  ∀ before after, before ++ placeholder ++ after = part ++ placeholder ++ rest →
    part.length ≤ before.length

/-- A word cut at its placeholders: the leftmost one is cut out, and the text behind it is cut in the
same way. -/
inductive Cut : List Char → List (List Char) → Prop
  | whole {word : List Char} (h : ¬ placeholder <:+: word) : Cut word [word]
  | first {part rest : List Char} {parts : List (List Char)} (h : IsFirst part rest)
      (hrest : Cut rest parts) : Cut (part ++ placeholder ++ rest) (part :: parts)

variable {part rest word target : List Char} {parts : List (List Char)}

/-- No placeholder begins where its two characters do not both stand. -/
theorem not_placeholder_of_ne {c : Char} (h : ∀ after, c = '%' → rest = 'f' :: after → False) :
    ¬ placeholder <+: c :: rest := by
  rintro ⟨after, heq⟩
  obtain ⟨rfl, rfl⟩ := List.cons.inj heq
  exact h after rfl rfl

theorem isFirst_nil (rest : List Char) : IsFirst [] rest := fun _ _ _ => Nat.zero_le _

theorem IsFirst.tail {c : Char} (h : IsFirst (c :: part) rest) : IsFirst part rest := by
  intro before after heq
  have hlen := h (c :: before) after (by simp [heq])
  simp only [List.length_cons] at hlen
  omega

/-- No placeholder begins where the text before the first one begins. -/
theorem IsFirst.not_placeholder {c : Char} (h : IsFirst (c :: part) rest) :
    ¬ placeholder <+: c :: (part ++ placeholder ++ rest) := by
  rintro ⟨after, heq⟩
  have hlen := h [] after (by simpa using heq)
  simp at hlen

theorem IsFirst.cons {c : Char} (h : IsFirst part rest)
    (hc : ¬ placeholder <+: c :: (part ++ placeholder ++ rest)) : IsFirst (c :: part) rest := by
  intro before after heq
  cases before with
  | nil => exact absurd ⟨after, by simpa using heq⟩ hc
  | cons d before =>
      have heq' : before ++ placeholder ++ after = part ++ placeholder ++ rest := by
        simpa using (List.cons.inj heq).2
      have hlen := h before after heq'
      simp only [List.length_cons]
      omega

/-- Two first placeholders of one text are the same. -/
theorem IsFirst.unique {part' rest' : List Char} (h : IsFirst part rest) (h' : IsFirst part' rest')
    (heq : part ++ placeholder ++ rest = part' ++ placeholder ++ rest') :
    part = part' ∧ rest = rest' := by
  have hle := h part' rest' heq.symm
  have hle' := h' part rest heq
  rw [List.append_assoc, List.append_assoc] at heq
  obtain ⟨hpart, hbehind⟩ := List.append_inj heq (by omega)
  exact ⟨hpart, List.append_cancel_left hbehind⟩

/-! ## Cuts -/

/-- Every word can be cut. -/
theorem exists_cut (word : List Char) : ∃ parts, Cut word parts := by
  induction word using fillPlaceholder.induct with
  | case1 rest ih =>
      obtain ⟨parts, hparts⟩ := ih
      exact ⟨[] :: parts, .first (isFirst_nil rest) hparts⟩
  | case2 c rest hc ih =>
      have hstart := not_placeholder_of_ne hc
      -- the character goes to the first part, be it the only one or not
      obtain ⟨parts, hparts⟩ := ih
      cases hparts with
      | whole h =>
          refine ⟨[c :: rest], .whole ?_⟩
          rw [List.infix_cons_iff]
          exact not_or.mpr ⟨hstart, h⟩
      | @first part behind parts hfirst hrest =>
          exact ⟨(c :: part) :: parts, .first (hfirst.cons hstart) hrest⟩
  | case3 => exact ⟨[[]], .whole (by simp [placeholder])⟩

/-- A word can be cut in one way only. -/
theorem Cut.unique {parts' : List (List Char)} (h : Cut word parts) (h' : Cut word parts') :
    parts = parts' := by
  induction h generalizing parts' with
  | @whole word hnone =>
      cases h' with
      | whole => rfl
      | @first part rest => exact absurd ⟨part, rest, rfl⟩ hnone
  | @first part rest parts hfirst _ ih =>
      generalize hword : part ++ placeholder ++ rest = word at h'
      cases h' with
      | whole hnone => exact absurd ⟨part, rest, hword⟩ hnone
      | first hfirst' hrest' =>
          obtain ⟨rfl, rfl⟩ := hfirst.unique hfirst' hword
          rw [ih hrest']

theorem Cut.ne_nil (h : Cut word parts) : parts ≠ [] := by
  cases h <;> exact List.cons_ne_nil _ _

/-- The parts of a word give the word again if the placeholder is put between them. -/
theorem Cut.intercalate_eq (h : Cut word parts) : placeholder.intercalate parts = word := by
  induction h with
  | whole => exact List.intercalate_singleton
  | first _ hrest ih =>
      rw [List.intercalate_cons_of_ne_nil hrest.ne_nil, ih]

/-! ## Filling in -/

theorem hasPlaceholder_iff : hasPlaceholder word = true ↔ placeholder <:+: word := by
  induction word using hasPlaceholder.induct with
  | case1 rest =>
      have hin : placeholder <:+: '%' :: 'f' :: rest := ⟨[], rest, rfl⟩
      simp [hasPlaceholder, hin]
  | case2 c rest hc ih =>
      have hstart := not_placeholder_of_ne hc
      rw [hasPlaceholder, ih, List.infix_cons_iff]
      · simp [hstart]
      · exact hc
  | case3 => simp [hasPlaceholder, placeholder]

theorem fillPlaceholder_cons {c : Char} {cs : List Char} (h : ¬ placeholder <+: c :: cs)
    (target : List Char) : fillPlaceholder target (c :: cs) = c :: fillPlaceholder target cs := by
  rw [fillPlaceholder]
  rintro after rfl rfl
  exact h ⟨after, rfl⟩

theorem fillPlaceholder_eq_self (h : ¬ placeholder <:+: word) :
    fillPlaceholder target word = word := by
  induction word with
  | nil => rfl
  | cons c word ih =>
      rw [List.infix_cons_iff, not_or] at h
      rw [fillPlaceholder_cons h.1, ih h.2]

/-- The first placeholder gives way to the target, and filling in goes on behind it: the target is not
looked at again. -/
theorem fillPlaceholder_append (h : IsFirst part rest) :
    fillPlaceholder target (part ++ placeholder ++ rest)
      = part ++ target ++ fillPlaceholder target rest := by
  induction part with
  | nil => rfl
  | cons c part ih =>
      rw [List.cons_append, List.cons_append, fillPlaceholder_cons h.not_placeholder, ih h.tail]
      simp

/-- Filling in a target puts it between the parts that the word is cut into. -/
theorem Cut.fillPlaceholder_eq (h : Cut word parts) (target : List Char) :
    fillPlaceholder target word = target.intercalate parts := by
  induction h with
  | whole hnone => rw [fillPlaceholder_eq_self hnone, List.intercalate_singleton]
  | first hfirst hrest ih =>
      rw [fillPlaceholder_append hfirst, ih, List.intercalate_cons_of_ne_nil hrest.ne_nil]

/-- A placeholder in a target, or one that a target completes, is no placeholder. -/
example : fillPlaceholder "%f %".toList "%%ff:%f".toList = "%%f %f:%f %".toList := by decide

/-! ## Targets -/

namespace Adapter

variable {adapter : Adapter}

/-- A command has a place for a target if the placeholder stands in one of its words. -/
theorem requiresTarget_iff :
    adapter.requiresTarget = true ↔ ∃ word ∈ adapter.command, placeholder <:+: word.toList := by
  simp only [requiresTarget, List.any_eq_true, hasPlaceholder_iff]

/-- A command cannot be built only if it has a place for a target and there is none. -/
theorem buildCommand_error {target : Option String} {failure : Failure}
    (h : adapter.buildCommand target = .error failure) :
    failure = .targetRequired adapter.name ∧ adapter.requiresTarget = true ∧ target = none := by
  by_cases hrequires : adapter.requiresTarget = true
  · cases target with
    | none =>
        simp only [buildCommand, hrequires, if_true, Except.error.injEq] at h
        exact ⟨h.symm, hrequires, rfl⟩
    | some path => simp [buildCommand, hrequires] at h
  · cases target <;> simp [buildCommand, hrequires] at h

theorem buildCommand_none (h : adapter.requiresTarget = true) :
    adapter.buildCommand none = .error (.targetRequired adapter.name) := by
  rw [buildCommand, if_pos h]

theorem buildCommand_of_not_requiresTarget (h : ¬ adapter.requiresTarget = true)
    (target : Option String) : adapter.buildCommand target = .ok adapter.command := by
  unfold buildCommand
  rw [if_neg h]

/-- With a target every word is filled in on its own; words without a placeholder stay. -/
theorem buildCommand_some (adapter : Adapter) (target : String) :
    adapter.buildCommand (some target) = .ok (adapter.command.map fun word =>
      String.ofList (fillPlaceholder target.toList word.toList)) := by
  by_cases h : adapter.requiresTarget = true
  · simp only [buildCommand, h, if_true]
  · rw [buildCommand_of_not_requiresTarget h]
    have hstays : ∀ word ∈ adapter.command,
        String.ofList (fillPlaceholder target.toList word.toList) = word := by
      intro word hword
      have hnone : ¬ placeholder <:+: word.toList := fun hin =>
        h (requiresTarget_iff.mpr ⟨word, hword, hin⟩)
      rw [fillPlaceholder_eq_self hnone, String.ofList_toList]
    rw [List.map_congr_left hstays, List.map_id']

/-- **A target is inserted as data.** Whatever it is, the command that is built has as many words as the
adapter's, and each of them is the adapter's word with the target between the parts that the word is cut
into; these parts do not depend on the target. A command without placeholders is built as it stands, with
or without a target, and any other cannot be built without one. -/
theorem buildCommand_inserts (adapter : Adapter) :
    (∀ target : String, ∃ built, adapter.buildCommand (some target) = .ok built ∧
        built.length = adapter.command.length ∧
        ∀ (i : Nat) (word : String), adapter.command[i]? = some word →
          (∃ parts, (∀ parts', Cut word.toList parts' ↔ parts' = parts) ∧
            placeholder.intercalate parts = word.toList ∧
            built[i]? = some (String.ofList (target.toList.intercalate parts))) ∧
          (¬ placeholder <:+: word.toList → built[i]? = some word)) ∧
      ((∀ word ∈ adapter.command, ¬ placeholder <:+: word.toList) →
        ∀ target, adapter.buildCommand target = .ok adapter.command) ∧
      ((∃ word ∈ adapter.command, placeholder <:+: word.toList) →
        adapter.buildCommand none = .error (.targetRequired adapter.name)) ∧
      ∀ target, (∃ failure, adapter.buildCommand target = .error failure) ↔
        adapter.requiresTarget = true ∧ target = none := by
  refine ⟨?_, ?_, ?_, ?_⟩
  · intro target
    refine ⟨_, buildCommand_some adapter target, List.length_map _, fun i word hword => ?_⟩
    rw [List.getElem?_map, hword, Option.map_some]
    obtain ⟨parts, hparts⟩ := exists_cut word.toList
    refine ⟨⟨parts, fun parts' => ⟨fun h => h.unique hparts, fun h => h ▸ hparts⟩,
      hparts.intercalate_eq, ?_⟩, ?_⟩
    · rw [hparts.fillPlaceholder_eq]
    · intro hnone
      rw [fillPlaceholder_eq_self hnone, String.ofList_toList]
  · intro hnone target
    apply buildCommand_of_not_requiresTarget
    rw [requiresTarget_iff]
    rintro ⟨word, hword, hin⟩
    exact hnone word hword hin
  · intro hin
    exact buildCommand_none (requiresTarget_iff.mpr hin)
  · intro target
    constructor
    · rintro ⟨failure, h⟩
      exact (buildCommand_error h).2
    · rintro ⟨hrequires, rfl⟩
      exact ⟨_, buildCommand_none hrequires⟩

end Adapter

/-! ## Templates -/

def quotedCommand (words : List String) : String :=
  String.ofList (joinWords (words.map fun word => quoteWord word.toList))

theorem splitTemplate_quotedCommand {words : List String} (h : words ≠ []) :
    splitTemplate (quotedCommand words) = .ok words := by
  have hsplit : splitWords (quotedCommand words).toList = .ok (words.map String.toList) := by
    rw [quotedCommand, String.toList_ofList, ← splitWords_joinWords, List.map_map]
    rfl
  obtain ⟨word, rest, rfl⟩ := List.exists_cons_of_ne_nil h
  unfold splitTemplate
  rw [hsplit]
  simp [Function.comp_def]

theorem toWords_words {words : List String} (h : words ≠ []) :
    (Command.words words).toWords = .ok words := by
  cases words with
  | nil => exact absurd rfl h
  | cons word words => rfl

namespace Adapter

variable {name : String} {words : List String} {format : Option Format} {description : String}

/-- An adapter is made from the words of its command, however they are given. -/
theorem make_of_toWords {command : Command} (h : words ≠ []) (hwords : command.toWords = .ok words) :
    make name command format description = make name (.words words) format description := by
  unfold make
  rw [hwords, toWords_words h]

theorem ofTemplate_of_splitTemplate {template : String}
    (hsplit : splitTemplate template = .ok words) :
    ofTemplate name template format description = make name (.words words) format description := by
  unfold ofTemplate
  rw [hsplit]

/-- A name, words and a format are enough for an adapter. -/
theorem exists_make (hname : name ≠ "") (hwords : words ≠ []) (layout : Format)
    (description : String) :
    ∃ adapter, make name (.words words) (some layout) description = .ok adapter ∧
      adapter.command = words := by
  let adapter : Adapter :=
    { name, command := words, format := layout, description, name_ne := hname, command_ne := hwords }
  refine ⟨adapter, ?_, rfl⟩
  unfold make
  rw [dif_neg hname]
  simp only [toWords_words hwords, dif_neg hwords]
  rfl

/-- **A command defines the same adapter word by word and as a quoted text.** The text is split into
exactly these words, whatever they hold, so all three ways of making an adapter give the same answer. If
there is a name and a format the answer is one adapter, and the command that it builds for a target is made
of these words. -/
theorem make_quotedCommand (h : words ≠ []) (name : String) (format : Option Format)
    (description : String) :
    let listed := make name (.words words) format description
    let quoted := make name (.template (quotedCommand words)) format description
    let templated := ofTemplate name (quotedCommand words) format description
    splitTemplate (quotedCommand words) = .ok words ∧ quoted = listed ∧ templated = listed ∧
      (name ≠ "" → format ≠ none → ∃ adapter,
        listed = .ok adapter ∧ quoted = .ok adapter ∧ templated = .ok adapter ∧
          adapter.command = words ∧
          ∀ target, adapter.buildCommand (some target) = .ok (words.map fun word =>
            String.ofList (fillPlaceholder target.toList word.toList))) := by
  have hsplit := splitTemplate_quotedCommand h
  have hquoted : make name (.template (quotedCommand words)) format description
      = make name (.words words) format description := by
    rw [make_of_toWords h]
    exact hsplit
  have htemplated : ofTemplate name (quotedCommand words) format description
      = make name (.words words) format description := by
    rw [ofTemplate_of_splitTemplate hsplit]
  refine ⟨hsplit, hquoted, htemplated, fun hname hformat => ?_⟩
  obtain ⟨layout, rfl⟩ := Option.ne_none_iff_exists'.mp hformat
  obtain ⟨adapter, hadapter, hcommand⟩ := exists_make hname h layout description
  refine ⟨adapter, hadapter, hquoted.trans hadapter, htemplated.trans hadapter, hcommand, ?_⟩
  rw [← hcommand]
  exact buildCommand_some adapter

/-- Words with both kinds of quotes, a backslash at the end, blanks of all kinds and a placeholder; one is
empty. -/
def awkwardWords : List String := ["it's", "", "a \"b\"\t\r\nc\\", "--in=%f", "'é'"]

theorem awkwardWords_quoted :
    awkwardWords ≠ [] ∧ splitTemplate (quotedCommand awkwardWords) = .ok awkwardWords ∧
      ∃ adapter, ofTemplate "tool" (quotedCommand awkwardWords) (some Catalogue.gccFormat) ""
          = .ok adapter ∧
        adapter.buildCommand (some "a b")
          = .ok ["it's", "", "a \"b\"\t\r\nc\\", "--in=a b", "'é'"] := by
  have hwords : awkwardWords ≠ [] := by decide
  have hmade := make_quotedCommand hwords "tool" (some Catalogue.gccFormat) ""
  obtain ⟨hsplit, -, -, hexists⟩ := hmade
  obtain ⟨adapter, -, -, htemplated, -, hbuild⟩ := hexists (by decide) (by decide)
  refine ⟨hwords, hsplit, adapter, htemplated, ?_⟩
  rw [hbuild]
  decide

end Adapter

end LintRunner
