import LintRunner.Config.Notation

/-!
# Placeholders

Which texts are placeholders, said without a reader: a word between braces, possibly with an argument, and
one line feed behind it at most (`Placeholder.read?_eq_some_iff`). What becomes of a text that is none, and
of the argument of one that is, is `readItem_text`.
-/

set_option autoImplicit false

namespace LintRunner.Notation

open LintRunner.Text

namespace Placeholder

variable {p : Placeholder} {cs final : List Char}

/-! ## Reading placeholders -/

def tail (p : Placeholder) : List Char :=
  match p.argument with
  | none => []
  | some (sign, argument) => sign :: argument

def text (p : Placeholder) : List Char := '\x7b' :: (p.kind ++ (p.tail ++ ['\x7d']))

theorem getLast?_text (p : Placeholder) : p.text.getLast? = some '\x7d' := by
  have htext : p.text = ('\x7b' :: (p.kind ++ p.tail)) ++ ['\x7d'] := by simp [text]
  rw [htext, List.getLast?_concat]

/-- What can be written as a placeholder: the word is not empty and of the characters of words, the sign is
a colon or an equals sign, and no brace is closed in the argument. -/
structure IsProper (p : Placeholder) : Prop where
  kind_ne_nil : p.kind ≠ []
  kind : ∀ c ∈ p.kind, isKindChar c = true
  argument : ∀ sign argument, p.argument = some (sign, argument) →
    (sign = ':' ∨ sign = '=') ∧ '\x7d' ∉ argument

theorem endsPlaceholder_iff : endsPlaceholder final = true ↔ final = [] ∨ final = ['\n'] := by
  unfold endsPlaceholder
  split <;> simp_all

/-- A placeholder that is written is read, whether a line feed follows or not. -/
theorem read?_text_append (h : p.IsProper) (hfinal : endsPlaceholder final = true) :
    read? (p.text ++ final) = some p := by
  obtain ⟨kind, argument⟩ := p
  have hne : kind.isEmpty = false := by simpa using h.kind_ne_nil
  have hkind : ∀ c ∈ kind, isKindChar c = true := h.kind
  cases argument with
  | none =>
      have hclose : isKindChar '\x7d' = false := by decide
      simp [read?, text, tail, List.takeWhile_append_of_pos hkind, List.dropWhile_append_of_pos hkind,
        hclose, hfinal, h.kind_ne_nil]
  | some argument =>
      obtain ⟨sign, argument⟩ := argument
      obtain ⟨hsign, hargument⟩ := h.argument sign argument rfl
      have hopen : ∀ c ∈ argument, (c != '\x7d') = true := by
        intro c hc
        simpa using fun hbrace : c = '\x7d' => hargument (hbrace ▸ hc)
      have hcolon : isKindChar ':' = false := by decide
      have hequals : isKindChar '=' = false := by decide
      rcases hsign with rfl | rfl
      · simp [read?, text, tail, List.takeWhile_append_of_pos hkind, List.dropWhile_append_of_pos hkind,
          hcolon, hfinal, h.kind_ne_nil, List.takeWhile_append_of_pos hopen,
          List.dropWhile_append_of_pos hopen]
      · simp [read?, text, tail, List.takeWhile_append_of_pos hkind, List.dropWhile_append_of_pos hkind,
          hequals, hfinal, h.kind_ne_nil, List.takeWhile_append_of_pos hopen,
          List.dropWhile_append_of_pos hopen]

/-- What is read as a placeholder is written as one. -/
theorem of_read?_eq_some (h : read? cs = some p) :
    p.IsProper ∧ ∃ final, endsPlaceholder final = true ∧ cs = p.text ++ final := by
  unfold read? at h
  split at h
  · rename_i rest
    have hrest : rest = rest.takeWhile isKindChar ++ rest.dropWhile isKindChar :=
      List.takeWhile_append_dropWhile.symm
    have hkind : ∀ c ∈ rest.takeWhile isKindChar, isKindChar c = true :=
      List.all_eq_true.mp List.all_takeWhile
    generalize rest.takeWhile isKindChar = kind at h hrest hkind
    generalize rest.dropWhile isKindChar = behind at h hrest
    by_cases hne : kind = []
    · simp [hne] at h
    simp only [List.isEmpty_iff, hne, if_false] at h
    split at h
    · -- the brace is closed behind the word
      rename_i final
      split at h
      · rename_i hfinal
        obtain rfl := Option.some.inj h
        exact ⟨⟨hne, hkind, by simp⟩, final, hfinal, by simp [hrest, text, tail]⟩
      · cases h
    · -- the brace is closed behind an argument, if it is closed at all
      rename_i sign more _
      split at h
      · rename_i hsign
        have hmore : more = more.takeWhile (· != '\x7d') ++ more.dropWhile (· != '\x7d') :=
          List.takeWhile_append_dropWhile.symm
        have hargument : '\x7d' ∉ more.takeWhile (· != '\x7d') := by
          intro hmem
          simpa using List.all_eq_true.mp List.all_takeWhile _ hmem
        have hbehind := List.head?_dropWhile_not (· != '\x7d') more
        generalize more.takeWhile (· != '\x7d') = argument at h hmore hargument
        generalize more.dropWhile (· != '\x7d') = behind at h hmore hbehind
        split at h
        · rename_i close final
          split at h
          · rename_i hfinal
            obtain rfl := Option.some.inj h
            obtain rfl : close = '\x7d' := by simpa using hbehind
            refine ⟨⟨hne, hkind, ?_⟩, final, hfinal, by simp [hrest, hmore, text, tail]⟩
            rintro sign' argument' hsome
            cases hsome
            exact ⟨by simpa using hsign, hargument⟩
          · cases h
        · cases h
      · cases h
    · cases h
  · cases h

theorem read?_eq_some_iff :
    read? cs = some p ↔ p.IsProper ∧ (cs = p.text ∨ cs = p.text ++ ['\n']) := by
  constructor
  · intro h
    obtain ⟨hproper, final, hfinal, rfl⟩ := of_read?_eq_some h
    rcases endsPlaceholder_iff.mp hfinal with rfl | rfl
    · exact ⟨hproper, Or.inl (List.append_nil _)⟩
    · exact ⟨hproper, Or.inr rfl⟩
  · rintro ⟨hproper, rfl | rfl⟩
    · rw [← List.append_nil p.text]
      exact read?_text_append hproper rfl
    · exact read?_text_append hproper rfl

end Placeholder

/-! ## Tokens of texts -/

section

variable {classifier : Classifier} {s : String} {sign : Char} {kind argument : List Char}

/-- What an argument can be used for: the name of a message, the message that a severity is judged by, or
the word for a severity. -/
inductive Uses (classifier : Classifier) (argument : List Char) : String → Char → Token → Prop
  | name : Uses classifier argument "message" ':' (.message (String.ofList argument))
  | source : Uses classifier argument "severity" ':'
      (.severityFromMessage (some (String.ofList argument)) classifier)
  | level {severity : Severity} (named : Severity.ofName? (String.ofList (lower (trim argument))) = some severity) :
      Uses classifier argument "severity" '=' (.severityFixed (.known severity))

/-- Messages are named behind a colon. -/
theorem Uses.sign_of_message {word name : String} (h : Uses classifier argument word sign (.message name)) :
    sign = ':' := by
  cases h
  rfl

theorem readItem_of_tokenOfText {token : Token} (h : tokenOfText classifier s = .ok token) :
    readItem classifier (.text s) = .ok token := by
  unfold readItem
  simp [isTooLong, tokenOf, h]

theorem readItem_of_tokenOfText_error {problem : ConfigProblem}
    (h : tokenOfText classifier s = .error problem) :
    readItem classifier (.text s) = .error (.config problem) := by
  unfold readItem
  simp [isTooLong, tokenOf, h]

theorem tokenOfText_of_message
    (h : Placeholder.read? s.toList = some ⟨"message".toList, some (sign, argument)⟩)
    (hsign : sign = ':' ∨ sign = '=') (hne : argument ≠ []) :
    tokenOfText classifier s
      = .ok (.message (if sign = ':' then String.ofList argument else "message")) := by
  unfold tokenOfText
  rw [h]
  rcases hsign with rfl | rfl
  · simp [messageToken, hne]
  · simp [messageToken]

theorem tokenOfText_of_severity
    (h : Placeholder.read? s.toList = some ⟨"severity".toList, some (sign, argument)⟩) :
    tokenOfText classifier s = severityToken classifier (some (sign, argument)) := by
  unfold tokenOfText
  rw [h]
  simp

theorem tokenOfText_of_other (h : Placeholder.read? s.toList = some ⟨kind, some (sign, argument)⟩)
    (hmessage : String.ofList kind ≠ "message") (hseverity : String.ofList kind ≠ "severity") :
    tokenOfText classifier s = .error (.unknownPlaceholder s) := by
  unfold tokenOfText
  rw [h]
  -- the word is none of the first two cases by assumption
  simp only

/-- **What becomes of a text in a format.** A text that is no placeholder, with or without a line feed
behind it, stands for itself. The argument of a placeholder is used, or the placeholder is refused; only a
message behind an equals sign drops it. -/
theorem readItem_text (classifier : Classifier) (s : String) :
    ((∀ p : Placeholder, p.IsProper → s.toList ≠ p.text ∧ s.toList ≠ p.text ++ ['\n']) ∧
        readItem classifier (.text s) = .ok (.literal s)) ∨
      ∃ p : Placeholder, p.IsProper ∧ (s.toList = p.text ∨ s.toList = p.text ++ ['\n']) ∧
        ∀ sign argument, p.argument = some (sign, argument) → argument ≠ [] →
          (∃ token, readItem classifier (.text s) = .ok token ∧
              Uses classifier argument (String.ofList p.kind) sign token) ∨
            (∃ problem, readItem classifier (.text s) = .error (.config problem)) ∨
            (String.ofList p.kind = "message" ∧ sign = '=' ∧
              readItem classifier (.text s) = .ok (.message "message")) := by
  cases hread : Placeholder.read? s.toList with
  | none =>
      have hplain : tokenOfText classifier s = .ok (.literal s) := by
        unfold tokenOfText
        rw [hread]
      refine Or.inl ⟨fun p hproper => not_or.mp fun htext => ?_, readItem_of_tokenOfText hplain⟩
      rw [Placeholder.read?_eq_some_iff.mpr ⟨hproper, htext⟩] at hread
      cases hread
  | some p =>
      right
      obtain ⟨hproper, htext⟩ := Placeholder.read?_eq_some_iff.mp hread
      refine ⟨p, hproper, htext, ?_⟩
      intro sign argument hargument hne
      have hsign := (hproper.argument sign argument hargument).1
      obtain ⟨kind, argument'⟩ := p
      obtain rfl : argument' = some (sign, argument) := hargument
      by_cases hmessage : String.ofList kind = "message"
      · obtain rfl : kind = "message".toList := by rw [← hmessage, String.toList_ofList]
        have htoken : readItem classifier (.text s)
            = .ok (.message (if sign = ':' then String.ofList argument else "message")) :=
          readItem_of_tokenOfText (tokenOfText_of_message hread hsign hne)
        rcases hsign with rfl | rfl
        · exact Or.inl ⟨_, htoken, .name⟩
        · exact Or.inr (Or.inr ⟨hmessage, rfl, htoken⟩)
      by_cases hseverity : String.ofList kind = "severity"
      · obtain rfl : kind = "severity".toList := by rw [← hseverity, String.toList_ofList]
        have htoken : tokenOfText classifier s = severityToken classifier (some (sign, argument)) :=
          tokenOfText_of_severity hread
        rcases hsign with rfl | rfl
        · exact Or.inl ⟨_, readItem_of_tokenOfText htoken, .source⟩
        · cases hnamed : Severity.ofName? (String.ofList (lower (trim argument))) with
          | none =>
              have herror : tokenOfText classifier s = .error (.unknownLevel (String.ofList argument)) := by
                rw [htoken]
                simp [severityToken, hnamed]
              exact Or.inr (Or.inl ⟨_, readItem_of_tokenOfText_error herror⟩)
          | some severity =>
              have hlevel : tokenOfText classifier s = .ok (.severityFixed (.known severity)) := by
                rw [htoken]
                simp [severityToken, hnamed]
              exact Or.inl ⟨_, readItem_of_tokenOfText hlevel, .level hnamed⟩
      · exact Or.inr (Or.inl ⟨_, readItem_of_tokenOfText_error
          (tokenOfText_of_other hread hmessage hseverity)⟩)

/-- A line feed behind a placeholder is lost, and so is the argument of a message behind an equals sign. -/
theorem texts_not_kept :
    (¬ ∀ (classifier : Classifier) (s : String),
        (∀ p : Placeholder, p.IsProper → s.toList ≠ p.text) →
          readItem classifier (.text s) = .ok (.literal s)) ∧
      ¬ ∀ (classifier : Classifier) (s : String) (p : Placeholder) (sign : Char) (argument : List Char),
        p.IsProper → s.toList = p.text → p.argument = some (sign, argument) → argument ≠ [] →
          (∃ token, readItem classifier (.text s) = .ok token ∧
              Uses classifier argument (String.ofList p.kind) sign token) ∨
            ∃ problem, readItem classifier (.text s) = .error (.config problem) := by
  constructor
  · intro h
    have hlost : readItem .blanks (.text "\x7bspaces\x7d\n") = .ok .whitespace := rfl
    have hnone : ∀ p : Placeholder, p.IsProper → "\x7bspaces\x7d\n".toList ≠ p.text := by
      intro p _ htext
      have hlast : some '\n' = some '\x7d' := (congrArg List.getLast? htext).trans p.getLast?_text
      cases hlast
    rw [h .blanks _ hnone] at hlost
    cases hlost
  · intro h
    have hlost : readItem .blanks (.text "\x7bmessage=text\x7d") = .ok (.message "message") := rfl
    have hproper : Placeholder.IsProper ⟨"message".toList, some ('=', "text".toList)⟩ :=
      ⟨by decide, List.all_eq_true.mp rfl, by simp⟩
    obtain ⟨token, htoken, huses⟩ | ⟨problem, hproblem⟩ :=
      h .blanks "\x7bmessage=text\x7d" _ '=' "text".toList hproper (by decide) rfl (by decide)
    · rw [hlost] at htoken
      obtain rfl := Except.ok.inj htoken
      exact absurd huses.sign_of_message (by decide)
    · rw [hproblem] at hlost
      cases hlost

end

end LintRunner.Notation
