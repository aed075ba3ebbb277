import Mathlib.Data.List.Find
import LintRunner.Severity
import LintRunner.Proofs.Text.Ascii

/-!
# The severity of a text

The severity of a text is decided by the word that the text itself begins with, behind the characters that
are skipped; of case only that of ASCII letters is disregarded (`Classifier.classify_caseless`). That the
whole text is put in lower case first makes no difference: no other letter becomes a letter of the words
there without leaving a trace, and none becomes a character that is skipped.
-/

set_option autoImplicit false

namespace LintRunner.Classifier

open Text

variable {classifier : Classifier} {text : String}

/-! ## What a text begins with -/

/-- Whether a text begins with a word, the case of ASCII letters aside. -/
def BeginsWith (word : String) (cs : List Char) : Prop := word.toList <+: cs.map asciiLower

instance (word : String) (cs : List Char) : Decidable (BeginsWith word cs) :=
  inferInstanceAs (Decidable (word.toList <+: cs.map asciiLower))

def stripped (classifier : Classifier) (text : String) : List Char :=
  text.toList.dropWhile classifier.skipped.toList.contains

def hinted (fallback : Severity) (cs : List Char) : Severity :=
  if BeginsWith "info" cs ∨ BeginsWith "note" cs then .info
  else if BeginsWith "warning" cs then .warning
  else if BeginsWith "error" cs then .error
  else fallback

theorem hinted_of_forall_not {fallback : Severity} {cs : List Char}
    (h : ∀ word ∈ ["info", "note", "warning", "error"], ¬ BeginsWith word cs) :
    hinted fallback cs = fallback := by
  simp only [List.forall_mem_cons] at h
  obtain ⟨hinfo, hnote, hwarning, herror, -⟩ := h
  simp [hinted, hinfo, hnote, hwarning, herror]

/-! ## Classifying -/

/-- Whether a classifier skips nothing but characters of ASCII that are no letters. -/
def SkipsMarks (classifier : Classifier) : Prop := IsUnlettered classifier.skipped.toList.contains

theorem skipsMarks_of_preset
    (h : classifier.skipped = blanks.skipped ∨ classifier.skipped = punctuation.skipped) :
    classifier.SkipsMarks := by
  have hblanks : (blanks.skipped.toList.all fun c => c.toNat < 128 && !isAsciiLetter c) = true := by
    decide
  have hpunctuation :
      (punctuation.skipped.toList.all fun c => c.toNat < 128 && !isAsciiLetter c) = true := by
    decide
  have hall : (classifier.skipped.toList.all fun c => c.toNat < 128 && !isAsciiLetter c) = true := by
    rcases h with h | h <;> rw [h]
    · exact hblanks
    · exact hpunctuation
  intro c hc
  have hmark := List.all_eq_true.mp hall c (List.contains_iff_mem.mp hc)
  simpa using hmark

/-- A text in lower case begins with one of the words, behind what is skipped, if the text itself does. -/
theorem SkipsMarks.isPrefixOf_iff (h : classifier.SkipsMarks) {word : String}
    (hword : isClear word.toList = true) :
    word.toList.isPrefixOf ((lower text.toList).dropWhile classifier.skipped.toList.contains) = true
      ↔ BeginsWith word (classifier.stripped text) := by
  rw [List.isPrefixOf_iff_prefix, lower, h.dropWhile_lowerAfter, prefix_lowerAfter_iff hword]
  rfl

theorem isClear_of_mem_words : ∀ entry ∈ words, isClear entry.1.toList = true := by
  decide

theorem SkipsMarks.classify_eq (h : classifier.SkipsMarks) (text : String) :
    classifier.classify text = hinted classifier.fallback (classifier.stripped text) := by
  have hfind : (words.find? fun entry => entry.1.toList.isPrefixOf
        ((lower text.toList).dropWhile classifier.skipped.toList.contains))
      = words.find? fun entry => decide (BeginsWith entry.1 (classifier.stripped text)) := by
    apply List.find?_congr
    intro entry hentry
    rw [Bool.eq_iff_iff, h.isPrefixOf_iff (isClear_of_mem_words entry hentry), decide_eq_true_eq]
  unfold classify
  simp only [hfind]
  -- the words in their order
  by_cases hinfo : BeginsWith "info" (classifier.stripped text)
  · simp [words, hinted, hinfo]
  · by_cases hnote : BeginsWith "note" (classifier.stripped text)
    · simp [words, hinted, hinfo, hnote]
    · by_cases hwarning : BeginsWith "warning" (classifier.stripped text)
      · simp [words, hinted, hinfo, hnote, hwarning]
      · by_cases herror : BeginsWith "error" (classifier.stripped text)
        · simp [words, hinted, hinfo, hnote, hwarning, herror]
        · simp [words, hinted, hinfo, hnote, hwarning, herror]

theorem stripped_append {marks : String} (h : ∀ c ∈ marks.toList, c ∈ classifier.skipped.toList)
    (text : String) : classifier.stripped (marks ++ text) = classifier.stripped text := by
  unfold stripped
  rw [String.toList_append, List.dropWhile_append_of_pos]
  intro c hc
  rw [List.contains_iff_mem]
  exact h c hc

/-- **The severity of a text depends on the case of ASCII letters only.** A classifier that skips blanks,
or blanks and punctuation, gives a text the severity that its own beginning hints at behind what is
skipped. So nothing of what is skipped changes the severity of a text when it is put in front, and a text
that does not begin with one of the words in letters of ASCII has the severity of texts without a word. -/
theorem classify_caseless
    (h : classifier.skipped = blanks.skipped ∨ classifier.skipped = punctuation.skipped)
    (text : String) :
    classifier.classify text = hinted classifier.fallback (classifier.stripped text) ∧
      (∀ marks : String, (∀ c ∈ marks.toList, c ∈ classifier.skipped.toList) →
        classifier.classify (marks ++ text) = classifier.classify text) ∧
      ((∀ word ∈ ["info", "note", "warning", "error"],
          ¬ BeginsWith word (classifier.stripped text)) →
        classifier.classify text = classifier.fallback) := by
  have hskips := skipsMarks_of_preset h
  refine ⟨hskips.classify_eq text, fun marks hmarks => ?_, fun hnone => ?_⟩
  · rw [hskips.classify_eq, hskips.classify_eq, stripped_append hmarks]
  · rw [hskips.classify_eq, hinted_of_forall_not hnone]

/-- Skips as `punctuation` does, and takes texts without a word for errors. -/
def strict : Classifier := { punctuation with fallback := .error }

/-- A text in brackets with letters of both cases, and one with a capital I that is not in ASCII. -/
theorem strict_classify :
    strict.classify "[*noTE\u212aΣ" = .info ∧ strict.classify ("(\"" ++ "[*noTE\u212aΣ") = .info ∧
      strict.classify "(İnfo" = .error := by
  have hpreset : strict.skipped = blanks.skipped ∨ strict.skipped = punctuation.skipped := Or.inr rfl
  obtain ⟨hclassify, hmarks, -⟩ := classify_caseless hpreset "[*noTE\u212aΣ"
  have hinfo : strict.classify "[*noTE\u212aΣ" = .info := by
    rw [hclassify]
    decide
  have hdotted : strict.classify "(İnfo" = .error := (classify_caseless hpreset "(İnfo").2.2 (by decide)
  have hskipped : ∀ c ∈ "(\"".toList, c ∈ strict.skipped.toList := by simp [strict, punctuation]
  refine ⟨hinfo, ?_, hdotted⟩
  rw [hmarks "(\"" hskipped]
  exact hinfo

end LintRunner.Classifier
