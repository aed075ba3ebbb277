import Mathlib.Data.List.Forall2
import LintRunner.Severity
import LintRunner.Proofs.Ordered
import LintRunner.Proofs.Text.Case

/-!
# The severity of a label

A label is looked up in a table, and judged as a text if the table does not know it. Neither depends on
case (`severityOfLabel_caseless`): blanks are cut off a label before it is put in lower case and skipped in
a text after that, and both orders give the same key. Of several keys that differ in case only the first
one in the table decides.
-/

set_option autoImplicit false

namespace LintRunner

open Text

variable {labels labels' more : Labels} {classifier : Classifier} {a b label : String}

def SameCase (a b : String) : Prop := lower a.toList = lower b.toList

instance (a b : String) : Decidable (SameCase a b) :=
  inferInstanceAs (Decidable (lower a.toList = lower b.toList))

/-- Whether a label stands for a key of a table: it does so with blanks around it and in any case. -/
def StandsFor (label key : String) : Prop := lower (trim label.toList) = lower key.toList

instance (label key : String) : Decidable (StandsFor label key) :=
  inferInstanceAs (Decidable (lower (trim label.toList) = lower key.toList))

/-- The same levels, in the same order, under keys that differ in case only. -/
def Labels.Recased (labels labels' : Labels) : Prop :=
  List.Forall₂ (fun entry entry' => SameCase entry.1 entry'.1 ∧ entry.2 = entry'.2) labels labels'

/-! ## Looking up -/

/-- In a table, whose keys all differ, the first key that a label stands for is found. -/
theorem Labels.find?_of_nodup (htable : (Ordered.keys labels).Nodup) (label : String) :
    labels.find? label = (List.find? (fun entry => StandsFor label entry.1) labels).map Prod.snd := by
  have hsame : (fun entry : String × Level => lower entry.1.toList == lower (trim label.toList))
      = fun entry => decide (StandsFor label entry.1) := by
    funext entry
    rw [Bool.eq_iff_iff, beq_iff_eq, decide_eq_true_eq]
    exact eq_comm
  rw [Labels.find?, Ordered.ofList_of_nodup htable, hsame]

/-- Labels that differ in case only stand for the same keys. -/
theorem Labels.find?_of_sameCase (h : SameCase a b) : labels.find? a = labels.find? b := by
  have hkey : lower (trim a.toList) = lower (trim b.toList) := by
    rw [lower_trim, lower_trim, h]
  rw [Labels.find?, Labels.find?, hkey]

theorem Classifier.classify_of_sameCase (h : SameCase a b) :
    classifier.classify a = classifier.classify b := by
  rw [Classifier.classify, Classifier.classify, h]

theorem Labels.Recased.find?_eq (h : labels.Recased labels') (htable : (Ordered.keys labels).Nodup)
    (htable' : (Ordered.keys labels').Nodup) (label : String) :
    labels'.find? label = labels.find? label := by
  rw [Labels.find?_of_nodup htable, Labels.find?_of_nodup htable']
  clear htable htable'
  induction h with
  | nil => rfl
  | @cons entry entry' labels labels' hentry _ ih =>
      obtain ⟨hkey, hlevel⟩ := hentry
      have hstands : StandsFor label entry'.1 ↔ StandsFor label entry.1 := by
        rw [StandsFor, StandsFor, hkey]
      by_cases hfirst : StandsFor label entry.1
      · rw [List.find?_cons_of_pos (by simpa using hstands.mpr hfirst),
          List.find?_cons_of_pos (by simpa using hfirst), Option.map_some, Option.map_some, hlevel]
      · rw [List.find?_cons_of_neg (by simpa using fun h => hfirst (hstands.mp h)),
          List.find?_cons_of_neg (by simpa using hfirst), ih]

theorem Labels.find?_of_first {before after : Labels} {key : String} {level : Level}
    (htable : (Ordered.keys (before ++ (key, level) :: after)).Nodup)
    (hbefore : ∀ entry ∈ before, ¬ SameCase entry.1 key) (h : StandsFor label key) :
    Labels.find? (before ++ (key, level) :: after) label = some level := by
  have hnone : List.find? (fun entry => decide (StandsFor label entry.1)) before = none := by
    rw [List.find?_eq_none]
    intro entry hentry hstands
    exact hbefore entry hentry ((of_decide_eq_true hstands).symm.trans h)
  rw [Labels.find?_of_nodup htable, List.find?_append, hnone, Option.none_or,
    List.find?_cons_of_pos (by simpa using h)]
  rfl

/-- A key that differs in case only from one in front of it is never found. -/
theorem Labels.find?_append (htable : (Ordered.keys (labels ++ more)).Nodup)
    (hmore : ∀ entry ∈ more, ∃ entry' ∈ labels, SameCase entry.1 entry'.1) (label : String) :
    Labels.find? (labels ++ more) label = labels.find? label := by
  have hlabels : (Ordered.keys labels).Nodup := by
    rw [Ordered.keys_append] at htable
    exact (List.nodup_append.mp htable).1
  rw [Labels.find?_of_nodup htable, Labels.find?_of_nodup hlabels, List.find?_append]
  cases hfind : List.find? (fun entry => decide (StandsFor label entry.1)) labels with
  | some entry => rfl
  | none =>
      rw [List.find?_eq_none] at hfind
      have hnone : List.find? (fun entry => decide (StandsFor label entry.1)) more = none := by
        rw [List.find?_eq_none]
        intro entry hentry hstands
        obtain ⟨entry', hentry', hsame⟩ := hmore entry hentry
        exact hfind entry' hentry' (decide_eq_true ((of_decide_eq_true hstands).trans hsame))
      rw [hnone]
      rfl

/-! ## Severities -/

theorem severityOfLabel_of_find? (h : labels'.find? label = labels.find? label) :
    severityOfLabel labels' classifier label = severityOfLabel labels classifier label := by
  rw [severityOfLabel, severityOfLabel, h]

/-- A word that is looked up in a table of severities has a severity. -/
theorem exists_severityOfLabel {table : Labels}
    (htable : ∀ entry ∈ table, ∃ severity, entry.2 = .known severity) (classifier : Classifier)
    (word : String) : ∃ severity, severityOfLabel table classifier word = .ok severity := by
  rw [severityOfLabel]
  cases hfind : table.find? word with
  | none => exact ⟨_, rfl⟩
  | some level =>
      rw [Labels.find?, Option.map_eq_some_iff] at hfind
      obtain ⟨entry, hentry, rfl⟩ := hfind
      obtain ⟨severity, hseverity⟩ := Ordered.forall_mem_ofList
        (P := fun level => ∃ severity, level = .known severity) htable entry
        (List.mem_of_find?_eq_some hentry)
      rw [hseverity]
      exact ⟨severity, rfl⟩

/-- **The severity of a label does not depend on case.** In a table with one known severity for each key,
labels that differ in case only find the same entry, are judged alike as texts, and so have the same
severity. Keys may be written in any case as well, the first of several keys that differ in case only
decides, and no such key behind it makes a difference. -/
theorem severityOfLabel_caseless (htable : (Ordered.keys labels).Nodup)
    (hlevels : ∀ entry ∈ labels, ∃ severity, entry.2 = .known severity) (classifier : Classifier) :
    (∀ a b, SameCase a b → labels.find? a = labels.find? b ∧
      classifier.classify a = classifier.classify b ∧
      ∃ severity, severityOfLabel labels classifier a = .ok severity ∧
        severityOfLabel labels classifier b = .ok severity) ∧
    (∀ labels' : Labels, labels.Recased labels' → (Ordered.keys labels').Nodup →
      ∀ label, severityOfLabel labels' classifier label = severityOfLabel labels classifier label) ∧
    (∀ before key severity after, labels = before ++ (key, .known severity) :: after →
      (∀ entry ∈ before, ¬ SameCase entry.1 key) →
      ∀ label, StandsFor label key → severityOfLabel labels classifier label = .ok severity) ∧
    (∀ more : Labels, (Ordered.keys (labels ++ more)).Nodup →
      (∀ entry ∈ more, ∃ entry' ∈ labels, SameCase entry.1 entry'.1) →
      ∀ label, severityOfLabel (labels ++ more) classifier label
        = severityOfLabel labels classifier label) := by
  refine ⟨fun a b hsame => ?_, fun labels' hrecased htable' label => ?_, ?_,
    fun more hmore hshadowed label => ?_⟩
  · have hfind : labels.find? a = labels.find? b := Labels.find?_of_sameCase hsame
    have hclassify : classifier.classify a = classifier.classify b :=
      Classifier.classify_of_sameCase hsame
    obtain ⟨severity, hseverity⟩ := exists_severityOfLabel hlevels classifier a
    refine ⟨hfind, hclassify, severity, hseverity, ?_⟩
    rw [← hseverity, severityOfLabel, severityOfLabel, hfind, hclassify]
  · exact severityOfLabel_of_find? (hrecased.find?_eq htable htable' label)
  · rintro before key severity after rfl hbefore label hstands
    rw [severityOfLabel, Labels.find?_of_first htable hbefore hstands]
  · exact severityOfLabel_of_find? (Labels.find?_append hmore hshadowed label)

def scriptLabels : Labels := [("ΑΣ", .known .error), ("Fatal", .known .info)]

/-- A sigma between blanks ends its word in a label as it does in a key. -/
theorem scriptLabels_caseless :
    severityOfLabel scriptLabels .punctuation "\u2003ΑΣ\t" = .ok .error ∧
      severityOfLabel scriptLabels .punctuation "\u2003ας\t" = .ok .error ∧
      severityOfLabel [("ας", .known .error), ("FATAL", .known .info)] .punctuation "fatal " = .ok .info ∧
      severityOfLabel (scriptLabels ++ [("ας", .known .warning)]) .punctuation "Ας" = .ok .error := by
  have htable : (Ordered.keys scriptLabels).Nodup := by decide
  have hlevels : ∀ entry ∈ scriptLabels, ∃ severity, entry.2 = .known severity := by
    simp [scriptLabels]
  obtain ⟨hlabels, hrecased, hfirst, hshadowed⟩ :=
    severityOfLabel_caseless htable hlevels .punctuation
  have herror : ∀ label, StandsFor label "ΑΣ" →
      severityOfLabel scriptLabels .punctuation label = .ok .error :=
    hfirst [] "ΑΣ" .error [("Fatal", .known .info)] rfl (by simp)
  have hblanks : severityOfLabel scriptLabels .punctuation "\u2003ΑΣ\t" = .ok .error :=
    herror _ (by decide +kernel)
  refine ⟨hblanks, ?_, ?_, ?_⟩
  · obtain ⟨-, -, severity, hupper, hlower⟩ := hlabels "\u2003ΑΣ\t" "\u2003ας\t" (by decide +kernel)
    rw [hlower, ← hupper, hblanks]
  · rw [hrecased [("ας", .known .error), ("FATAL", .known .info)]
      (.cons ⟨by decide +kernel, rfl⟩ (.cons ⟨by decide +kernel, rfl⟩ .nil)) (by decide)]
    exact hfirst [("ΑΣ", .known .error)] "Fatal" .info [] rfl
      (by simpa using (by decide +kernel : ¬ SameCase "ΑΣ" "Fatal")) _ (by decide +kernel)
  · rw [hshadowed [("ας", .known .warning)] (by decide) (by
      simp only [List.forall_mem_singleton]
      exact ⟨("ΑΣ", .known .error), List.mem_cons_self, by decide +kernel⟩)]
    exact herror _ (by decide +kernel)

end LintRunner
