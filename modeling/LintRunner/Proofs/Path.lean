import LintRunner.Path
import LintRunner.Proofs.Text.Lines

/-!
# Texts of paths

The text of a path is read as that path again (`ofString_text`), so a path may be handed on as a text. A
path is bare if it is the path of a text without slashes (`isBare_iff`).
-/

set_option autoImplicit false

namespace LintRunner.Path

open Text

variable {p : Path} {s : String} {body : List Char}

/-! ## Parts -/

/-- Whether a text can be a part of a path: neither empty nor a dot, and without slashes. -/
structure IsPart (part : String) : Prop where
  ne_empty : part ≠ ""
  ne_dot : part ≠ "."
  not_mem : '/' ∉ part.toList

theorem isPart_of_mem_partsOf {cs : List Char} : ∀ part ∈ partsOf cs, IsPart part := by
  intro part hpart
  rw [partsOf, List.mem_filter, List.mem_map] at hpart
  obtain ⟨⟨chars, hchars, rfl⟩, hkept⟩ := hpart
  simp only [Bool.and_eq_true, bne_iff_ne, ne_eq] at hkept
  refine ⟨hkept.1, hkept.2, ?_⟩
  rw [String.toList_ofList]
  exact not_mem_of_mem_splitOnChar hchars

/-- A path that is read consists of such parts. -/
theorem isPart_of_mem_parts (s : String) : ∀ part ∈ (ofString s).parts, IsPart part :=
  isPart_of_mem_partsOf

/-- The parts of a path are those in front of a slash and those behind it. -/
theorem partsOf_append_cons (cs rest : List Char) :
    partsOf (cs ++ '/' :: rest) = partsOf cs ++ partsOf rest := by
  rw [partsOf, splitOnChar_append_cons, List.map_append, List.filter_append]
  rfl

theorem partsOf_slash (cs : List Char) : partsOf ('/' :: cs) = partsOf cs :=
  partsOf_append_cons [] cs

def joined (parts : List String) : List Char := ['/'].intercalate (parts.map String.toList)

theorem partsOf_joined {parts : List String} (h : ∀ part ∈ parts, IsPart part) :
    partsOf (joined parts) = parts := by
  by_cases hnone : parts = []
  · subst hnone
    decide
  · have hsplit : splitOnChar '/' (joined parts) = parts.map String.toList := by
      apply splitOnChar_intercalate (by simpa using hnone)
      rw [List.forall_mem_map]
      exact fun part hpart => (h part hpart).not_mem
    have hkept : ∀ part ∈ parts, (part != "" && part != ".") = true := by
      intro part hpart
      simp [(h part hpart).ne_empty, (h part hpart).ne_dot]
    rw [partsOf, hsplit, List.map_map, Function.comp_def]
    simp only [String.ofList_toList, List.map_id']
    exact List.filter_eq_self.mpr hkept

/-- Joined parts do not begin with a slash. -/
theorem head?_joined {parts : List String} (h : ∀ part ∈ parts, IsPart part) :
    (joined parts).head? ≠ some '/' := by
  cases parts with
  | nil => simp [joined]
  | cons part parts =>
      have hpart := h part List.mem_cons_self
      have hne : part.toList ≠ [] := by simpa using hpart.ne_empty
      obtain ⟨c, cs, hcs⟩ := List.exists_cons_of_ne_nil hne
      have hc : c ≠ '/' := by
        rintro rfl
        exact hpart.not_mem (by simp [hcs])
      have hhead : (joined (part :: parts)).head? = some c := by
        cases parts <;> simp [joined, hcs, List.intercalate_singleton, List.intercalate_cons_cons]
      rw [hhead]
      simpa using hc

/-! ## Roots -/

theorem rootOf_append (root : Root) (h : body.head? ≠ some '/') :
    rootOf ((rootText root).toList ++ body) = root := by
  cases body with
  | nil => cases root <;> decide
  | cons c cs =>
      have hc : c ≠ '/' := by simpa using h
      cases root <;> simp [rootText, rootOf, hc]

theorem partsOf_append (root : Root) (body : List Char) :
    partsOf ((rootText root).toList ++ body) = partsOf body := by
  cases root with
  | relative => rfl
  | single => exact partsOf_slash body
  | double => exact (partsOf_slash _).trans (partsOf_slash body)

/-! ## Texts -/

theorem toList_text (h : ¬ (p.root == .relative && p.parts.isEmpty) = true) :
    p.text.toList = (rootText p.root).toList ++ joined p.parts := by
  rw [text, if_neg h, String.toList_append, String.toList_intercalate]
  rfl

/-- **The text of a path is read as that path.** -/
theorem ofString_text (h : ∀ part ∈ p.parts, IsPart part) : ofString p.text = p := by
  by_cases hempty : (p.root == .relative && p.parts.isEmpty) = true
  · obtain ⟨root, parts⟩ := p
    simp only [Bool.and_eq_true, beq_iff_eq, List.isEmpty_iff] at hempty
    obtain ⟨rfl, rfl⟩ := hempty
    decide
  · unfold ofString
    rw [toList_text hempty, rootOf_append p.root (head?_joined h), partsOf_append, partsOf_joined h]

theorem ofString_text_ofString (s : String) : ofString (ofString s).text = ofString s :=
  ofString_text (isPart_of_mem_parts s)

/-! ## Bare paths -/

theorem isBare_of_not_mem (h : '/' ∉ s.toList) : (ofString s).isBare = true := by
  have hroot : rootOf s.toList = .relative := by
    cases hs : s.toList with
    | nil => rfl
    | cons c cs =>
        have hc : c ≠ '/' := by
          rintro rfl
          exact h (by simp [hs])
        simp [rootOf, hc]
  have hparts : (partsOf s.toList).length ≤ 1 := by
    rw [partsOf, splitOnChar_of_not_mem h]
    exact Nat.le_trans (List.length_filter_le _ _) (by simp)
  simp [isBare, ofString, hroot, hparts]

theorem not_mem_text_of_isBare (hpart : ∀ part ∈ p.parts, IsPart part) (h : p.isBare = true) :
    '/' ∉ p.text.toList := by
  obtain ⟨root, parts⟩ := p
  simp only [isBare, Bool.and_eq_true, beq_iff_eq, decide_eq_true_eq] at h
  obtain ⟨rfl, hlength⟩ := h
  match parts with
  | [] => decide
  | [part] =>
      have htext : (Path.text ⟨.relative, [part]⟩).toList = part.toList := by
        rw [toList_text (by simp)]
        simp [rootText, joined, List.intercalate_singleton]
      rw [htext]
      exact (hpart part (by simp)).not_mem
  | _ :: _ :: _ => simp at hlength

/-- **A path is bare if it is the path of a text without slashes.** -/
theorem isBare_iff :
    (ofString s).isBare = true ↔ ∃ word : String, '/' ∉ word.toList ∧ ofString word = ofString s := by
  constructor
  · intro h
    exact ⟨(ofString s).text, not_mem_text_of_isBare (isPart_of_mem_parts s) h, ofString_text_ofString s⟩
  · rintro ⟨word, hword, heq⟩
    rw [← heq]
    exact isBare_of_not_mem hword

/-! ## Names -/

/-- What may stand behind the last part of a path: slashes and parts that are a single dot. -/
inductive Trailing : List Char → Prop
  | none : Trailing []
  | slash {rest : List Char} (more : Trailing rest) : Trailing ('/' :: rest)
  | dot {rest : List Char} (more : Trailing rest) : Trailing ('/' :: '.' :: rest)

/-- A text writes a path whose last part is the given one: any directories may stand before it. -/
def EndsIn (s name : String) : Prop :=
  IsPart name ∧ ∃ directories trail, s.toList = directories ++ (name.toList ++ trail) ∧
    (directories = [] ∨ ∃ before, directories = before ++ ['/']) ∧ Trailing trail

theorem splitOnChar_trailing {trail : List Char} (h : Trailing trail) :
    ∃ pieces, splitOnChar '/' trail = [] :: pieces ∧ ∀ piece ∈ pieces, piece = [] ∨ piece = ['.'] := by
  induction h with
  | none => exact ⟨[], rfl, fun piece hpiece => (by cases hpiece)⟩
  | slash _ ih =>
      obtain ⟨pieces, hpieces, hall⟩ := ih
      refine ⟨[] :: pieces, ?_, List.forall_mem_cons.mpr ⟨Or.inl rfl, hall⟩⟩
      rw [splitOnChar, hpieces]
      rfl
  | dot _ ih =>
      obtain ⟨pieces, hpieces, hall⟩ := ih
      refine ⟨['.'] :: pieces, ?_, List.forall_mem_cons.mpr ⟨Or.inr rfl, hall⟩⟩
      rw [splitOnChar, splitOnChar, hpieces]
      rfl

/-- What stands behind the last part is no part. -/
theorem partsOf_append_trailing (name : List Char) {trail : List Char} (h : Trailing trail) :
    partsOf (name ++ trail) = partsOf name := by
  have hdropped : ∀ {pieces : List (List Char)}, (∀ piece ∈ pieces, piece = [] ∨ piece = ['.']) →
      (pieces.map String.ofList).filter (fun part => part != "" && part != ".") = [] := by
    intro pieces hall
    rw [List.filter_eq_nil_iff, List.forall_mem_map]
    intro piece hpiece
    rcases hall piece hpiece with rfl | rfl <;> decide
  have hrest : ∀ {rest : List Char}, Trailing ('/' :: rest) → partsOf rest = [] := by
    intro rest hslash
    obtain ⟨pieces, hpieces, hall⟩ := splitOnChar_trailing hslash
    have hsplit : splitOnChar '/' ('/' :: rest) = [] :: splitOnChar '/' rest :=
      splitOnChar_append_cons [] rest
    rw [partsOf, (List.cons.inj (hsplit.symm.trans hpieces)).2]
    exact hdropped hall
  cases h with
  | none => rw [List.append_nil]
  | slash more => rw [partsOf_append_cons, hrest (.slash more), List.append_nil]
  | dot more => rw [partsOf_append_cons, hrest (.dot more), List.append_nil]

/-- **The name of a path is its last part**, whatever the directories before it are. -/
theorem EndsIn.name_eq {s name : String} (h : EndsIn s name) : (ofString s).name = name := by
  obtain ⟨hpart, directories, trail, htext, hdirectories, htrail⟩ := h
  have hone : partsOf name.toList = [name] := by
    have hjoined := partsOf_joined (List.forall_mem_singleton.mpr hpart)
    rwa [joined, List.map_singleton, List.intercalate_singleton] at hjoined
  have hparts : ∃ before, (ofString s).parts = before ++ [name] := by
    show ∃ before, partsOf s.toList = before ++ [name]
    rw [htext]
    rcases hdirectories with rfl | ⟨before, rfl⟩
    · exact ⟨[], by rw [List.nil_append, partsOf_append_trailing _ htrail, hone]; rfl⟩
    · refine ⟨partsOf before, ?_⟩
      rw [List.append_assoc, List.singleton_append, partsOf_append_cons,
        partsOf_append_trailing _ htrail, hone]
  obtain ⟨before, hparts⟩ := hparts
  rw [Path.name, hparts, List.getLast?_concat]
  rfl

/-! ## Suffixes -/

theorem suffixOf_of_not_mem {name : List Char} (h : '.' ∉ name) : suffixOf name = [] := by
  have htail : name.reverse.takeWhile (fun c => c != '.') = name.reverse :=
    (upTo_iff.mp ⟨by rwa [List.mem_reverse], Or.inl rfl⟩).symm
  have hshort : ¬ name.length + 1 < name.length := by omega
  rw [suffixOf, htail, List.reverse_reverse]
  exact if_neg (by simp [hshort])

/-- The suffix of a name begins at its last dot, unless that is its first or its last character. -/
theorem suffixOf_append {stem tail : List Char} (h : '.' ∉ tail) :
    suffixOf (stem ++ '.' :: tail) = if stem = [] ∨ tail = [] then [] else '.' :: tail := by
  have hreverse : (stem ++ '.' :: tail).reverse = tail.reverse ++ '.' :: stem.reverse := by simp
  have htail : ((stem ++ '.' :: tail).reverse.takeWhile fun c => c != '.').reverse = tail := by
    rw [hreverse, ← upTo_iff.mp ⟨by rwa [List.mem_reverse], Or.inr ⟨stem.reverse, rfl⟩⟩,
      List.reverse_reverse]
  rw [suffixOf]
  simp only [htail]
  by_cases hstem : stem = []
  · simp [hstem]
  · have hlong : tail.length + 1 < (stem ++ '.' :: tail).length := by
      have hpos : 0 < stem.length := List.length_pos_iff.mpr hstem
      rw [List.length_append, List.length_cons]
      omega
    by_cases hnone : tail = []
    · simp [hnone]
    · rw [if_pos (by simpa [hnone] using hlong), if_neg (by simp [hstem, hnone])]

/-- Every text without a dot or with a last one. -/
theorem exists_last_dot {name : List Char} (h : '.' ∈ name) :
    ∃ stem tail, name = stem ++ '.' :: tail ∧ '.' ∉ tail := by
  obtain ⟨tail, stem, hreverse, htail⟩ := List.eq_append_cons_of_mem (List.mem_reverse.mpr h)
  refine ⟨stem.reverse, tail.reverse, ?_, by rwa [List.mem_reverse]⟩
  rw [← List.reverse_reverse name, hreverse]
  simp

end LintRunner.Path
