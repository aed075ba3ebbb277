import LintRunner.Proofs.Format.Compilation

/-!
# Lines and their ends

The part of a line that is matched, said without functions (`IsMatchedText`, `isMatchedText_iff`), and
the way from lines to a text and back to the lines, whether the last one is ended or not
(`splitLines_terminated_eq_map`, `splitLines_terminated_append`). What ends a line and what follows a NUL
has no influence on a match (`Matcher.apply_ended`).
-/

set_option autoImplicit false

namespace LintRunner.Text

variable {c d sep : Char} {cs : List Char}

/-! ## Final characters -/

theorem dropFinal_concat (c : Char) (cs : List Char) : dropFinal c (cs ++ [c]) = cs := by
  rw [dropFinal, List.reverse_append, List.reverse_singleton, List.singleton_append]
  simp only [beq_self_eq_true, if_true, List.reverse_reverse]

theorem dropFinal_concat_of_ne (h : d ≠ c) (cs : List Char) :
    dropFinal c (cs ++ [d]) = cs ++ [d] := by
  have hne : (d == c) = false := by simpa using h
  rw [dropFinal, List.reverse_append, List.reverse_singleton, List.singleton_append]
  simp only [hne]
  rfl

/-- A final character is dropped only if it is there. -/
theorem dropFinal_of_getLast? (h : ∀ d ∈ cs.getLast?, d ≠ c) : dropFinal c cs = cs := by
  rcases List.eq_nil_or_concat cs with rfl | ⟨init, d, rfl⟩
  · rfl
  · rw [List.concat_eq_append] at h ⊢
    exact dropFinal_concat_of_ne (h d (by rw [List.getLast?_concat]; rfl)) init

theorem dropFinal_of_not_mem (h : c ∉ cs) : dropFinal c cs = cs :=
  dropFinal_of_getLast? fun _ hd hsame => h (hsame ▸ List.mem_of_mem_getLast? hd)

/-- A final character is dropped behind another one, if at all. -/
theorem exists_dropFinal_append (h : d ≠ c) (cs rest : List Char) :
    ∃ rest', dropFinal c (cs ++ d :: rest) = cs ++ d :: rest' := by
  rcases List.eq_nil_or_concat rest with rfl | ⟨init, e, rfl⟩
  · exact ⟨[], dropFinal_concat_of_ne h cs⟩
  · have hsplit : cs ++ d :: init.concat e = (cs ++ d :: init) ++ [e] := by simp
    rw [hsplit]
    by_cases he : e = c
    · subst he
      exact ⟨init, dropFinal_concat _ _⟩
    · exact ⟨init ++ [e], by rw [dropFinal_concat_of_ne he]; simp⟩

/-- What is left without one final character of a kind, if there is one. -/
def Chomps (c : Char) (cs rest : List Char) : Prop :=
  cs = rest ++ [c] ∨ (rest = cs ∧ ∀ init, cs ≠ init ++ [c])

theorem chomps_iff {rest : List Char} : Chomps c cs rest ↔ rest = dropFinal c cs := by
  constructor
  · rintro (rfl | ⟨rfl, hlast⟩)
    · exact (dropFinal_concat c rest).symm
    · rcases List.eq_nil_or_concat rest with rfl | ⟨init, d, rfl⟩
      · rfl
      · rw [List.concat_eq_append] at hlast ⊢
        refine (dropFinal_concat_of_ne ?_ init).symm
        rintro rfl
        exact hlast init rfl
  · rintro rfl
    rcases List.eq_nil_or_concat cs with rfl | ⟨init, d, rfl⟩
    · exact Or.inr ⟨rfl, fun init h => by simp at h⟩
    · rw [List.concat_eq_append]
      by_cases hd : d = c
      · subst hd
        rw [dropFinal_concat]
        exact Or.inl rfl
      · rw [dropFinal_concat_of_ne hd]
        exact Or.inr ⟨rfl, fun init' h => hd (by simpa using (List.append_inj' h rfl).2)⟩

/-- What comes before the first character of a kind, or everything if there is none. -/
def UpTo (c : Char) (cs before : List Char) : Prop :=
  c ∉ before ∧ (cs = before ∨ ∃ after, cs = before ++ c :: after)

theorem upTo_cons_self {before : List Char} : UpTo c (c :: cs) before ↔ before = [] := by
  constructor
  · rintro ⟨hmem, rfl | ⟨after, h⟩⟩
    · exact absurd List.mem_cons_self hmem
    · cases before with
      | nil => rfl
      | cons e before =>
          obtain ⟨rfl, -⟩ := List.cons.inj h
          exact absurd List.mem_cons_self hmem
  · rintro rfl
    exact ⟨List.not_mem_nil, Or.inr ⟨cs, rfl⟩⟩

theorem upTo_cons_of_ne {d : Char} {before : List Char} (hd : d ≠ c) :
    UpTo c (d :: cs) before ↔ ∃ rest, before = d :: rest ∧ UpTo c cs rest := by
  constructor
  · rintro ⟨hmem, rfl | ⟨after, h⟩⟩
    · exact ⟨cs, rfl, fun hc => hmem (List.mem_cons_of_mem _ hc), Or.inl rfl⟩
    · cases before with
      | nil => exact absurd (List.cons.inj h).1 hd
      | cons e before =>
          obtain ⟨rfl, hrest⟩ := List.cons.inj h
          exact ⟨before, rfl, fun hc => hmem (List.mem_cons_of_mem _ hc), Or.inr ⟨after, hrest⟩⟩
  · rintro ⟨rest, rfl, hmem, hrest⟩
    refine ⟨by rw [List.mem_cons, not_or]; exact ⟨Ne.symm hd, hmem⟩, ?_⟩
    rcases hrest with rfl | ⟨after, rfl⟩
    · exact Or.inl rfl
    · exact Or.inr ⟨after, rfl⟩

theorem upTo_iff {before : List Char} : UpTo c cs before ↔ before = cs.takeWhile (· != c) := by
  induction cs generalizing before with
  | nil =>
      constructor
      · rintro ⟨-, rfl | ⟨after, h⟩⟩
        · rfl
        · exact absurd h.symm (by simp)
      · rintro rfl
        exact ⟨List.not_mem_nil, Or.inl rfl⟩
  | cons d cs ih =>
      by_cases hd : d = c
      · rw [hd, upTo_cons_self, List.takeWhile_cons_of_neg (by simp)]
      · rw [upTo_cons_of_ne hd, List.takeWhile_cons_of_pos (by simpa using hd)]
        constructor
        · rintro ⟨rest, rfl, hrest⟩
          rw [ih.mp hrest]
        · rintro rfl
          exact ⟨_, rfl, ih.mpr rfl⟩

/-! ## Splitting -/

theorem splitOnChar_of_not_mem (h : sep ∉ cs) : splitOnChar sep cs = [cs] := by
  induction cs with
  | nil => rfl
  | cons c cs ih =>
      rw [List.mem_cons, not_or] at h
      rw [splitOnChar, ih h.2]
      exact if_neg (by simpa using Ne.symm h.1)

theorem splitOnChar_ne_nil (sep : Char) (cs : List Char) : splitOnChar sep cs ≠ [] := by
  cases cs with
  | nil => exact List.cons_ne_nil _ _
  | cons c cs =>
      rw [splitOnChar]
      split
      · exact List.cons_ne_nil _ _
      · split <;> exact List.cons_ne_nil _ _

/-- The parts of a text are those in front of a separator and those behind it. -/
theorem splitOnChar_append_cons (cs rest : List Char) :
    splitOnChar sep (cs ++ sep :: rest) = splitOnChar sep cs ++ splitOnChar sep rest := by
  induction cs with
  | nil =>
      obtain ⟨part, parts, hparts⟩ := List.exists_cons_of_ne_nil (splitOnChar_ne_nil sep rest)
      show splitOnChar sep (sep :: rest) = [] :: splitOnChar sep rest
      rw [splitOnChar, hparts]
      exact if_pos (beq_self_eq_true sep)
  | cons c cs ih =>
      obtain ⟨part, parts, hparts⟩ := List.exists_cons_of_ne_nil (splitOnChar_ne_nil sep cs)
      rw [hparts] at ih
      rw [List.cons_append, splitOnChar, ih, splitOnChar, hparts]
      by_cases hc : c = sep
      · simp [hc]
      · simp [hc]

theorem splitOnChar_append (h : sep ∉ cs) (rest : List Char) :
    splitOnChar sep (cs ++ sep :: rest) = cs :: splitOnChar sep rest := by
  rw [splitOnChar_append_cons, splitOnChar_of_not_mem h]
  rfl

theorem not_mem_of_mem_splitOnChar {part : List Char} (h : part ∈ splitOnChar sep cs) : sep ∉ part := by
  induction cs generalizing part with
  | nil =>
      obtain rfl := List.mem_singleton.mp h
      exact List.not_mem_nil
  | cons c cs ih =>
      obtain ⟨first, parts, hparts⟩ := List.exists_cons_of_ne_nil (splitOnChar_ne_nil sep cs)
      rw [hparts, List.forall_mem_cons] at ih
      rw [splitOnChar, hparts] at h
      by_cases hc : c = sep
      · simp only [hc, beq_self_eq_true, if_true, List.mem_cons] at h
        rcases h with rfl | rfl | h
        · exact List.not_mem_nil
        · exact ih.1
        · exact ih.2 part h
      · simp only [beq_iff_eq, hc, if_false, List.mem_cons] at h
        rcases h with rfl | h
        · rw [List.mem_cons, not_or]
          exact ⟨Ne.symm hc, ih.1⟩
        · exact ih.2 part h

/-- Parts that are joined are split again. -/
theorem splitOnChar_intercalate {parts : List (List Char)} (hne : parts ≠ [])
    (h : ∀ part ∈ parts, sep ∉ part) : splitOnChar sep ([sep].intercalate parts) = parts := by
  induction parts with
  | nil => exact absurd rfl hne
  | cons part parts ih =>
      rw [List.forall_mem_cons] at h
      cases parts with
      | nil => rw [List.intercalate_singleton, splitOnChar_of_not_mem h.1]
      | cons next parts =>
          rw [List.intercalate_cons_cons, List.append_assoc, List.singleton_append,
            splitOnChar_append h.1, ih (List.cons_ne_nil _ _) h.2]

def terminated (lines : List (List Char)) : List Char := lines.flatMap (· ++ ['\n'])

theorem splitOnChar_terminated {lines : List (List Char)} {last : List Char}
    (hlines : ∀ line ∈ lines, '\n' ∉ line) (hlast : '\n' ∉ last) :
    splitOnChar '\n' (terminated lines ++ last) = lines ++ [last] := by
  induction lines with
  | nil => exact splitOnChar_of_not_mem hlast
  | cons line lines ih =>
      rw [List.forall_mem_cons] at hlines
      rw [terminated, List.flatMap_cons, List.append_assoc, List.append_assoc]
      show splitOnChar '\n' (line ++ '\n' :: (terminated lines ++ last)) = _
      rw [splitOnChar_append hlines.1, ih hlines.2]
      rfl

/-- Lines are read up to a carriage return at their ends, also if the last one is not ended. -/
theorem splitLines_terminated_append {lines : List (List Char)} {last : List Char}
    (hlines : ∀ line ∈ lines, '\n' ∉ line) (hlast : '\n' ∉ last) (hne : last ≠ []) :
    splitLines (terminated lines ++ last) = (lines ++ [last]).map (dropFinal '\r') := by
  obtain ⟨init, c, rfl⟩ := (List.eq_nil_or_concat last).resolve_left hne
  rw [List.concat_eq_append] at hlast ⊢
  have hc : c ≠ '\n' := by
    rintro rfl
    exact hlast (by simp)
  have hnonempty : (terminated lines ++ (init ++ [c])).isEmpty = false := by simp
  have hfinal : dropFinal '\n' (terminated lines ++ (init ++ [c])) = terminated lines ++ (init ++ [c]) := by
    rw [← List.append_assoc]
    exact dropFinal_concat_of_ne hc _
  unfold splitLines
  rw [hnonempty, hfinal, splitOnChar_terminated hlines hlast]
  rfl

theorem splitLines_terminated_eq_map {lines : List (List Char)} (h : ∀ line ∈ lines, '\n' ∉ line) :
    splitLines (terminated lines) = lines.map (dropFinal '\r') := by
  rcases List.eq_nil_or_concat lines with rfl | ⟨init, last, rfl⟩
  · rfl
  · rw [List.concat_eq_append] at h ⊢
    obtain ⟨hinit, hlast⟩ := List.forall_mem_append.mp h
    rw [List.forall_mem_singleton] at hlast
    have htext : terminated (init ++ [last]) = (terminated init ++ last) ++ ['\n'] := by
      simp [terminated]
    have hnonempty : (terminated (init ++ [last])).isEmpty = false := by rw [htext]; simp
    unfold splitLines
    rw [hnonempty, htext, dropFinal_concat, splitOnChar_terminated hinit hlast]
    rfl

/-- **Lines that are written one after the other are read back**, if none of them holds the end of a
line. -/
theorem splitLines_terminated {lines : List (List Char)}
    (h : ∀ line ∈ lines, '\n' ∉ line ∧ '\r' ∉ line) : splitLines (terminated lines) = lines := by
  rw [splitLines_terminated_eq_map fun line hline => (h line hline).1,
    List.map_congr_left fun line hline => dropFinal_of_not_mem (h line hline).2]
  exact List.map_id' _

end LintRunner.Text

namespace LintRunner

open Text

/-- The part of a line that is matched: one line feed and then one carriage return at its end are left
out, and so is everything from the first NUL on. -/
def IsMatchedText (line text : List Char) : Prop :=
  ∃ unfed uncarried, Chomps '\n' line unfed ∧ Chomps '\r' unfed uncarried ∧ UpTo '\x00' uncarried text

theorem isMatchedText_iff {line text : List Char} :
    IsMatchedText line text ↔ text = matchedText line := by
  constructor
  · rintro ⟨unfed, uncarried, hunfed, huncarried, hupTo⟩
    rw [chomps_iff] at hunfed huncarried
    rw [upTo_iff] at hupTo
    rw [hupTo, huncarried, hunfed, matchedText]
  · rintro rfl
    exact ⟨_, _, chomps_iff.mpr rfl, chomps_iff.mpr rfl, upTo_iff.mpr rfl⟩

/-! ## Ends of lines and matches -/

/-- Whether a text has an end of its own: a carriage return or a line feed. -/
def IsEnded (cs : List Char) : Prop := ∃ c ∈ cs.getLast?, c = '\r' ∨ c = '\n'

variable {cs : List Char}

/-- The first NUL ends what is matched, whatever is behind it. -/
theorem matchedText_of_nul (h : '\x00' ∉ cs) (rest : List Char) :
    matchedText (cs ++ '\x00' :: rest) = cs := by
  -- what may be cut off at the end lies behind the NUL
  obtain ⟨unfed, hunfed⟩ := exists_dropFinal_append (show '\x00' ≠ '\n' by decide) cs rest
  obtain ⟨uncarried, huncarried⟩ := exists_dropFinal_append (show '\x00' ≠ '\r' by decide) cs unfed
  rw [matchedText, hunfed, huncarried]
  exact (upTo_iff.mp ⟨h, Or.inr ⟨uncarried, rfl⟩⟩).symm

/-- One end of a line behind a text that has none is left out. -/
theorem matchedText_of_end (hnul : '\x00' ∉ cs) (hended : ¬ IsEnded cs) :
    ∀ ending ∈ ["", "\n", "\r", "\r\n"], matchedText (cs ++ ending.toList) = cs := by
  have hfeed : dropFinal '\n' cs = cs := dropFinal_of_getLast? fun d hd hsame =>
    hended ⟨d, hd, Or.inr hsame⟩
  have hreturn : dropFinal '\r' cs = cs := dropFinal_of_getLast? fun d hd hsame =>
    hended ⟨d, hd, Or.inl hsame⟩
  have hcut : cs.takeWhile (· != '\x00') = cs := (upTo_iff.mp ⟨hnul, Or.inl rfl⟩).symm
  have hcarried : dropFinal '\n' (cs ++ ['\r']) = cs ++ ['\r'] :=
    dropFinal_concat_of_ne (by decide) cs
  have hboth : cs ++ ['\r', '\n'] = (cs ++ ['\r']) ++ ['\n'] := by simp
  simp only [List.forall_mem_cons, List.not_mem_nil, false_implies, implies_true, and_true]
  refine ⟨?_, ?_, ?_, ?_⟩
  · show matchedText (cs ++ []) = cs
    rw [matchedText, List.append_nil, hfeed, hreturn, hcut]
  · show matchedText (cs ++ ['\n']) = cs
    rw [matchedText, dropFinal_concat, hreturn, hcut]
  · show matchedText (cs ++ ['\r']) = cs
    rw [matchedText, hcarried, dropFinal_concat, hcut]
  · show matchedText (cs ++ ['\r', '\n']) = cs
    rw [matchedText, hboth, dropFinal_concat, dropFinal_concat, hcut]

theorem Matcher.apply_of_matchedText (matcher : Matcher) {line line' : String}
    (h : matchedText line.toList = matchedText line'.toList) :
    matcher.apply line = matcher.apply line' := by
  rw [Matcher.apply, Matcher.apply, h]

/-- **What ends a line and what follows a NUL has no influence on a match.** A text without NULs that has
no end of its own gives the same with any end behind it, or with a NUL and anything else; with ends of its
own it still does not matter what follows the NUL. This holds for the matcher of every format, also if one
of its patterns asks for such characters. -/
theorem Matcher.apply_ended (matcher : Matcher) {text : String} (hnul : '\x00' ∉ text.toList)
    (rest rest' : String) :
    matcher.apply (text ++ "\x00" ++ rest) = matcher.apply (text ++ "\x00" ++ rest') ∧
      (¬ IsEnded text.toList →
        ∀ line ∈ [text ++ "\n", text ++ "\r", text ++ "\r\n", text ++ "\x00" ++ rest],
          matcher.apply line = matcher.apply text) := by
  have hbehind : ∀ rest : String, matchedText (text ++ "\x00" ++ rest).toList = text.toList := by
    intro rest
    rw [String.append_assoc, String.toList_append, String.toList_append]
    exact matchedText_of_nul hnul rest.toList
  refine ⟨matcher.apply_of_matchedText ?_, fun hended line hline => matcher.apply_of_matchedText ?_⟩
  · rw [hbehind, hbehind]
  · have hends := matchedText_of_end hnul hended
    simp only [List.forall_mem_cons, List.not_mem_nil, false_implies, implies_true, and_true,
      ← String.toList_append] at hends
    obtain ⟨hnone, hfeed, hreturn, hboth⟩ := hends
    rw [String.append_empty] at hnone
    rw [hnone]
    simp only [List.mem_cons, List.not_mem_nil, or_false] at hline
    rcases hline with rfl | rfl | rfl | rfl
    · exact hfeed
    · exact hreturn
    · exact hboth
    · exact hbehind rest

def endingFormat : Format where
  tokens := [.filename, .literal ":", .line, .literal ":", .message "message",
    .severityPattern "[\\r\\n\\x00]?" [] .blanks]
  fallback := .warning
  valid := by decide

theorem endingFormat_ended : ∃ matcher, endingFormat.compile = .ok matcher ∧
    (∀ line ∈ ["a.c:7:x\n", "a.c:7:x\r", "a.c:7:x\r\n", "a.c:7:x\x00\n"],
      matcher.apply line = matcher.apply "a.c:7:x") ∧
    matcher.apply "a.c:7:x\r\x00\r\n" = matcher.apply "a.c:7:x\r\x00y" := by
  obtain ⟨matcher, hcompile⟩ : ∃ matcher, endingFormat.compile = .ok matcher :=
    exists_of_isSome_toOption (by decide +kernel)
  refine ⟨matcher, hcompile, ?_, ?_⟩
  · have hnul : '\x00' ∉ "a.c:7:x".toList := by decide
    have hended : ¬ IsEnded "a.c:7:x".toList := by simp [IsEnded]
    exact (matcher.apply_ended hnul "\n" "").2 hended
  · have hnul : '\x00' ∉ "a.c:7:x\r".toList := by decide
    exact (matcher.apply_ended hnul "\r\n" "y").1

end LintRunner
