import LintRunner.Text.Words

/-!
# Quoted words

Words that are quoted and joined by spaces are read back one by one, whatever they hold
(`splitWords_joinWords`). Between single quotes every character stands for itself but the single quote;
that one is written by closing the quotes, writing it between double quotes and opening them again, and
the reader stays inside one word all the while.
-/

set_option autoImplicit false

namespace LintRunner.Text

def quotedChar (c : Char) : List Char :=
  if c == '\'' then ['\'', '"', '\'', '"', '\''] else [c]

theorem quoteWord_eq (word : List Char) :
    quoteWord word = '\'' :: word.flatMap quotedChar ++ ['\''] := rfl

/-! ## Reading -/

/-- What stands for a character is read as that character, and the reader is between single quotes
afterwards as it was before. -/
theorem splitWordsFrom_quotedChar (c : Char) (current rest : List Char) :
    splitWordsFrom (.quote '\'') current (quotedChar c ++ rest)
      = splitWordsFrom (.quote '\'') (c :: current) rest := by
  by_cases hc : c = '\''
  · -- out of the quotes, through the double ones, and in again
    subst hc
    simp [quotedChar, splitWordsFrom, separatesWords, isQuote]
  · have hplain : quotedChar c = [c] := by simp [quotedChar, hc]
    rw [hplain, List.singleton_append, splitWordsFrom]
    simp [hc]

theorem splitWordsFrom_flatMap_quotedChar (word current rest : List Char) :
    splitWordsFrom (.quote '\'') current (word.flatMap quotedChar ++ rest)
      = splitWordsFrom (.quote '\'') (word.reverse ++ current) rest := by
  induction word generalizing current with
  | nil => rfl
  | cons c word ih =>
      rw [List.flatMap_cons, List.append_assoc, splitWordsFrom_quotedChar, ih, List.reverse_cons,
        List.append_assoc, List.singleton_append]

/-- A quoted word is read as one word. What stands behind it is read as the rest of that word. -/
theorem splitWordsFrom_quoteWord (word rest : List Char) :
    splitWordsFrom .gap [] (quoteWord word ++ rest) = splitWordsFrom .word word.reverse rest := by
  have hopen : splitWordsFrom .gap [] (quoteWord word ++ rest)
      = splitWordsFrom (.quote '\'') [] (word.flatMap quotedChar ++ '\'' :: rest) := by
    rw [quoteWord_eq]
    simp [splitWordsFrom, separatesWords, isQuote]
  have hclose : splitWordsFrom (.quote '\'') word.reverse ('\'' :: rest)
      = splitWordsFrom .word word.reverse rest := by
    simp [splitWordsFrom]
  rw [hopen, splitWordsFrom_flatMap_quotedChar, List.append_nil, hclose]

/-! ## Joining -/

theorem joinWords_cons_cons (word next : List Char) (words : List (List Char)) :
    joinWords (word :: next :: words) = word ++ ' ' :: joinWords (next :: words) := by
  simp [joinWords, List.intercalate]

/-- **Quoted words are read back**: no character of a word ends it, and none is taken for anything but
itself. -/
theorem splitWords_joinWords (words : List (List Char)) :
    splitWords (joinWords (words.map quoteWord)) = .ok words := by
  unfold splitWords
  induction words with
  | nil => rfl
  | cons word words ih =>
      cases words with
      | nil =>
          have htext : joinWords ([word].map quoteWord) = quoteWord word ++ [] := by
            simp [joinWords, List.intercalate]
          rw [htext, splitWordsFrom_quoteWord]
          simp [splitWordsFrom]
      | cons next words =>
          -- the space behind the closing quote ends the word, and the next one is read from a gap
          rw [List.map_cons, List.map_cons, joinWords_cons_cons, splitWordsFrom_quoteWord]
          rw [splitWordsFrom, ← List.map_cons, ih]
          simp [separatesWords, Except.map]

end LintRunner.Text
