import LintRunner.Json.Reader
import LintRunner.Json.Tree
import LintRunner.Proofs.Text.Digits
import Mathlib.Data.List.Forall2

/-!
# Documents of JSON

A document is written in visible ASCII and line feeds (`Json.isTextChar_of_mem_render`), and its text is read
as the value that the document stands for (`Json.read?_text`), whatever characters its strings hold. What
is read of a text is told by `Json.Reads`: a part is taken from the front, and what follows is left.
-/

set_option autoImplicit false

namespace LintRunner.Json

open Text

/-! ## Characters -/

def IsTextChar (c : Char) : Prop := c.toNat = 10 ∨ 32 ≤ c.toNat ∧ c.toNat ≤ 126

instance (c : Char) : Decidable (IsTextChar c) :=
  inferInstanceAs (Decidable (c.toNat = 10 ∨ 32 ≤ c.toNat ∧ c.toNat ≤ 126))

theorem forall_isTextChar {text : List Char} (h : text.all (fun c => decide (IsTextChar c)) = true) :
    ∀ c ∈ text, IsTextChar c := fun c hc => of_decide_eq_true (List.all_eq_true.mp h c hc)

theorem isTextChar_of_mem_digits {n : Nat} : ∀ c ∈ digits n, IsTextChar c := by
  intro c hc
  have hdigit := isAsciiDigit_iff.mp (isAsciiDigit_of_mem_digits hc)
  right
  omega

theorem isTextChar_of_mem_hexDigits {width n : Nat} : ∀ c ∈ hexDigits width n, IsTextChar c := by
  have hdigit : ∀ n : Fin 16, IsTextChar (hexDigit n) := by decide
  induction width generalizing n with
  | zero => exact fun c hc => (by cases hc)
  | succ width ih =>
      rw [hexDigits, List.forall_mem_append, List.forall_mem_singleton]
      exact ⟨ih, hdigit ⟨n % 16, Nat.mod_lt _ (by decide)⟩⟩

theorem isTextChar_of_mem_unitEscape {n : Nat} : ∀ c ∈ unitEscape n, IsTextChar c := by
  rw [unitEscape, List.forall_mem_cons, List.forall_mem_cons]
  exact ⟨by decide, by decide, isTextChar_of_mem_hexDigits⟩

/-- What is not visible is written by its number. -/
theorem isTextChar_of_mem_escapeChar {e : Char} : ∀ c ∈ escapeChar e, IsTextChar c := by
  unfold escapeChar
  split
  iterate 7 exact forall_isTextChar (by decide)
  split
  · rename_i hvisible
    rw [Bool.and_eq_true, decide_eq_true_eq, decide_eq_true_eq] at hvisible
    rw [List.forall_mem_singleton]
    exact Or.inr hvisible
  · split
    · exact isTextChar_of_mem_unitEscape
    · rw [List.forall_mem_append]
      exact ⟨isTextChar_of_mem_unitEscape, isTextChar_of_mem_unitEscape⟩

theorem isTextChar_of_mem_quote {s : String} : ∀ c ∈ quote s, IsTextChar c := by
  rw [quote, List.cons_append, List.forall_mem_cons, List.forall_mem_append, List.forall_mem_singleton]
  refine ⟨by decide, fun c hc => ?_, by decide⟩
  obtain ⟨e, -, hc⟩ := List.mem_flatMap.mp hc
  exact isTextChar_of_mem_escapeChar c hc

theorem isTextChar_of_mem_newline {depth : Nat} : ∀ c ∈ newline depth, IsTextChar c := by
  rw [newline, List.forall_mem_cons]
  refine ⟨by decide, fun c hc => ?_⟩
  obtain rfl := List.eq_of_mem_replicate hc
  decide

/-- What holds of all characters of some parts and of what stands between them holds of the whole. -/
theorem forall_mem_intercalate {P : Char → Prop} {between : List Char} {parts : List (List Char)}
    (hbetween : ∀ c ∈ between, P c) (hparts : ∀ part ∈ parts, ∀ c ∈ part, P c) :
    ∀ c ∈ between.intercalate parts, P c := by
  induction parts with
  | nil => exact fun c hc => (by cases hc)
  | cons part parts ih =>
      rw [List.forall_mem_cons] at hparts
      cases parts with
      | nil =>
          rw [List.intercalate_singleton]
          exact hparts.1
      | cons next parts =>
          rw [List.intercalate_cons_cons, List.forall_mem_append, List.forall_mem_append]
          exact ⟨⟨hparts.1, hbetween⟩, ih hparts.2⟩

theorem isTextChar_of_mem_bracket {depth : Nat} {opening closing : Char} {parts : List (List Char)}
    (hopening : IsTextChar opening) (hclosing : IsTextChar closing)
    (hparts : ∀ part ∈ parts, ∀ c ∈ part, IsTextChar c) :
    ∀ c ∈ bracket depth opening closing parts, IsTextChar c := by
  have hcomma : ∀ c ∈ ',' :: newline (depth + 1), IsTextChar c :=
    List.forall_mem_cons.mpr ⟨by decide, isTextChar_of_mem_newline⟩
  rw [bracket]
  split
  · simp only [List.forall_mem_cons]
    exact ⟨hopening, hclosing, fun c hc => (by cases hc)⟩
  · simp only [List.cons_append, List.forall_mem_cons, List.forall_mem_append]
    exact ⟨hopening, ⟨⟨isTextChar_of_mem_newline, forall_mem_intercalate hcomma hparts⟩,
      isTextChar_of_mem_newline⟩, hclosing, fun c hc => (by cases hc)⟩

mutual

/-- **A document is written in visible ASCII and line feeds.** -/
theorem isTextChar_of_mem_render (depth : Nat) : ∀ json : Json, ∀ c ∈ render depth json, IsTextChar c
  | null => by rw [render]; exact forall_isTextChar (by decide)
  | number n => by rw [render]; exact isTextChar_of_mem_digits
  | string s => by rw [render]; exact isTextChar_of_mem_quote
  | array items => by
      rw [render]
      exact isTextChar_of_mem_bracket (by decide) (by decide) (isTextChar_of_mem_renderItems depth items)
  | object members => by
      rw [render]
      exact isTextChar_of_mem_bracket (by decide) (by decide) (isTextChar_of_mem_renderMembers depth members)

theorem isTextChar_of_mem_renderItems (depth : Nat) :
    ∀ items : List Json, ∀ part ∈ renderItems depth items, ∀ c ∈ part, IsTextChar c
  | [] => fun part h => by rw [renderItems] at h; cases h
  | item :: rest => by
      rw [renderItems, List.forall_mem_cons]
      exact ⟨isTextChar_of_mem_render (depth + 1) item, isTextChar_of_mem_renderItems depth rest⟩

theorem isTextChar_of_mem_renderMembers (depth : Nat) :
    ∀ members : List (String × Json), ∀ part ∈ renderMembers depth members, ∀ c ∈ part, IsTextChar c
  | [] => fun part h => by rw [renderMembers] at h; cases h
  | (key, value) :: rest => by
      rw [renderMembers, List.forall_mem_cons, List.forall_mem_append, List.forall_mem_append]
      have hcolon : ∀ c ∈ ": ".toList, IsTextChar c := forall_isTextChar (by decide)
      exact ⟨⟨⟨isTextChar_of_mem_quote, hcolon⟩, isTextChar_of_mem_render (depth + 1) value⟩,
        isTextChar_of_mem_renderMembers depth rest⟩

end

/-! ## Strings -/

/-- The numbers that a character is written with: its own, or those of its halves. -/
def unitsOf (c : Char) : List Nat :=
  if c.toNat < 0x10000 then [c.toNat]
  else [0xD800 + (c.toNat - 0x10000) / 0x400, 0xDC00 + (c.toNat - 0x10000) % 0x400]

theorem readUnits?_unitEscape {n : Nat} (h : n < 0x10000) (tail : List Char) :
    readUnits? (unitEscape n ++ tail) = (readUnits? tail).map fun (units, rest) => (n :: units, rest) := by
  have hdigit : ∀ d < 16, hexValue? (hexDigit d) = some d := by decide
  have hunit : unitOf? (hexDigits 4 n) = some n := by
    simp only [hexDigits, List.nil_append, List.cons_append, unitOf?, List.mapM_cons, List.mapM_nil,
      hdigit _ (Nat.mod_lt _ (by decide : 0 < 16)), Option.pure_def, Option.bind_eq_bind, Option.bind_some,
      Option.map_some, List.foldl_cons, List.foldl_nil, Option.some.injEq]
    omega
  have hdigits : unitEscape n ++ tail = '\\' :: 'u' :: (hexDigits 4 n ++ tail) := rfl
  rw [hdigits]
  simp only [hexDigits, List.nil_append, List.cons_append] at hunit ⊢
  rw [readUnits?, hunit, Option.bind_some]

theorem readUnits?_escape {c e : Char} (hc : c ≠ 'u') (he : escapeOf? c = some e) (tail : List Char) :
    readUnits? ('\\' :: c :: tail)
      = (readUnits? tail).map fun (units, rest) => (e.toNat :: units, rest) := by
  rw [readUnits?, he, Option.bind_some]
  exact fun _ _ _ _ _ heq => absurd heq hc

theorem readUnits?_plain {c : Char} (hquote : c ≠ '"') (hslash : c ≠ '\\') (hcontrol : 32 ≤ c.toNat)
    (tail : List Char) :
    readUnits? (c :: tail) = (readUnits? tail).map fun (units, rest) => (c.toNat :: units, rest) := by
  rw [readUnits?, if_neg (Nat.not_lt.mpr hcontrol)]
  · exact hquote
  · exact fun _ _ _ _ _ heq => absurd heq hslash
  · exact fun _ _ heq => absurd heq hslash

/-- **A character that is written in a string is read as its numbers.** -/
theorem readUnits?_escapeChar (c : Char) (tail : List Char) :
    readUnits? (escapeChar c ++ tail)
      = (readUnits? tail).map fun (units, rest) => (unitsOf c ++ units, rest) := by
  unfold escapeChar
  split
  -- the seven characters with an escape of one letter, then the others by their numbers
  iterate 7 exact readUnits?_escape (by decide) (by decide) tail
  rename_i hquote hslash _ _ _ _ _
  split
  · rename_i hvisible
    rw [Bool.and_eq_true, decide_eq_true_eq, decide_eq_true_eq] at hvisible
    have hplane : c.toNat < 0x10000 := Nat.lt_of_le_of_lt hvisible.2 (by decide)
    rw [unitsOf, if_pos hplane]
    exact readUnits?_plain hquote hslash hvisible.1 tail
  · split
    · rename_i hplane
      rw [unitsOf, if_pos hplane]
      exact readUnits?_unitEscape hplane tail
    · rename_i hplane
      -- two halves of a unit each
      have hbound : c.toNat < 0x110000 := by
        rcases c.valid with hlow | ⟨-, hhigh⟩
        · exact Nat.lt_trans hlow (by decide)
        · exact hhigh
      rw [unitsOf, if_neg hplane, List.append_assoc, readUnits?_unitEscape (by omega),
        readUnits?_unitEscape (by omega), Option.map_map]
      rfl

theorem readUnits?_flatMap (cs rest : List Char) :
    readUnits? (cs.flatMap escapeChar ++ '"' :: rest) = some (cs.flatMap unitsOf, rest) := by
  induction cs with
  | nil => rfl
  | cons c cs ih => rw [List.flatMap_cons, List.append_assoc, readUnits?_escapeChar, ih]; rfl

/-- The number of a character is no half, and is taken by itself. -/
theorem charsOf?_cons {n : Nat} (h : n.isValidChar) (units : List Nat) :
    charsOf? (n :: units) = (charsOf? units).map fun cs => Char.ofNat n :: cs := by
  cases units with
  | nil => simp [charsOf?, h]
  | cons m units =>
      have hfirst : isFirstHalf n = false := by
        rcases h with h | h <;> simp [isFirstHalf] <;> omega
      rw [charsOf?, hfirst, if_pos h]
      rfl

/-- **The halves of a character are put together again.** -/
theorem charsOf?_unitsOf (c : Char) (units : List Nat) :
    charsOf? (unitsOf c ++ units) = (charsOf? units).map fun cs => c :: cs := by
  have hvalid : c.toNat.isValidChar := c.valid
  rw [unitsOf]
  by_cases hplane : c.toNat < 0x10000
  · rw [if_pos hplane, List.singleton_append, charsOf?_cons hvalid, Char.ofNat_toNat]
  · have hbound : c.toNat < 0x110000 := by
      rcases hvalid with hlow | ⟨-, hhigh⟩ <;> omega
    have hfirst : isFirstHalf (0xD800 + (c.toNat - 0x10000) / 0x400) = true := by
      simp [isFirstHalf]
      omega
    have hsecond : isSecondHalf (0xDC00 + (c.toNat - 0x10000) % 0x400) = true := by
      simp [isSecondHalf]
      omega
    have hwhole : 0x10000 + 0x400 * (0xD800 + (c.toNat - 0x10000) / 0x400 - 0xD800) +
        (0xDC00 + (c.toNat - 0x10000) % 0x400 - 0xDC00) = c.toNat := by
      omega
    rw [if_neg hplane, List.cons_append, List.cons_append, List.nil_append, charsOf?, hfirst, hsecond,
      hwhole, Char.ofNat_toNat]
    rfl

theorem charsOf?_flatMap (cs : List Char) : charsOf? (cs.flatMap unitsOf) = some cs := by
  induction cs with
  | nil => rfl
  | cons c cs ih => rw [List.flatMap_cons, charsOf?_unitsOf, ih]; rfl

/-- A string between quotes, the first of which has been taken. -/
theorem readString?_flatMap (s : String) (rest : List Char) :
    readString? (s.toList.flatMap escapeChar ++ '"' :: rest) = some (s, rest) := by
  rw [readString?, readUnits?_flatMap]
  simp only [Option.bind_eq_bind, Option.bind_some, charsOf?_flatMap, String.ofList_toList]
  rfl

theorem quote_append (s : String) (rest : List Char) :
    quote s ++ rest = '"' :: (s.toList.flatMap escapeChar ++ '"' :: rest) := by
  simp [quote]

/-! ## Numbers and words -/

/-- What stands behind a value in a document: nothing, a comma or the end of a line. -/
def Ends (rest : List Char) : Prop := ∀ c ∈ rest.head?, c = ',' ∨ c = '\n'

theorem ends_nil : Ends [] := fun c hc => (by cases hc)

theorem ends_comma (rest : List Char) : Ends (',' :: rest) := fun _ hc => Or.inl (Option.some.inj hc).symm

theorem ends_newline (depth : Nat) (rest : List Char) : Ends (newline depth ++ rest) := fun _ hc =>
  Or.inr (Option.some.inj hc).symm

/-- The end of a value continues no number. -/
theorem Ends.takeFraction {rest : List Char} (h : Ends rest) : takeFraction rest = ([], rest) := by
  cases rest with
  | nil => rfl
  | cons c rest => rcases h c rfl with rfl | rfl <;> rfl

theorem Ends.takeExponent {rest : List Char} (h : Ends rest) : takeExponent rest = (none, rest) := by
  cases rest with
  | nil => rfl
  | cons c rest => rcases h c rfl with rfl | rfl <;> rfl

theorem Ends.takeDigits_append {ds rest : List Char} (h : Ends rest)
    (hds : ∀ c ∈ ds, isAsciiDigit c = true) : takeDigits (ds ++ rest) = (ds, rest) := by
  have hrest : takeDigits rest = ([], rest) := by
    cases rest with
    | nil => rfl
    | cons c rest => rcases h c rfl with rfl | rfl <;> rfl
  obtain ⟨htake, hdrop⟩ := Prod.mk.inj hrest
  rw [takeDigits, List.takeWhile_append_of_pos hds, List.dropWhile_append_of_pos hds, htake, hdrop,
    List.append_nil]

/-- The digits of a number begin with a zero for zero only. -/
theorem head?_digits {n : Nat} (h : (digits n).head? = some '0') : digits n = ['0'] := by
  fun_induction digits n with
  | case1 n hn => rw [List.head?_cons, Option.some.injEq] at h; rw [h]
  | case2 n hn ih =>
      rw [List.head?_append_of_ne_nil _ (digits_ne_nil _)] at h
      have hzero := ih h
      have hvalue : n / 10 = 0 := by rw [← numeral_digits (n / 10), hzero]; rfl
      omega

theorem takeWhole_digits {n : Nat} {rest : List Char} (h : Ends rest) :
    takeWhole (digits n ++ rest) = (digits n, rest) := by
  by_cases hzero : (digits n).head? = some '0'
  · rw [head?_digits hzero]
    rfl
  · rw [takeWhole, h.takeDigits_append fun _ => isAsciiDigit_of_mem_digits]
    intro tail heq
    obtain ⟨c, ds, hdigits⟩ := List.exists_cons_of_ne_nil (digits_ne_nil n)
    rw [hdigits, List.cons_append, List.cons.injEq] at heq
    exact hzero (by rw [hdigits, heq.1]; rfl)

/-- A number begins with a digit. -/
theorem exists_digits (n : Nat) :
    ∃ c ds, digits n = c :: ds ∧ ∀ d, isAsciiDigit d = false → c ≠ d := by
  obtain ⟨c, ds, hdigits⟩ := List.exists_cons_of_ne_nil (digits_ne_nil n)
  refine ⟨c, ds, hdigits, fun d hd => ?_⟩
  rintro rfl
  rw [isAsciiDigit_of_mem_digits (hdigits ▸ List.mem_cons_self)] at hd
  cases hd

theorem readNumber?_digits {n : Nat} (hn : Text.isWritable n = true) {rest : List Char} (h : Ends rest) :
    readNumber? (digits n ++ rest) = some (.int n, rest) := by
  have hminus : takeMinus (digits n ++ rest) = (false, digits n ++ rest) := by
    obtain ⟨c, ds, hdigits, hother⟩ := exists_digits n
    rw [hdigits, List.cons_append, takeMinus]
    exact fun _ heq => absurd (List.cons.inj heq).1 (hother '-' (by decide))
  have hvalue : numberOf (digits n) = n := numeral_digits n
  have hsome : (digits n).isEmpty = false := by simpa using digits_ne_nil n
  have hshort : ¬ maxDigits < (digits n).length := by
    rw [Text.isWritable, decide_eq_true_iff] at hn
    omega
  simp only [readNumber?, hminus, takeWhole_digits h, h.takeFraction, h.takeExponent, hsome, hvalue,
    hshort, if_false]
  rfl

theorem dropText?_append (text rest : List Char) : Toml.dropText? text (text ++ rest) = some rest := by
  induction text with
  | nil => cases rest <;> rfl
  | cons c text ih => simpa [Toml.dropText?] using ih

theorem readWord?_null (rest : List Char) : readWord? ("null".toList ++ rest) = some (.null, rest) := by
  simp only [readWord?, words, List.findSome?_cons, dropText?_append, Option.map_some]

/-- What begins with a digit is no word. -/
theorem readWord?_digits (n : Nat) (rest : List Char) : readWord? (digits n ++ rest) = none := by
  obtain ⟨c, ds, hdigits, hother⟩ := exists_digits n
  have hdropped : ∀ first word, isAsciiDigit first = false →
      Toml.dropText? (first :: word) (digits n ++ rest) = none := by
    intro first word hfirst
    rw [hdigits, List.cons_append, Toml.dropText?, if_neg]
    exact fun heq => hother first hfirst (eq_of_beq heq).symm
  have hnull : "null".toList = 'n' :: "ull".toList := by decide
  have htrue : "true".toList = 't' :: "rue".toList := by decide
  have hfalse : "false".toList = 'f' :: "alse".toList := by decide
  simp only [readWord?, words, List.findSome?_cons, List.findSome?_nil, hnull, htrue, hfalse]
  rw [hdropped _ _ (by decide), hdropped _ _ (by decide), hdropped _ _ (by decide)]
  rfl

/-! ## Brackets -/

/-- A part of a document that is no blank and ends no bracket in front. -/
def Begins (part : List Char) : Prop :=
  ∃ c tail, part = c :: tail ∧ isGap c = false ∧ c ≠ ']' ∧ c ≠ '\x7d'

/-- A part is taken from the front of a text, and what follows is left. -/
structure Reads {α : Type} (readPart? : List Char → Option (α × List Char)) (part : List Char) (a : α) :
    Prop where
  begins : Begins part
  reads : ∀ rest, Ends rest → readPart? (part ++ rest) = some (a, rest)

theorem skipGap_cons {c : Char} (h : isGap c = false) (rest : List Char) : skipGap (c :: rest) = c :: rest :=
  List.dropWhile_cons_of_neg (by simp [h])

theorem skipGap_newline (depth : Nat) (rest : List Char) :
    skipGap (newline depth ++ rest) = skipGap rest := by
  have hgap : ∀ c ∈ newline depth, isGap c = true := by
    rw [newline, List.forall_mem_cons]
    refine ⟨by decide, fun c hc => ?_⟩
    obtain rfl := List.eq_of_mem_replicate hc
    decide
  exact List.dropWhile_append_of_pos hgap

theorem Begins.skipGap {part : List Char} (h : Begins part) (rest : List Char) :
    skipGap (part ++ rest) = part ++ rest := by
  obtain ⟨c, tail, rfl, hgap, -⟩ := h
  exact skipGap_cons hgap (tail ++ rest)

theorem Begins.intercalate {part : List Char} (h : Begins part) (between : List Char)
    (parts : List (List Char)) : Begins (between.intercalate (part :: parts)) := by
  obtain ⟨c, tail, rfl, hc⟩ := h
  cases parts with
  | nil => exact ⟨c, tail, List.intercalate_singleton, hc⟩
  | cons next parts => exact ⟨c, _, by rw [List.intercalate_cons_cons]; rfl, hc⟩

/-- No part is longer than all of them with something between them. -/
theorem length_le_intercalate {part : List Char} {parts : List (List Char)} (h : part ∈ parts)
    (between : List Char) : part.length ≤ (between.intercalate parts).length := by
  induction parts with
  | nil => cases h
  | cons first parts ih =>
      cases parts with
      | nil =>
          obtain rfl := List.mem_singleton.mp h
          exact Nat.le_of_eq (congrArg List.length List.intercalate_singleton.symm)
      | cons next parts =>
          rw [List.intercalate_cons_cons, List.length_append, List.length_append]
          rcases List.mem_cons.mp h with rfl | h
          · omega
          · have hlater := ih h
            omega

section

variable {α : Type} {readPart? : List Char → Option (α × List Char)} {closing : Char}
  {parts : List (List Char)} {as : List α}

/-- There are no more parts than characters in them and between them. -/
theorem length_le_length_intercalate (h : List.Forall₂ (Reads readPart?) parts as) (between : List Char) :
    parts.length ≤ (between.intercalate parts).length := by
  induction h with
  | nil => exact Nat.zero_le _
  | @cons part a parts as hpart hparts ih =>
      obtain ⟨c, tail, rfl, -⟩ := hpart.begins
      cases parts with
      | nil => simp [List.intercalate_singleton]
      | cons next parts =>
          rw [List.intercalate_cons_cons]
          simp only [List.length_append, List.length_cons] at ih ⊢
          omega

/-- Parts on lines of their own are read up to the closing bracket. -/
theorem readParts?_intercalate (hclosing : closing = ']' ∨ closing = '\x7d')
    (h : List.Forall₂ (Reads readPart?) parts as) (hne : parts ≠ []) {bound : Nat}
    (hbound : parts.length ≤ bound) (depth : Nat) (rest : List Char) :
    readParts? readPart? closing bound
        ((',' :: newline (depth + 1)).intercalate parts ++ (newline depth ++ closing :: rest))
      = some (as, rest) := by
  have hgap : isGap closing = false := by rcases hclosing with rfl | rfl <;> decide
  have hcomma : ',' ≠ closing := by rcases hclosing with rfl | rfl <;> decide
  induction h generalizing bound with
  | nil => exact absurd rfl hne
  | @cons part a parts as hpart hparts ih =>
      obtain ⟨bound, rfl⟩ : ∃ b, bound = b + 1 := ⟨bound - 1, by simp at hbound; omega⟩
      cases hparts with
      | nil =>
          -- the last part ends with the line of the closing bracket
          rw [List.intercalate_singleton, readParts?, hpart.reads _ (ends_newline _ _)]
          simp only [Option.bind_eq_bind, Option.bind_some, skipGap_newline, skipGap_cons hgap, if_true]
      | @cons next b parts as hnext hparts =>
          -- after the comma stands a part, so that the line in front of it is skipped up to there
          have hrest := ih (List.cons_ne_nil _ _) (Nat.le_of_succ_le_succ hbound)
          have hbegins := hnext.begins.intercalate (',' :: newline (depth + 1)) parts
          rw [List.intercalate_cons_cons, List.append_assoc, List.append_assoc, List.cons_append, readParts?,
            hpart.reads _ (ends_comma _)]
          simp only [Option.bind_eq_bind, Option.bind_some, skipGap_cons (show isGap ',' = false by decide),
            if_neg hcomma, if_true, skipGap_newline, hbegins.skipGap, hrest, Option.map_some]

/-- **A bracket is read as what its parts are read as.** -/
theorem readBracket?_bracket (hclosing : closing = ']' ∨ closing = '\x7d')
    (h : List.Forall₂ (Reads readPart?) parts as) (depth : Nat) (opening : Char) (rest : List Char) :
    ∃ body, bracket depth opening closing parts ++ rest = opening :: body ∧
      readBracket? readPart? closing body = some (as, rest) := by
  have hgap : isGap closing = false := by rcases hclosing with rfl | rfl <;> decide
  by_cases hnone : parts = []
  · subst hnone
    cases h
    refine ⟨closing :: rest, rfl, ?_⟩
    rw [readBracket?, skipGap_cons hgap]
    exact if_pos rfl
  · have hbracket : bracket depth opening closing parts ++ rest = opening :: (newline (depth + 1) ++
        ((',' :: newline (depth + 1)).intercalate parts ++ (newline depth ++ closing :: rest))) := by
      simp [bracket, hnone]
    refine ⟨_, hbracket, ?_⟩
    have hbound : parts.length ≤
        ((',' :: newline (depth + 1)).intercalate parts ++ (newline depth ++ closing :: rest)).length := by
      have hshorter := length_le_length_intercalate h (',' :: newline (depth + 1))
      rw [List.length_append]
      omega
    have hread := readParts?_intercalate hclosing h hnone hbound depth rest
    cases h with
    | nil => exact absurd rfl hnone
    | cons hpart =>
        obtain ⟨c, tail, hbegins, hc, hopen, hbrace⟩ :=
          hpart.begins.intercalate (',' :: newline (depth + 1)) _
        -- the first part does not look like the end of an empty bracket
        have hother : c ≠ closing := by rcases hclosing with rfl | rfl <;> assumption
        rw [readBracket?, skipGap_newline, hbegins, List.cons_append, skipGap_cons hc]
        rw [hbegins] at hread
        simp only [if_neg hother]
        exact hread

end

/-! ## Documents -/

/-- A part of a bracket is shorter than the bracket. -/
theorem length_lt_bracket {part : List Char} {parts : List (List Char)} (h : part ∈ parts) (depth : Nat)
    (opening closing : Char) : part.length < (bracket depth opening closing parts).length := by
  have hne : parts ≠ [] := List.ne_nil_of_mem h
  have hle := length_le_intercalate h (',' :: newline (depth + 1))
  rw [bracket, if_neg (by simpa using hne)]
  simp only [List.length_append, List.length_cons]
  omega

mutual

def value : Json → Value
  | null => .null
  | number n => .int n
  | string s => .string s
  | array items => .list (itemValues items)
  | object members => .table (Ordered.ofList (memberValues members))

def itemValues : List Json → List Value
  | [] => []
  | item :: rest => value item :: itemValues rest

def memberValues : List (String × Json) → List (String × Value)
  | [] => []
  | (key, member) :: rest => (key, value member) :: memberValues rest

end

theorem begins_quote (s : String) (tail : List Char) : Begins (quote s ++ tail) :=
  ⟨'"', _, quote_append s tail, by decide, by decide, by decide⟩

/-- A member is read if its value is. -/
theorem reads_member {bound : Nat} {part : List Char} {v : Value} (key : String)
    (h : Reads (readValue? bound) part v) :
    Reads (readMember? (readValue? bound)) (quote key ++ ([':', ' '] ++ part)) (key, v) where
  begins := begins_quote key _
  reads rest hrest := by
    have hcolon : skipGap (':' :: ' ' :: (part ++ rest)) = ':' :: ' ' :: (part ++ rest) :=
      skipGap_cons (by decide) _
    have hspace : skipGap (' ' :: (part ++ rest)) = part ++ rest :=
      (List.dropWhile_cons_of_pos (show isGap ' ' = true by decide)).trans (h.begins.skipGap rest)
    rw [List.append_assoc, quote_append, readMember?, readString?_flatMap]
    simp only [Option.bind_eq_bind, Option.bind_some, List.cons_append, List.nil_append, hcolon, hspace,
      h.reads rest hrest, Option.map_some]

/-- What begins neither a string nor a bracket is a word or a number. -/
theorem readValue?_scalar {c : Char} {tail : List Char} (hstring : c ≠ '"') (hlist : c ≠ '[')
    (htable : c ≠ '\x7b') (bound : Nat) :
    readValue? (bound + 1) (c :: tail) = (readWord? (c :: tail)).or (readNumber? (c :: tail)) := by
  rw [readValue?]
  · exact fun _ heq => absurd (List.cons.inj heq).1 hstring
  · exact fun _ heq => absurd (List.cons.inj heq).1 hlist
  · exact fun _ heq => absurd (List.cons.inj heq).1 htable

theorem reads_null (bound : Nat) : Reads (readValue? (bound + 1)) "null".toList .null where
  begins := ⟨'n', "ull".toList, by decide, by decide, by decide, by decide⟩
  reads rest _ := by
    have hnull : "null".toList = 'n' :: "ull".toList := by decide
    have hword := readWord?_null rest
    rw [hnull, List.cons_append] at hword ⊢
    rw [readValue?_scalar (by decide) (by decide) (by decide), hword, Option.some_or]

theorem reads_digits (bound : Nat) {n : Nat} (hn : Text.isWritable n = true) :
    Reads (readValue? (bound + 1)) (digits n) (.int n) where
  begins := by
    obtain ⟨c, ds, hdigits, hother⟩ := exists_digits n
    refine ⟨c, ds, hdigits, ?_, hother _ (by decide), hother _ (by decide)⟩
    simp [isGap, hother ' ' (by decide), hother '\t' (by decide), hother '\n' (by decide),
      hother '\r' (by decide)]
  reads rest hrest := by
    obtain ⟨c, ds, hdigits, hother⟩ := exists_digits n
    have hword := readWord?_digits n rest
    have hnumber := readNumber?_digits hn hrest
    rw [hdigits, List.cons_append] at hword hnumber ⊢
    rw [readValue?_scalar (hother _ (by decide)) (hother _ (by decide)) (hother _ (by decide)), hword,
      Option.none_or, hnumber]

theorem reads_quote (bound : Nat) (s : String) : Reads (readValue? (bound + 1)) (quote s) (.string s) where
  begins := by simpa using begins_quote s []
  reads rest _ := by rw [quote_append, readValue?, readString?_flatMap, Option.map_some]

theorem begins_bracket {depth : Nat} {opening closing : Char} {parts : List (List Char)}
    (hopening : isGap opening = false ∧ opening ≠ ']' ∧ opening ≠ '\x7d') :
    Begins (bracket depth opening closing parts) := by
  rw [bracket]
  split
  · exact ⟨opening, [closing], rfl, hopening⟩
  · exact ⟨opening, _, by rw [List.cons_append, List.cons_append, List.cons_append], hopening⟩

theorem reads_list {bound depth : Nat} {parts : List (List Char)} {values : List Value}
    (h : List.Forall₂ (Reads (readValue? bound)) parts values) :
    Reads (readValue? (bound + 1)) (bracket depth '[' ']' parts) (.list values) where
  begins := begins_bracket (by decide)
  reads rest _ := by
    obtain ⟨body, hbracket, hread⟩ := readBracket?_bracket (Or.inl rfl) h depth '[' rest
    rw [hbracket, readValue?, hread, Option.map_some]

theorem reads_table {bound depth : Nat} {parts : List (List Char)} {members : List (String × Value)}
    (h : List.Forall₂ (Reads (readMember? (readValue? bound))) parts members) :
    Reads (readValue? (bound + 1)) (bracket depth '\x7b' '\x7d' parts) (.table (Ordered.ofList members)) where
  begins := begins_bracket (by decide)
  reads rest _ := by
    obtain ⟨body, hbracket, hread⟩ := readBracket?_bracket (Or.inr rfl) h depth '\x7b' rest
    rw [hbracket, readValue?, hread, Option.map_some]

mutual

/-- A document is read as the value that it stands for, if it can be written and its text is not longer than
brackets may be nested. -/
theorem reads_render (depth : Nat) : ∀ (json : Json) {bound : Nat}, json.isWritable = true →
    (render depth json).length < bound → Reads (readValue? bound) (render depth json) json.value
  | null, bound + 1, _, _ => by
      rw [render, value]
      exact reads_null bound
  | number n, bound + 1, hwritable, _ => by
      rw [isWritable] at hwritable
      rw [render, value]
      exact reads_digits bound hwritable
  | string s, bound + 1, _, _ => by
      rw [render, value]
      exact reads_quote bound s
  | array items, bound + 1, hwritable, hbound => by
      rw [isWritable] at hwritable
      rw [render] at hbound ⊢
      rw [value]
      refine reads_list (reads_renderItems depth items hwritable fun part hpart => ?_)
      have hshorter := length_lt_bracket hpart depth '[' ']'
      omega
  | object members, bound + 1, hwritable, hbound => by
      rw [isWritable] at hwritable
      rw [render] at hbound ⊢
      rw [value]
      refine reads_table (reads_renderMembers depth members hwritable fun part hpart => ?_)
      have hshorter := length_lt_bracket hpart depth '\x7b' '\x7d'
      omega

theorem reads_renderItems (depth : Nat) : ∀ (items : List Json) {bound : Nat},
    itemsWritable items = true → (∀ part ∈ renderItems depth items, part.length < bound) →
    List.Forall₂ (Reads (readValue? bound)) (renderItems depth items) (itemValues items)
  | [], bound, _, hbound => by
      rw [renderItems, itemValues]
      exact .nil
  | item :: rest, bound, hwritable, hbound => by
      rw [itemsWritable, Bool.and_eq_true] at hwritable
      rw [renderItems, List.forall_mem_cons] at hbound
      rw [renderItems, itemValues]
      exact .cons (reads_render (depth + 1) item hwritable.1 hbound.1)
        (reads_renderItems depth rest hwritable.2 hbound.2)

theorem reads_renderMembers (depth : Nat) : ∀ (members : List (String × Json)) {bound : Nat},
    membersWritable members = true → (∀ part ∈ renderMembers depth members, part.length < bound) →
    List.Forall₂ (Reads (readMember? (readValue? bound))) (renderMembers depth members)
      (memberValues members)
  | [], bound, _, hbound => by
      rw [renderMembers, memberValues]
      exact .nil
  | (key, member) :: rest, bound, hwritable, hbound => by
      rw [membersWritable, Bool.and_eq_true] at hwritable
      rw [renderMembers, List.forall_mem_cons, List.length_append] at hbound
      rw [renderMembers, memberValues, List.append_assoc]
      have hmember := reads_render (depth + 1) member hwritable.1
        (Nat.lt_of_le_of_lt (Nat.le_add_left _ _) hbound.1)
      exact .cons (reads_member key hmember) (reads_renderMembers depth rest hwritable.2 hbound.2)

end

/-- **The text of a document is read as the value that the document stands for**, if it can be written. -/
theorem read?_text {json : Json} (h : json.isWritable = true) : read? json.text = some json.value := by
  have hread : Reads (readValue? ((render 0 json).length + 1)) (render 0 json) json.value :=
    reads_render 0 json h (Nat.lt_succ_self _)
  have hskip := hread.begins.skipGap []
  have hwhole := hread.reads [] ends_nil
  rw [List.append_nil] at hskip hwhole
  rw [read?, text, String.toList_ofList, String.length_ofList, hskip, hwhole]
  rfl

end LintRunner.Json
