import LintRunner.Proofs.Catalogue.Lines

/-!
# Reading the lines of the built-in tools

For each built-in format, how the text behind the place of a finding splits. Where the label comes first, the
colon behind it ends it, since no label holds one; where it comes last, the last bracket begins it, since
neither labels nor codes hold one. Only the blanks between a code and a message leave a choice, and there a
match takes as many of them as it can (`atMost_of_splits_code`). So whatever a message imitates, the line is
read as it was written (`Catalogue.reads_written`).
-/

set_option autoImplicit false

namespace LintRunner

open Regex Text

/-! ## Labels and codes -/

def isLabelChar (c : Char) : Bool := isAsciiLetter c || c == ' '

/-- A label with its table stands for words in letters, each with a severity. -/
structure Labelled (label : String) (table : Labels) (words : List (String × Severity)) : Prop where
  choice : Choice label (words.map fun entry => entry.1.toList)
  severity : ∀ entry ∈ words, severityOfLabel table .blanks entry.1 = .ok entry.2
  plain : ∀ entry ∈ words, entry.1.toList.all isLabelChar = true

namespace Labelled

variable {label : String} {table : Labels} {words : List (String × Severity)} {word : String}
  {severity : Severity}

theorem matchesAlone (h : Labelled label table words) (hword : (word, severity) ∈ words) :
    MatchesAlone label word.toList :=
  (h.choice.matchesAlone_iff _).mpr (List.mem_map_of_mem hword)

theorem isLabelChar_of_matchesAlone (h : Labelled label table words) {text : List Char}
    (htext : MatchesAlone label text) : ∀ c ∈ text, isLabelChar c = true := by
  obtain ⟨entry, hentry, rfl⟩ := List.mem_map.mp ((h.choice.matchesAlone_iff text).mp htext)
  exact List.all_eq_true.mp (h.plain entry hentry)

/-- A character that is none of labels does not occur in what a label matches. -/
theorem not_mem (h : Labelled label table words) {c : Char} (hc : isLabelChar c = false) {text : List Char}
    (htext : MatchesAlone label text) : c ∉ text := fun hmem => by
  rw [h.isLabelChar_of_matchesAlone htext c hmem] at hc
  cases hc

theorem severity?_eq (h : Labelled label table words) (hword : (word, severity) ∈ words)
    (earlier : List Segment) :
    Segment.severity? earlier ⟨.severityPattern label table .blanks, word.toList⟩ = some severity := by
  show (severityOfLabel table .blanks (String.ofList word.toList)).toOption = some severity
  rw [String.ofList_toList, h.severity _ hword]
  rfl

theorem fault?_eq_none (h : Labelled label table words) (hword : (word, severity) ∈ words) :
    Segment.fault? ⟨.severityPattern label table .blanks, word.toList⟩ = none := by
  simp only [Segment.fault?, String.ofList_toList, h.severity _ hword]

/-- A label may stand in a message. -/
theorem isMessageChar (h : Labelled label table words) (hword : (word, severity) ∈ words) :
    ∀ c ∈ word.toList, isMessageChar c = true := fun c hc =>
  isMessageChar_of_accepts (by decide) (by decide) (by decide)
    (h.isLabelChar_of_matchesAlone (h.matchesAlone hword) c hc)

end Labelled

/-- A character that no code may hold does not occur in one. -/
theorem IsCode.not_mem {c : Char} (hstart : isCodeStart c = false) (hlater : isCodeChar c = false)
    {text : List Char} (h : IsCode text) : c ∉ text := by
  obtain ⟨d, rest, rfl, hd, hrest⟩ := h
  intro hmem
  rcases List.mem_cons.mp hmem with rfl | hmem
  · rw [hd] at hstart
    cases hstart
  · rw [hrest c hmem] at hlater
    cases hlater

theorem IsCode.isMessageChar {text : List Char} (h : IsCode text) : ∀ c ∈ text, isMessageChar c = true := by
  obtain ⟨first, rest, rfl, hfirst, hrest⟩ := h
  intro c hc
  rcases List.mem_cons.mp hc with rfl | hc
  · exact isMessageChar_of_accepts (by decide) (by decide) (by decide) hfirst
  · exact isMessageChar_of_accepts (by decide) (by decide) (by decide) (hrest c hc)

theorem IsCode.isInlineBlank_eq_false {text : List Char} (h : IsCode text) :
    ∀ c ∈ text, isInlineBlank c = false := by
  intro c hc
  rw [Bool.eq_false_iff]
  intro hblank
  simp only [isInlineBlank, Bool.or_eq_true, beq_iff_eq] at hblank
  rcases hblank with rfl | rfl <;> exact h.not_mem (by decide) (by decide) hc

/-- A code that is not optional and has nothing in front of it is captured as it is. -/
theorem IsCode.captured?_eq {text : List Char} (h : IsCode text) :
    Token.captured? (.code "" false) text = some text := by
  obtain ⟨c, rest, rfl, -⟩ := h
  rw [Token.captured?, if_neg (List.cons_ne_nil c rest)]
  rfl

theorem isMessageChar_of_isInlineBlank {c : Char} (h : isInlineBlank c = true) :
    isMessageChar c = true :=
  isMessageChar_of_accepts (by decide) (by decide) (by decide) h

/-! ## The labels of the built-in formats -/

namespace Catalogue

theorem labelled_compiler :
    Labelled "fatal error|error|warning|note" (labels [("fatal error", .error), ("note", .info)])
      compilerWords where
  choice := Choice.ofWords (by decide +kernel) (by decide) (by decide +kernel) (by decide +kernel)
  severity := by decide +kernel
  plain := by decide +kernel

theorem labelled_checker :
    Labelled "error|warning|note" (labels [("note", .info)]) checkerWords where
  choice := Choice.ofWords (by decide +kernel) (by decide) (by decide +kernel) (by decide +kernel)
  severity := by decide +kernel
  plain := by decide +kernel

theorem labelled_letter :
    Labelled "[CRWEFI]" (labels [("C", .info), ("R", .info), ("I", .info), ("W", .warning), ("E", .error),
      ("F", .error)]) letterWords where
  choice := @Choice.ofChars _ "CRWEFI".toList (by decide +kernel) (by decide +kernel)
  severity := by decide +kernel
  plain := by decide +kernel

theorem labelled_script :
    Labelled "Error|Warning" (labels [("error", .error), ("warning", .warning)]) scriptWords where
  choice := Choice.ofWords (by decide +kernel) (by decide) (by decide +kernel) (by decide +kernel)
  severity := by decide +kernel
  plain := by decide +kernel

end Catalogue

/-! ## Messages alone -/

namespace Finding

variable {f : Finding} {format : Format} {label : String} {table : Labels}
  {words : List (String × Severity)} {word : String} {severity : Severity}

/-- A message that the text of a segment without characters follows is the whole text. -/
theorem readBehind_message {token : Token} {severity : Severity}
    (htokens : format.tokens = Catalogue.position ++ [.literal ": ", .message "message", token])
    (haccepts : ∀ text, token.Accepts MatchesAlone text ↔ text = [])
    (hfield : token.field? = none)
    (hreadable : Segment.fault? ⟨token, []⟩ = none ∧ Segment.isRefused ⟨token, []⟩ = false)
    (hseverity : ∀ earlier, Segment.severity? (earlier ++ [⟨.message "message", f.message.toList⟩])
      ⟨token, []⟩ = some severity) :
    f.ReadBehind format ": " f.message severity none
      [⟨.message "message", f.message.toList⟩, ⟨token, []⟩] where
  tokens := htokens
  splits := by
    simp only [List.map_cons, List.map_nil, splits_cons, splits_nil]
    exact ⟨_, [], _, rfl, (List.append_nil _).symm, f.message_run, [], [], _, rfl, rfl,
      (haccepts []).mpr rfl, rfl, rfl⟩
  greatest := by
    intro others h
    simp only [List.map_cons, List.map_nil, splits_cons, splits_nil, haccepts] at h
    obtain ⟨message, _, _, rfl, htext, -, _, _, _, rfl, rfl, rfl, rfl, rfl⟩ := h
    obtain rfl : f.message.toList = message := by simpa using htext
    exact AtMost.refl _
  readable := by
    simp only [List.forall_mem_cons]
    exact ⟨⟨rfl, rfl⟩, hreadable, fun _ h => (by cases h)⟩
  plain := f.message_run.2
  message := rfl
  code := by
    have hmessage : ∀ text, Token.field? (.message text) ≠ some .code := fun _ h => (by cases h)
    simp [fieldText?, hmessage, hfield]
  severity := fun earlier => by
    rw [severityFrom, severityFrom, hseverity]
    rfl

/-! ## A label in front of a message -/

/-- A label and a message with a colon and a blank between them. -/
theorem readBehind_labelled (h : Labelled label table words) (hword : (word, severity) ∈ words)
    (htokens : format.tokens = Catalogue.position ++
      [.literal ": ", .severityPattern label table .blanks, .literal ": ", .message "message"]) :
    f.ReadBehind format ": " (word ++ ": " ++ f.message) severity none
      [⟨.severityPattern label table .blanks, word.toList⟩, ⟨.literal ": ", [':', ' ']⟩,
        ⟨.message "message", f.message.toList⟩] where
  tokens := htokens
  splits := by
    have hcolon : (": " : String).toList = [':', ' '] := rfl
    simp only [List.map_cons, List.map_nil, splits_cons, splits_nil]
    refine ⟨_, _, _, rfl, ?_, h.matchesAlone hword, [':', ' '], _, _, rfl, rfl, rfl, _, [], [], rfl,
      (List.append_nil _).symm, f.message_run, rfl, rfl⟩
    simp only [String.toList_append, hcolon, List.append_assoc]
  greatest := by
    intro others hothers
    have hcolon : (": " : String).toList = [':', ' '] := rfl
    simp only [List.map_cons, List.map_nil, splits_cons, splits_nil] at hothers
    obtain ⟨word', _, _, rfl, htext, hword', _, _, _, rfl, rfl, rfl, message, _, _, rfl, rfl, -, rfl,
      rfl⟩ := hothers
    simp only [String.toList_append, hcolon, List.append_assoc, List.cons_append, List.nil_append,
      List.append_nil] at htext
    -- the first colon is the one behind the label
    obtain ⟨rfl, hlater⟩ := cut_unique (h.not_mem (by decide) (h.matchesAlone hword))
      (h.not_mem (by decide) hword') htext
    obtain rfl : f.message.toList = message := (List.cons.inj hlater).2
    exact AtMost.refl _
  readable := by
    simp only [List.forall_mem_cons]
    exact ⟨⟨h.fault?_eq_none hword, rfl⟩, ⟨rfl, rfl⟩, ⟨rfl, rfl⟩, fun _ hmem => (by cases hmem)⟩
  plain := by
    simp only [String.toList_append, List.forall_mem_append]
    exact ⟨⟨h.isMessageChar hword, List.all_eq_true.mp rfl⟩, f.message_run.2⟩
  message := rfl
  code := rfl
  severity := fun earlier => by
    rw [severityFrom, h.severity?_eq hword]
    rfl

/-! ## A code in front of a message -/

/-- Where a code, blanks and a message come last, no split takes more characters from the left than the one
that takes all blanks before the message. -/
theorem atMost_of_splits_code {tokens : List Token} {tail : List Segment} {code blanks message : List Char}
    (htail : ∀ rest later, Splits MatchesAlone tokens rest later → rest = [] ∧ later = tail)
    (hcode : IsCode code) (hblanks : IsRun isInlineBlank blanks)
    (hstart : ∀ c ∈ message.head?, isInlineBlank c = false) {others : List Segment}
    (h : Splits MatchesAlone (.code "" false :: .whitespace :: .message "message" :: tokens)
      (code ++ (blanks ++ message)) others) :
    AtMost (lengths others)
      (lengths (⟨.code "" false, code⟩ :: ⟨.whitespace, blanks⟩ :: ⟨.message "message", message⟩ :: tail)) := by
  simp only [splits_cons] at h
  obtain ⟨code', _, _, rfl, htext, hcode', blanks', _, _, rfl, rfl, hblanks', message', rest, later, rfl,
    rfl, -, hlater⟩ := h
  obtain ⟨rfl, rfl⟩ := htail rest later hlater
  have hcode' : IsCode code' := by
    rcases hcode' with ⟨_, rfl, hidentifier⟩ | ⟨habsent, -⟩
    · exact hidentifier
    · cases habsent
  rw [List.append_nil] at htext
  obtain ⟨rfl, hfewer | ⟨rfl, rfl⟩⟩ := code_unique hcode.isInlineBlank_eq_false
    hcode'.isInlineBlank_eq_false hblanks hblanks' hstart htext
  · exact Or.inr ⟨rfl, Or.inl hfewer⟩
  · exact AtMost.refl _

/-- A code, blanks and a message in front of segments without characters. -/
theorem splits_code {tokens : List Token} {tail : List Segment} {code blanks : String}
    (htail : Splits MatchesAlone tokens [] tail) (hcode : IsCode code.toList)
    (hblanks : IsRun isInlineBlank blanks.toList) :
    Splits MatchesAlone (.code "" false :: .whitespace :: .message "message" :: tokens)
      (code ++ blanks ++ f.message).toList
      (⟨.code "" false, code.toList⟩ :: ⟨.whitespace, blanks.toList⟩ ::
        ⟨.message "message", f.message.toList⟩ :: tail) := by
  simp only [splits_cons]
  refine ⟨_, _, _, rfl, ?_, Or.inl ⟨code.toList, rfl, hcode⟩, _, _, _, rfl, rfl, hblanks, _, [], tail, rfl,
    (List.append_nil _).symm, f.message_run, htail⟩
  rw [String.toList_append, String.toList_append, List.append_assoc]

theorem isMessageChar_of_mem_code {code blanks : String} (hcode : IsCode code.toList)
    (hblanks : IsRun isInlineBlank blanks.toList) :
    ∀ c ∈ (code ++ blanks ++ f.message).toList, isMessageChar c = true := by
  simp only [String.toList_append, List.forall_mem_append]
  exact ⟨⟨hcode.isMessageChar, fun c hc => isMessageChar_of_isInlineBlank (hblanks.2 c hc)⟩,
    f.message_run.2⟩

theorem readBehind_code {code blanks : String} (hcode : IsCode code.toList)
    (hblanks : IsRun isInlineBlank blanks.toList)
    (hstart : ∀ c ∈ f.message.toList.head?, isInlineBlank c = false) :
    f.ReadBehind Catalogue.ruffFormat ": " (code ++ blanks ++ f.message) .warning (some code)
      [⟨.code "" false, code.toList⟩, ⟨.whitespace, blanks.toList⟩,
        ⟨.message "message", f.message.toList⟩, ⟨.severityFixed (.known .warning), []⟩] where
  tokens := rfl
  splits := splits_code (splits_cons.mpr ⟨[], [], [], rfl, rfl, rfl, splits_nil.mpr ⟨rfl, rfl⟩⟩) hcode
    hblanks
  greatest := by
    intro others hothers
    rw [String.toList_append, String.toList_append, List.append_assoc] at hothers
    refine atMost_of_splits_code (fun rest later hlater => ?_) hcode hblanks hstart hothers
    obtain ⟨_, _, _, rfl, rfl, rfl, hnil⟩ := splits_cons.mp hlater
    obtain ⟨rfl, rfl⟩ := splits_nil.mp hnil
    exact ⟨rfl, rfl⟩
  readable := by
    simp only [List.forall_mem_cons]
    exact ⟨⟨rfl, rfl⟩, ⟨rfl, rfl⟩, ⟨rfl, rfl⟩, ⟨rfl, rfl⟩, fun _ hmem => (by cases hmem)⟩
  plain := isMessageChar_of_mem_code hcode hblanks
  message := rfl
  code := hcode.captured?_eq
  severity := fun _ => rfl

/-- A letter and a colon in front of a code. -/
theorem readBehind_letter {code blanks : String} (hword : (word, severity) ∈ Catalogue.letterWords)
    (hcode : IsCode code.toList) (hblanks : IsRun isInlineBlank blanks.toList)
    (hstart : ∀ c ∈ f.message.toList.head?, isInlineBlank c = false) :
    f.ReadBehind Catalogue.pylintFormat ":" (word ++ ":" ++ (code ++ blanks ++ f.message)) severity
      (some code)
      [⟨.severityPattern "[CRWEFI]"
          (Catalogue.labels [("C", .info), ("R", .info), ("I", .info), ("W", .warning), ("E", .error),
            ("F", .error)]) .blanks, word.toList⟩, ⟨.literal ":", [':']⟩,
        ⟨.code "" false, code.toList⟩, ⟨.whitespace, blanks.toList⟩,
        ⟨.message "message", f.message.toList⟩] where
  tokens := rfl
  splits := by
    have hcolon : (":" : String).toList = [':'] := rfl
    refine splits_cons.mpr ⟨_, _, _, rfl, ?_, Catalogue.labelled_letter.matchesAlone hword,
      splits_cons.mpr ⟨[':'], _, _, rfl, rfl, rfl,
        splits_code (splits_nil.mpr ⟨rfl, rfl⟩) hcode hblanks⟩⟩
    rw [String.toList_append, String.toList_append, hcolon, List.append_assoc]
  greatest := by
    intro others hothers
    have hcolon : (":" : String).toList = [':'] := rfl
    obtain ⟨word', _, _, rfl, htext, hword', hbehind⟩ := splits_cons.mp hothers
    obtain ⟨_, rest, later, rfl, rfl, rfl, hlater⟩ := splits_cons.mp hbehind
    rw [String.toList_append, String.toList_append, hcolon, List.append_assoc] at htext
    -- the colon ends the letter, and behind it the blanks end the code
    obtain ⟨rfl, rfl⟩ := cut_unique
      (Catalogue.labelled_letter.not_mem (by decide) (Catalogue.labelled_letter.matchesAlone hword))
      (Catalogue.labelled_letter.not_mem (by decide) hword') htext
    have hcodeText : (code ++ blanks ++ f.message).toList =
        code.toList ++ (blanks.toList ++ f.message.toList) := by
      rw [String.toList_append, String.toList_append, List.append_assoc]
    have hleast := atMost_of_splits_code (fun rest later hnil => splits_nil.mp hnil) hcode hblanks hstart
      (hcodeText ▸ hlater)
    exact hleast.append_left [word.toList.length, 1]
  readable := by
    simp only [List.forall_mem_cons]
    exact ⟨⟨Catalogue.labelled_letter.fault?_eq_none hword, rfl⟩, ⟨rfl, rfl⟩, ⟨rfl, rfl⟩, ⟨rfl, rfl⟩,
      ⟨rfl, rfl⟩, fun _ hmem => (by cases hmem)⟩
  plain := by
    rw [String.toList_append, List.forall_mem_append, String.toList_append, List.forall_mem_append]
    exact ⟨⟨Catalogue.labelled_letter.isMessageChar hword, List.all_eq_true.mp rfl⟩,
      isMessageChar_of_mem_code hcode hblanks⟩
  message := rfl
  code := hcode.captured?_eq
  severity := fun earlier => by
    rw [severityFrom, Catalogue.labelled_letter.severity?_eq hword]
    rfl

/-! ## A label behind a message -/

/-- What may stand behind a label in brackets: a slash and a code, or nothing. -/
def ruleText (code : Option String) : List Char := (code.map fun code => '/' :: code.toList).getD []

theorem accepts_ruleText {code : Option String} (h : ∀ text, code = some text → IsCode text.toList) :
    Token.Accepts MatchesAlone (.code "/" true) (ruleText code) := by
  cases code with
  | none => exact Or.inr ⟨rfl, rfl⟩
  | some text => exact Or.inl ⟨text.toList, rfl, h text rfl⟩

/-- A label ends where the slash or the bracket behind it begins. -/
theorem label_unique {word word' rule rule' : List Char} (hword : '/' ∉ word) (hword' : '/' ∉ word')
    (hrule : Token.Accepts MatchesAlone (.code "/" true) rule)
    (hrule' : Token.Accepts MatchesAlone (.code "/" true) rule') (h : word ++ rule = word' ++ rule') :
    word = word' ∧ rule = rule' := by
  have hupTo : ∀ {word rule : List Char}, '/' ∉ word →
      Token.Accepts MatchesAlone (.code "/" true) rule → UpTo '/' (word ++ rule) word := by
    intro word rule hword hrule
    rcases hrule with ⟨code, rfl, -⟩ | ⟨-, rfl⟩
    · exact ⟨hword, Or.inr ⟨code, rfl⟩⟩
    · exact ⟨hword, Or.inl (List.append_nil word)⟩
  obtain rfl : word = word' := by
    rw [upTo_iff.mp (hupTo hword hrule), h, ← upTo_iff.mp (hupTo hword' hrule')]
  exact ⟨rfl, List.append_cancel_left h⟩

theorem bracket_not_mem_rule {rule : List Char} (h : Token.Accepts MatchesAlone (.code "/" true) rule) :
    '[' ∉ rule := by
  rcases h with ⟨code, rfl, hcode⟩ | ⟨-, rfl⟩
  · intro hmem
    rcases List.mem_cons.mp hmem with hslash | hmem
    · cases hslash
    · exact hcode.not_mem (by decide) (by decide) hmem
  · exact List.not_mem_nil

/-- A message, and in brackets a label with or without a code. The last opening bracket of the line is the
one in front of the label, whatever the message holds. -/
theorem readBehind_bracket {code : Option String} {rest : String}
    (hword : (word, severity) ∈ Catalogue.scriptWords)
    (hcode : ∀ text, code = some text → IsCode text.toList)
    (hrest : rest.toList = f.message.toList ++ (' ' :: '[' :: (word.toList ++ (ruleText code ++ [']'])))) :
    f.ReadBehind Catalogue.eslintFormat ": " rest severity code
      [⟨.message "message", f.message.toList⟩, ⟨.literal " [", [' ', '[']⟩,
        ⟨.severityPattern "Error|Warning" (Catalogue.labels [("error", .error), ("warning", .warning)])
          .blanks, word.toList⟩,
        ⟨.code "/" true, ruleText code⟩, ⟨.literal "]", [']']⟩] where
  tokens := rfl
  splits := by
    simp only [List.map_cons, List.map_nil, splits_cons, splits_nil]
    exact ⟨_, _, _, rfl, hrest, f.message_run, [' ', '['], _, _, rfl, rfl, rfl, _, _, _, rfl, rfl,
      Catalogue.labelled_script.matchesAlone hword, _, _, _, rfl, rfl, accepts_ruleText hcode, [']'], [],
      [], rfl, rfl, rfl, rfl, rfl⟩
  greatest := by
    intro others hothers
    have hopen : (" [" : String).toList = [' ', '['] := rfl
    have hclose : ("]" : String).toList = [']'] := rfl
    simp only [List.map_cons, List.map_nil, splits_cons, splits_nil] at hothers
    obtain ⟨message, _, _, rfl, htext, -, _, _, _, rfl, rfl, rfl, word', _, _, rfl, rfl, hword', rule, _, _,
      rfl, rfl, hrule, _, _, _, rfl, rfl, rfl, rfl, rfl⟩ := hothers
    have hmatch := Catalogue.labelled_script.matchesAlone hword
    have hbracket : ∀ {word rule : List Char}, MatchesAlone "Error|Warning" word →
        Token.Accepts MatchesAlone (.code "/" true) rule → '[' ∉ word ++ (rule ++ [']']) := by
      intro word rule hword hrule
      simp only [List.mem_append, List.mem_singleton, not_or]
      exact ⟨Catalogue.labelled_script.not_mem (by decide) hword, bracket_not_mem_rule hrule, by decide⟩
    simp only [hrest, hopen, hclose, List.cons_append, List.nil_append, List.append_nil] at htext
    rw [List.append_cons f.message.toList, List.append_cons message] at htext
    -- the brackets that are compared are the last ones, as neither a label nor a code holds one
    obtain ⟨hfront, hback⟩ := cut_last_unique (hbracket hmatch (accepts_ruleText hcode))
      (hbracket hword' hrule) htext
    obtain rfl : f.message.toList = message := List.append_cancel_right hfront
    rw [← List.append_assoc, ← List.append_assoc] at hback
    obtain ⟨rfl, rfl⟩ := label_unique (Catalogue.labelled_script.not_mem (by decide) hmatch)
      (Catalogue.labelled_script.not_mem (by decide) hword') (accepts_ruleText hcode) hrule
      (List.append_cancel_right hback)
    exact AtMost.refl _
  readable := by
    simp only [List.forall_mem_cons]
    exact ⟨⟨rfl, rfl⟩, ⟨rfl, rfl⟩, ⟨Catalogue.labelled_script.fault?_eq_none hword, rfl⟩, ⟨rfl, rfl⟩,
      ⟨rfl, rfl⟩, fun _ hmem => (by cases hmem)⟩
  plain := by
    have hrule : ∀ c ∈ ruleText code, isMessageChar c = true := by
      cases code with
      | none => exact fun c hc => (by cases hc)
      | some text => exact List.forall_mem_cons.mpr ⟨by decide, (hcode text rfl).isMessageChar⟩
    simp only [hrest, List.forall_mem_append, List.forall_mem_cons]
    exact ⟨f.message_run.2, by decide, by decide, Catalogue.labelled_script.isMessageChar hword, hrule,
      by decide, fun _ hmem => (by cases hmem)⟩
  message := rfl
  code := by
    cases code <;> rfl
  severity := fun earlier => by
    have hmessage : Segment.severity? earlier ⟨.message "message", f.message.toList⟩ = none := rfl
    rw [severityFrom, severityFrom, severityFrom, hmessage, Catalogue.labelled_script.severity?_eq hword]
    rfl

end Finding

/-! ## The built-in formats -/

namespace Catalogue

/-- The tokens that decide on severities in the built-in formats. -/
def severities : List Token :=
  [.severityFromMessage none .blanks, .severityFixed (.known .warning),
    .severityPattern "fatal error|error|warning|note" (labels [("fatal error", .error), ("note", .info)])
      .blanks,
    .severityPattern "error|warning|note" (labels [("note", .info)]) .blanks,
    .severityPattern "[CRWEFI]" (labels [("C", .info), ("R", .info), ("I", .info), ("W", .warning),
      ("E", .error), ("F", .error)]) .blanks,
    .severityPattern "Error|Warning" (labels [("error", .error), ("warning", .warning)]) .blanks]

theorem mem_severities : ∀ entry ∈ formats, ∀ token ∈ entry.2.tokens, token.isSeverity = true →
    token ∈ severities := by
  decide +kernel

/-- **The built-in formats can be compiled, and a match reads the greatest split.** -/
theorem exists_greatestBy {name : String} {format : Format} (h : (name, format) ∈ formats) :
    ∃ pattern, format.compile = .ok { format, pattern } ∧ format.GreatestBy pattern := by
  refine Format.exists_greatestBy (fun label table classifier hmem => ?_) fun word hmem => ?_
  · have hseverity := mem_severities _ h _ hmem rfl
    simp only [severities, List.mem_cons, List.not_mem_nil, or_false, reduceCtorEq, false_or,
      Token.severityPattern.injEq] at hseverity
    rcases hseverity with ⟨rfl, -⟩ | ⟨rfl, -⟩ | ⟨rfl, -⟩ | ⟨rfl, -⟩
    · exact ⟨_, labelled_compiler.choice⟩
    · exact ⟨_, labelled_checker.choice⟩
    · exact ⟨_, labelled_letter.choice⟩
    · exact ⟨_, labelled_script.choice⟩
  · have hseverity := mem_severities _ h _ hmem rfl
    simp [severities] at hseverity

/-- The built-in formats have known levels only. -/
theorem levelsKnown {name : String} {format : Format} (h : (name, format) ∈ formats) :
    format.LevelsKnown := by
  refine ⟨fun word hmem => ?_, fun label table classifier hmem => ?_⟩
  · have hseverity := mem_severities _ h _ hmem rfl
    simp [severities] at hseverity
  · have hseverity := mem_severities _ h _ hmem rfl
    have hlabels : ∀ entries, ∀ entry ∈ labels entries, ∃ severity, entry.2 = .known severity := by
      intro entries entry hentry
      obtain ⟨⟨label, severity⟩, -, rfl⟩ := List.mem_map.mp hentry
      exact ⟨severity, rfl⟩
    simp only [severities, List.mem_cons, List.not_mem_nil, or_false, reduceCtorEq, false_or,
      Token.severityPattern.injEq] at hseverity
    rcases hseverity with ⟨-, rfl, -⟩ | ⟨-, rfl, -⟩ | ⟨-, rfl, -⟩ | ⟨-, rfl, -⟩ <;> exact hlabels _

/-- The built-in formats have an answer for every line. -/
theorem exists_answer {name : String} {format : Format} {matcher : Matcher} (h : (name, format) ∈ formats)
    (hcompile : format.compile = .ok matcher) (line : String) : ∃ found, matcher.apply line = .ok found := by
  obtain ⟨pattern, hcompile', hgreatest⟩ := exists_greatestBy h
  obtain rfl := Except.ok.inj (hcompile.symm.trans hcompile')
  cases hmatch : pattern.fullMatch? (matchedText line.toList) with
  | none => exact ⟨none, by rw [Matcher.apply, hmatch]⟩
  | some m =>
      obtain ⟨segments, hsplits, hrecords, -⟩ := hgreatest.reads _ m hmatch
      have hfaults : ∀ segment ∈ segments, segment.fault? = none := fun segment hsegment =>
        LintRunner.fault?_eq_none (levelsKnown h) (hsplits.mem_tokens hsegment)
      obtain ⟨conforms, hverdict⟩ := exists_verdict hfaults
      exact ⟨_, by rw [Matcher.apply_eq hmatch hsplits hrecords, hverdict]; rfl⟩

/-- What a tool writes ends in a text that its format reads behind the place. -/
theorem Writes.exists_readBehind {f : Finding} {format : Format} {line : String} {severity : Severity}
    {code : Option String} (h : Writes f format line severity code) :
    ∃ lead rest later, line = f.place ++ lead ++ rest ∧ (lead = ":" ∨ lead = ": ") ∧
      f.ReadBehind format lead rest severity code later := by
  cases h with
  | gcc =>
      refine ⟨_, _, _, rfl, Or.inr rfl, Finding.readBehind_message rfl (fun _ => Iff.rfl) rfl ⟨rfl, rfl⟩
        fun earlier => ?_⟩
      -- the nearest message before the severity is that of the finding
      have hlast : messageText? none (earlier ++ [⟨.message "message", f.message.toList⟩]) =
          some f.message.toList := by
        rw [messageText?, List.reverse_append]
        rfl
      rw [Segment.severity?, hlast, Option.map_some, String.ofList_toList]
  | govet =>
      exact ⟨_, _, _, rfl, Or.inr rfl,
        Finding.readBehind_message rfl (fun _ => Iff.rfl) rfl ⟨rfl, rfl⟩ fun _ => rfl⟩
  | cc hword =>
      refine ⟨": ", _, _, ?_, Or.inr rfl, Finding.readBehind_labelled labelled_compiler hword rfl⟩
      simp only [String.append_assoc]
  | mypy hword =>
      refine ⟨": ", _, _, ?_, Or.inr rfl, Finding.readBehind_labelled labelled_checker hword rfl⟩
      simp only [String.append_assoc]
  | ruff hcode hblanks hstart =>
      refine ⟨": ", _, _, ?_, Or.inr rfl, Finding.readBehind_code hcode hblanks hstart⟩
      simp only [String.append_assoc]
  | pylint hword hcode hblanks hstart =>
      refine ⟨":", _, _, ?_, Or.inl rfl, Finding.readBehind_letter hword hcode hblanks hstart⟩
      simp only [String.append_assoc]
  | @eslint word severity hword =>
      refine ⟨": ", f.message ++ " [" ++ word ++ "]", _, ?_, Or.inr rfl,
        Finding.readBehind_bracket hword (fun _ hnone => (by cases hnone)) ?_⟩
      · simp only [String.append_assoc]
      · simp [Finding.ruleText]
  | @eslintRule word code severity hword hcode =>
      refine ⟨": ", f.message ++ " [" ++ word ++ "/" ++ code ++ "]", _, ?_, Or.inr rfl,
        Finding.readBehind_bracket hword (fun _ hsome => Option.some.inj hsome ▸ hcode) ?_⟩
      · simp only [String.append_assoc]
      · simp [Finding.ruleText]

theorem Writes.exists_name {f : Finding} {format : Format} {line : String} {severity : Severity}
    {code : Option String} (h : Writes f format line severity code) : ∃ name, (name, format) ∈ formats := by
  simp only [formats, List.mem_cons, Prod.mk.injEq, List.not_mem_nil, or_false]
  cases h
  case gcc => exact ⟨"gcc", by simp⟩
  case cc => exact ⟨"cc", by simp⟩
  case ruff => exact ⟨"ruff", by simp⟩
  case mypy => exact ⟨"mypy", by simp⟩
  case pylint => exact ⟨"pylint", by simp⟩
  case eslint | eslintRule => exact ⟨"eslint", by simp⟩
  case govet => exact ⟨"govet", by simp⟩

/-- **The built-in formats read what their tools write.** Every line comes back as the finding that it
was written for, with its severity and its code, whatever the message imitates. -/
theorem reads_written {f : Finding} {format : Format} {line : String} {severity : Severity}
    {code : Option String} (h : Writes f format line severity code) :
    ∃ matcher, format.compile = .ok matcher ∧
      matcher.apply line = .ok (some (f.diagnostic severity code)) := by
  obtain ⟨name, hname⟩ := h.exists_name
  obtain ⟨pattern, hcompile, hgreatest⟩ := exists_greatestBy hname
  obtain ⟨lead, rest, later, rfl, hlead, hbehind⟩ := h.exists_readBehind
  exact ⟨_, hcompile, hbehind.apply_eq hlead hgreatest⟩

/-- A finding whose message looks like the end of a line, and like a label in front of a message. -/
def imitation : Finding where
  filename := "a.js"
  line := 3
  column := 0
  message := "x [Error/y]: error: z"
  filename_run := ⟨by decide, List.all_eq_true.mp (by decide)⟩
  line_pos := by decide
  line_lt := by decide
  column_lt := by decide
  message_run := ⟨by decide, List.all_eq_true.mp (by decide)⟩

theorem imitation_read :
    Writes imitation eslintFormat "a.js:3:0: x [Error/y]: error: z [Warning/no-x]" .warning
        (some "no-x") ∧
      ∃ matcher, eslintFormat.compile = .ok matcher ∧
        matcher.apply "a.js:3:0: x [Error/y]: error: z [Warning/no-x]" =
          .ok (some (imitation.diagnostic .warning (some "no-x"))) := by
  have hline : imitation.place ++ ": " ++ imitation.message ++ " [" ++ "Warning" ++ "/" ++ "no-x" ++ "]" =
      "a.js:3:0: x [Error/y]: error: z [Warning/no-x]" := by decide +kernel
  have hwrites := @Writes.eslintRule imitation "Warning" "no-x" .warning (by decide)
    ⟨'n', "o-x".toList, rfl, by decide, List.all_eq_true.mp (by decide)⟩
  rw [hline] at hwrites
  exact ⟨hwrites, reads_written hwrites⟩

end Catalogue

end LintRunner
