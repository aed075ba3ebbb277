import Mathlib.Data.List.Forall2
import LintRunner.Proofs.Config.Placeholders
import LintRunner.Proofs.Format.Acceptance
import LintRunner.Proofs.Format.Compilation
import LintRunner.Proofs.Ordered

/-!
# Writing formats in the notation

`Writes` says how the notation writes each token. What is written is read back: token by token
(`readItem_of_writes`), and as a whole, since the tokens of a format are a layout whose pattern can be read
(`readFormat_of_writes`).
-/

set_option autoImplicit false

namespace LintRunner

/-- What the notation can say with a classifier: names of messages in which no brace is closed, severities
that are judged with this classifier, and tables with one known severity for each label. -/
def Token.Expressible (classifier : Classifier) : Token → Prop
  | message name => '\x7d' ∉ name.toList
  | severityFromMessage _ other => other = classifier
  | severityPattern _ labels other =>
      other = classifier ∧ (Ordered.keys labels).Nodup ∧
        ∀ entry ∈ labels, ∃ severity, entry.2 = .known severity
  | _ => True

namespace Notation

open LintRunner.Text

variable {classifier : Classifier}

def labelTable (labels : Labels) : Value :=
  .table (labels.map fun entry => (entry.1, .string entry.2.word))

/-- How the notation writes a token: a literal as a table, or as a text if it does not look like a
placeholder. The keys of a table may stand in any order, and no two of them are equal. -/
inductive Writes : Token → FormatItem → Prop
  | filename : Writes .filename (.text "\x7bfilename\x7d")
  | line : Writes .line (.text "\x7bline\x7d")
  | column : Writes .column (.text "\x7bcolumn\x7d")
  | whitespace : Writes .whitespace (.text "\x7bspaces\x7d")
  | message (name : String) : Writes (.message name) (.text ("\x7bmessage:" ++ name ++ "\x7d"))
  | severity (classifier : Classifier) :
      Writes (.severityFromMessage none classifier) (.text "\x7bseverity\x7d")
  | source (name : String) (classifier : Classifier) :
      Writes (.severityFromMessage (some name) classifier) (.text ("\x7bseverity:" ++ name ++ "\x7d"))
  | level (level : Level) : Writes (.severityFixed level) (.text ("\x7bseverity=" ++ level.word ++ "\x7d"))
  | literal (text : String) : Writes (.literal text) (.table [("literal", .string text)])
  | plain {text : String} (start : text.toList.head? ≠ some '\x7b') : Writes (.literal text) (.text text)
  | code {lead : String} {optional : Bool} {options : List (String × Value)}
      (keys : options.Perm [("prefix", .string lead), ("optional", .bool optional)]) :
      Writes (.code lead optional) (.table [("code", .table options)])
  | pattern {pattern : String} {labels : Labels} {classifier : Classifier} {entries : List (String × Value)}
      (distinct : (Ordered.keys labels).Nodup)
      (keys : entries.Perm [("severity_pattern", .string pattern), ("map", labelTable labels)]) :
      Writes (.severityPattern pattern labels classifier) (.table entries)

/-- The item that a token is written as if literals are always tables. -/
def write : Token → FormatItem
  | .filename => .text "\x7bfilename\x7d"
  | .line => .text "\x7bline\x7d"
  | .column => .text "\x7bcolumn\x7d"
  | .whitespace => .text "\x7bspaces\x7d"
  | .message name => .text ("\x7bmessage:" ++ name ++ "\x7d")
  | .severityFromMessage none _ => .text "\x7bseverity\x7d"
  | .severityFromMessage (some name) _ => .text ("\x7bseverity:" ++ name ++ "\x7d")
  | .severityFixed level => .text ("\x7bseverity=" ++ level.word ++ "\x7d")
  | .literal text => .table [("literal", .string text)]
  | .code lead optional => .table [("code", .table [("prefix", .string lead), ("optional", .bool optional)])]
  | .severityPattern pattern labels _ =>
      .table [("severity_pattern", .string pattern), ("map", labelTable labels)]

theorem writes_write {token : Token} (h : token.Expressible classifier) : Writes token (write token) := by
  cases token with
  | filename => exact .filename
  | line => exact .line
  | column => exact .column
  | code lead optional => exact .code (List.Perm.refl _)
  | message name => exact .message name
  | severityFromMessage source other =>
      cases source with
      | none => exact .severity other
      | some name => exact .source name other
  | severityFixed level => exact .level level
  | severityPattern pattern labels other =>
      obtain ⟨-, hdistinct, -⟩ := h
      exact .pattern hdistinct (List.Perm.refl _)
  | literal text => exact .literal text
  | whitespace => exact .whitespace

/-! ## Texts -/

/-- A word and a colon between a brace and an argument are read as such. -/
theorem read?_argument {lead name : String} {kind : List Char} (hlead : lead.toList = '\x7b' :: (kind ++ [':']))
    (hne : kind ≠ []) (hkind : ∀ c ∈ kind, isKindChar c = true) (hname : '\x7d' ∉ name.toList) :
    Placeholder.read? (lead ++ name ++ "\x7d").toList = some ⟨kind, some (':', name.toList)⟩ := by
  have hproper : Placeholder.IsProper ⟨kind, some (':', name.toList)⟩ := by
    refine ⟨hne, hkind, ?_⟩
    intro sign argument hargument
    cases hargument
    exact ⟨Or.inl rfl, hname⟩
  rw [Placeholder.read?_eq_some_iff]
  exact ⟨hproper, Or.inl (by simp [Placeholder.text, Placeholder.tail, hlead])⟩

theorem readItem_message {name : String} (hne : name ≠ "") (hname : '\x7d' ∉ name.toList) :
    readItem classifier (.text ("\x7bmessage:" ++ name ++ "\x7d")) = .ok (.message name) := by
  have hread : Placeholder.read? ("\x7bmessage:" ++ name ++ "\x7d").toList
      = some ⟨"message".toList, some (':', name.toList)⟩ :=
    read?_argument (by decide) (by decide) (List.all_eq_true.mp rfl) hname
  apply readItem_of_tokenOfText
  rw [tokenOfText_of_message hread (Or.inl rfl) (by simpa using hne)]
  simp

theorem readItem_source {name : String} (hname : '\x7d' ∉ name.toList) :
    readItem classifier (.text ("\x7bseverity:" ++ name ++ "\x7d"))
      = .ok (.severityFromMessage (some name) classifier) := by
  have hread : Placeholder.read? ("\x7bseverity:" ++ name ++ "\x7d").toList
      = some ⟨"severity".toList, some (':', name.toList)⟩ :=
    read?_argument (by decide) (by decide) (List.all_eq_true.mp rfl) hname
  apply readItem_of_tokenOfText
  rw [tokenOfText_of_severity hread]
  simp [severityToken]

theorem readItem_level (severity : Severity) :
    readItem classifier (.text ("\x7bseverity=" ++ severity.name ++ "\x7d"))
      = .ok (.severityFixed (.known severity)) := by
  cases severity <;> rfl

/-- A text that does not begin with a brace stands for itself. -/
theorem readItem_plain {text : String} (h : text.toList.head? ≠ some '\x7b') :
    readItem classifier (.text text) = .ok (.literal text) := by
  apply readItem_of_tokenOfText
  have hread : Placeholder.read? text.toList = none := by
    unfold Placeholder.read?
    split
    · rename_i rest htext
      rw [htext] at h
      exact absurd rfl h
    · rfl
  unfold tokenOfText
  rw [hread]

/-! ## Tables -/

theorem readItem_literal (text : String) :
    readItem classifier (.table [("literal", .string text)]) = .ok (.literal text) := by
  rfl

theorem readItem_code {lead : String} {optional : Bool} {options : List (String × Value)}
    (h : options.Perm [("prefix", .string lead), ("optional", .bool optional)]) :
    readItem classifier (.table [("code", .table options)]) = .ok (.code lead optional) := by
  have hdistinct : ["prefix", "optional"].Nodup := by decide
  have hlead : options.lookup "prefix" = some (.string lead) := Ordered.lookup_of_perm h hdistinct _
  have hoptional : options.lookup "optional" = some (.bool optional) := Ordered.lookup_of_perm h hdistinct _
  have hknown : unknownOptions options = [] := by
    have hfilter : (Ordered.keys options).filter (fun key => !(["prefix", "optional"].contains key)) = [] := by
      rw [List.filter_eq_nil_iff]
      intro key hkey
      have hmem : key ∈ ["prefix", "optional"] := (h.map Prod.fst).mem_iff.mp hkey
      simpa [or_iff_not_imp_left] using hmem
    unfold unknownOptions
    rw [hfilter, List.mergeSort_nil]
  unfold readItem
  simp [isTooLong, writtenPart?, tokenOf, tokenOfTable, codeToken, hknown, hlead, hoptional,
    Value.isWritable, Value.text, Value.isTruthy, List.lookup_cons]

theorem labelsOf_map {labels : Labels} (h : ∀ entry ∈ labels, ∃ severity, entry.2 = .known severity) :
    labelsOf (labels.map fun entry => (entry.1, .string entry.2.word)) = .ok labels := by
  induction labels with
  | nil => rfl
  | cons entry labels ih =>
      rw [List.forall_mem_cons] at h
      obtain ⟨⟨severity, hseverity⟩, hlabels⟩ := h
      obtain ⟨label, level⟩ := entry
      obtain rfl : level = .known severity := hseverity
      have hnamed : Severity.ofValue? (.string (Level.known severity).word) = some severity := by
        cases severity <;> rfl
      rw [List.map_cons, labelsOf, hnamed]
      simp only [ih hlabels, Except.map]

theorem readItem_pattern {pattern : String} {labels : Labels} {entries : List (String × Value)}
    (h : entries.Perm [("severity_pattern", .string pattern), ("map", labelTable labels)])
    (hlabels : ∀ entry ∈ labels, ∃ severity, entry.2 = .known severity) :
    readItem classifier (.table entries) = .ok (.severityPattern pattern labels classifier) := by
  have hdistinct : ["severity_pattern", "map"].Nodup := by decide
  have hpattern : entries.lookup "severity_pattern" = some (.string pattern) :=
    Ordered.lookup_of_perm h hdistinct _
  have hmap : entries.lookup "map" = some (labelTable labels) := Ordered.lookup_of_perm h hdistinct _
  have hliteral : entries.lookup "literal" = none := Ordered.lookup_of_perm h hdistinct _
  have hcode : entries.lookup "code" = none := Ordered.lookup_of_perm h hdistinct _
  unfold readItem
  simp [isTooLong, writtenPart?, tokenOf, tokenOfTable, patternToken, patternToken.labelled, labelTable,
    hpattern, hmap, hliteral, hcode, labelsOf_map hlabels, Value.isWritable, Value.text, Except.map]

/-! ## Formats -/

/-- What writes a token of a format is read as that token. -/
theorem readItem_of_writes {tokens : List Token} (hlayout : IsLayout tokens)
    (hlevels : ∀ word, .severityFixed (.unknown word) ∉ tokens)
    (hexpressible : ∀ token ∈ tokens, token.Expressible classifier) {token : Token} (htoken : token ∈ tokens)
    {item : FormatItem} (h : Writes token item) : readItem classifier item = .ok token := by
  have hself := hexpressible token htoken
  cases h with
  | filename => rfl
  | line => rfl
  | column => rfl
  | whitespace => rfl
  | message name =>
      have hne : name ≠ "" := by
        rintro rfl
        exact hlayout.named htoken
      exact readItem_message hne hself
  | severity other =>
      obtain rfl : other = classifier := hself
      rfl
  | source name other =>
      obtain rfl : other = classifier := hself
      -- the severity is judged by a message of the layout, whose name can be written
      obtain ⟨before, after, htokens⟩ := List.append_of_mem htoken
      have hbefore := (hlayout.source before _ other after htokens).2 name rfl
      exact readItem_source (hexpressible (.message name) (by simp [htokens, hbefore]))
  | level level =>
      cases level with
      | known severity => exact readItem_level severity
      | unknown word => exact absurd htoken (hlevels word)
  | literal text => exact readItem_literal text
  | plain hstart => exact readItem_plain hstart
  | code hkeys => exact readItem_code hkeys
  | pattern _ hkeys =>
      obtain ⟨rfl, -, hlabels⟩ := hself
      exact readItem_pattern hkeys hlabels

/-- **A format that is written is read back.** Every format that can be compiled and that is expressible
with a classifier can be written, and whatever writes its tokens one by one is read as the format. -/
theorem readFormat_of_writes {format : Format} {matcher : Matcher} {classifier : Classifier}
    (hcompile : format.compile = .ok matcher)
    (hexpressible : ∀ token ∈ format.tokens, token.Expressible classifier) :
    List.Forall₂ Writes format.tokens (format.tokens.map write) ∧
      ∀ items, List.Forall₂ Writes format.tokens items →
        readFormat classifier (.known format.fallback) items = .ok format := by
  constructor
  · rw [List.forall₂_map_right_iff, List.forall₂_same]
    intro token htoken
    exact writes_write (hexpressible token htoken)
  · intro items hitems
    have hlayout : IsLayout format.tokens := layoutProblem?_eq_none_iff.mp format.valid
    have hread : ∀ token ∈ format.tokens, ∀ item, Writes token item →
        readItem classifier item = .ok token := fun token htoken item hwrites =>
      readItem_of_writes hlayout (Format.levels_of_compile hcompile) hexpressible htoken hwrites
    have hmembers := (List.forall₂_and_left (p := (· ∈ format.tokens)) _ _).mpr ⟨fun _ h => h, hitems⟩
    have htokens : items.mapM (readItem classifier) = .ok format.tokens :=
      mapM_of_forall₂ (hmembers.imp fun token item h => hread token h.1 item h.2)
    unfold readFormat
    simp only [htokens, Format.make_tokens, hcompile]

def tabledFormat : Format where
  tokens :=
    [.filename, .literal "\x7bline\x7d", .line, .literal ":",
      .severityPattern "[EW]" [("E", .known .error), ("W", .known .warning)] .punctuation,
      .code "/" true, .whitespace, .message "\x7btext:"]
  fallback := .info
  valid := by decide

theorem tabledFormat_read :
    ∃ matcher, tabledFormat.compile = .ok matcher ∧
      (∀ token ∈ tabledFormat.tokens, token.Expressible .punctuation) ∧
      readFormat .punctuation (.known .info)
        [.text "\x7bfilename\x7d", .table [("literal", .string "\x7bline\x7d")], .text "\x7bline\x7d",
          .text ":",
          .table [("map", .table [("E", .string "error"), ("W", .string "warning")]),
            ("severity_pattern", .string "[EW]")],
          .table [("code", .table [("prefix", .string "/"), ("optional", .bool true)])],
          .text "\x7bspaces\x7d", .text "\x7bmessage:\x7btext:\x7d"] = .ok tabledFormat := by
  obtain ⟨matcher, hcompile⟩ : ∃ matcher, tabledFormat.compile = .ok matcher :=
    exists_of_isSome_toOption (by decide +kernel)
  have hexpressible : ∀ token ∈ tabledFormat.tokens, token.Expressible .punctuation := by
    simp only [tabledFormat, List.forall_mem_cons, List.not_mem_nil, false_implies, implies_true, and_true]
    simp [Token.Expressible, Ordered.keys]
  refine ⟨matcher, hcompile, hexpressible, (readFormat_of_writes hcompile hexpressible).2 _ ?_⟩
  exact .cons .filename (.cons (.literal _) (.cons .line (.cons (.plain (by decide))
    (.cons (.pattern (by decide) (List.Perm.swap _ _ _)) (.cons (.code (List.Perm.refl _))
      (.cons .whitespace (.cons (.message "\x7btext:") .nil)))))))

end Notation

end LintRunner
