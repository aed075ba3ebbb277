import LintRunner.Proofs.Format.Extraction

/-!
# Which sequences of tokens are layouts

`IsLayout` says rule by rule what a sequence of tokens must be to describe a line, without an order of
checks. The checks of a format stop at the first problem, count some rules, and follow others in one pass
that remembers the names of the messages so far; they let exactly the layouts through
(`layoutProblem?_eq_none_iff`), so that exactly the layouts are formats (`Format.make_admits`).
-/

set_option autoImplicit false

namespace LintRunner

variable {tokens before : List Token} {token : Token} {seen : List String} {name : String}

/-! ## Layouts -/

def Token.isCode : Token → Bool
  | code .. => true
  | _ => false

/-- What a token asks of the tokens before it: texts are not empty, names of messages are new, and a
severity is judged by a message that has been read. -/
def Token.FitsBehind (before : List Token) : Token → Prop
  | literal text => text ≠ ""
  | severityPattern pattern _ _ => pattern ≠ ""
  | message name => name ≠ "" ∧ message name ∉ before
  | severityFromMessage source _ =>
      (∃ name, message name ∈ before) ∧ ∀ name, source = some name → message name ∈ before
  | _ => True

/-- The rules of layouts. A line has one name of a file, one number of a line, a message, and at most one
column, code and severity. Literals, patterns and names of messages are not empty, no two messages have
one name, and a severity is judged by a message before it. -/
structure IsLayout (tokens : List Token) : Prop where
  filename : tokens.count .filename = 1
  line : tokens.count .line = 1
  message : ∃ name, .message name ∈ tokens
  column : tokens.count .column ≤ 1
  code : tokens.countP Token.isCode ≤ 1
  severity : tokens.countP Token.isSeverity ≤ 1
  literal : .literal "" ∉ tokens
  pattern : ∀ labels classifier, .severityPattern "" labels classifier ∉ tokens
  named : .message "" ∉ tokens
  distinct : ∀ name, tokens.count (.message name) ≤ 1
  source : ∀ before source classifier after,
    tokens = before ++ .severityFromMessage source classifier :: after →
      (∃ name, .message name ∈ before) ∧ ∀ name, source = some name → .message name ∈ before

/-! ## Names of messages -/

theorem mem_messageNames : name ∈ messageNames tokens ↔ .message name ∈ tokens := by
  unfold messageNames
  rw [List.mem_filterMap]
  constructor
  · rintro ⟨token, htoken, hname⟩
    cases token with
    | message other =>
        obtain rfl : other = name := by simpa [Token.messageName?] using hname
        exact htoken
    | _ => simp [Token.messageName?] at hname
  · intro h
    exact ⟨.message name, h, rfl⟩

theorem messageNames_eq_nil_iff : messageNames tokens = [] ↔ ∀ name, .message name ∉ tokens := by
  rw [List.eq_nil_iff_forall_not_mem]
  simp only [mem_messageNames]

theorem count_messageNames : (messageNames tokens).count name = tokens.count (.message name) := by
  unfold messageNames List.count
  rw [List.countP_filterMap]
  apply List.countP_congr
  intro token _
  cases token <;> simp [Token.messageName?]

/-! ## The pass over the tokens -/

/-- A token has no problem behind the names of some messages if it fits behind tokens with these names. -/
theorem tokenProblem?_eq_none_iff :
    tokenProblem? (messageNames before) token = none ↔ token.FitsBehind before := by
  unfold tokenProblem? Token.FitsBehind
  cases token with
  | literal text => simp
  | severityPattern pattern labels classifier => simp
  | message name =>
      by_cases hname : name = ""
      · simp [hname]
      · by_cases hmem : .message name ∈ before
        · simp [hname, hmem, mem_messageNames]
        · simp [hname, hmem, mem_messageNames]
  | severityFromMessage source classifier =>
      by_cases hsome : ∃ name, .message name ∈ before
      · have hseen : messageNames before ≠ [] := by
          obtain ⟨name, hname⟩ := hsome
          exact fun hnil => messageNames_eq_nil_iff.mp hnil name hname
        cases source with
        | none => simp [hseen, hsome]
        | some name => simp [hseen, hsome, mem_messageNames]
      · have hseen : messageNames before = [] := messageNames_eq_nil_iff.mpr (not_exists.mp hsome)
        simp [hseen, hsome]
  | _ => simp

/-- The pass finds no problem if it finds none with any token behind the names of those before it. -/
theorem orderProblem?_eq_none_iff :
    orderProblem? seen tokens = none ↔ ∀ before token after, tokens = before ++ token :: after →
      tokenProblem? (seen ++ messageNames before) token = none := by
  constructor
  · rintro h before token after rfl
    exact tokenProblem?_eq_none h
  · intro h
    induction tokens generalizing seen with
    | nil => rfl
    | cons token tokens ih =>
        have hfirst : tokenProblem? seen token = none := by
          simpa [messageNames] using h [] token tokens rfl
        unfold orderProblem?
        rw [hfirst]
        apply ih
        intro before other after htokens
        -- the names that have been seen are those of the token and of the tokens behind it
        have hlater := h (token :: before) other after (by rw [htokens]; rfl)
        rwa [messageNames_cons, ← List.append_assoc] at hlater

theorem fitsBehind_iff :
    (∀ before token after, tokens = before ++ token :: after → token.FitsBehind before) ↔
      orderProblem? [] tokens = none := by
  simp only [orderProblem?_eq_none_iff, List.nil_append, tokenProblem?_eq_none_iff]

/-! ## The counts -/

theorem fieldCount_eq_count {field : Field} (h : ∀ other : Token, other.field? = some field ↔ other = token) :
    fieldCount field tokens = tokens.count token := by
  unfold fieldCount List.count
  apply List.countP_congr
  intro other _
  simp [h]

theorem fieldCount_filename : fieldCount .filename tokens = tokens.count .filename :=
  fieldCount_eq_count fun other => by cases other <;> simp [Token.field?]

theorem fieldCount_line : fieldCount .line tokens = tokens.count .line :=
  fieldCount_eq_count fun other => by cases other <;> simp [Token.field?]

theorem fieldCount_column : fieldCount .column tokens = tokens.count .column :=
  fieldCount_eq_count fun other => by cases other <;> simp [Token.field?]

theorem fieldCount_code : fieldCount .code tokens = tokens.countP Token.isCode := by
  unfold fieldCount
  apply List.countP_congr
  intro token _
  cases token <;> simp [Token.field?, Token.isCode]

theorem fieldCount_message_ne_zero : fieldCount .message tokens ≠ 0 ↔ ∃ name, .message name ∈ tokens := by
  unfold fieldCount
  rw [← Nat.pos_iff_ne_zero, List.countP_pos_iff]
  constructor
  · rintro ⟨token, htoken, hfield⟩
    cases token with
    | message name => exact ⟨name, htoken⟩
    | _ => simp [Token.field?] at hfield
  · rintro ⟨name, h⟩
    exact ⟨.message name, h, by simp [Token.field?]⟩

/-! ## Layouts are what the checks let through -/

theorem Valid.isLayout (h : Valid tokens) : IsLayout tokens := by
  have hfits := fitsBehind_iff.mpr h.ordered
  -- what a token has to be by itself does not depend on what stands before it
  have hfits' : ∀ token ∈ tokens, ∃ before, token.FitsBehind before := by
    intro token htoken
    obtain ⟨before, after, rfl⟩ := List.append_of_mem htoken
    exact ⟨before, hfits before token after rfl⟩
  have hnodup : (messageNames tokens).Nodup := nodup_messageNames h.ordered List.nodup_nil
  have hfilename := h.present .filename (by simp)
  have hfilename' := h.single .filename (by simp)
  have hline := h.present .line (by simp)
  have hline' := h.single .line (by simp)
  have hcolumn := h.single .column (by simp)
  have hcode := h.single .code (by simp)
  rw [fieldCount_filename] at hfilename hfilename'
  rw [fieldCount_line] at hline hline'
  exact
    { filename := by omega
      line := by omega
      message := fieldCount_message_ne_zero.mp (h.present .message (by simp))
      column := by rwa [fieldCount_column] at hcolumn
      code := by rwa [fieldCount_code] at hcode
      severity := h.severity
      literal := fun hmem => by
        obtain ⟨before, hbefore⟩ := hfits' _ hmem
        exact hbefore rfl
      pattern := fun labels classifier hmem => by
        obtain ⟨before, hbefore⟩ := hfits' _ hmem
        exact hbefore rfl
      named := fun hmem => by
        obtain ⟨before, hbefore⟩ := hfits' _ hmem
        exact hbefore.1 rfl
      distinct := fun name => by
        rw [← count_messageNames]
        exact List.nodup_iff_count.mp hnodup name
      source := fun before source classifier after htokens => hfits before _ after htokens }

theorem IsLayout.fitsBehind {after : List Token} (h : IsLayout tokens)
    (htokens : tokens = before ++ token :: after) : token.FitsBehind before := by
  have hmem : token ∈ tokens := by simp [htokens]
  cases token with
  | literal text =>
      rintro rfl
      exact h.literal hmem
  | severityPattern pattern labels classifier =>
      rintro rfl
      exact h.pattern labels classifier hmem
  | message name =>
      constructor
      · rintro rfl
        exact h.named hmem
      · intro hbefore
        have hcount := h.distinct name
        rw [htokens, List.count_append, List.count_cons_self] at hcount
        have hpos := List.count_pos_iff.mpr hbefore
        omega
  | severityFromMessage source classifier => exact h.source before source classifier after htokens
  | _ => trivial

theorem IsLayout.valid (h : IsLayout tokens) : Valid tokens where
  present := by
    have hfilename := h.filename
    have hline := h.line
    simp only [List.forall_mem_cons, List.not_mem_nil, false_implies, implies_true, and_true]
    rw [fieldCount_filename, fieldCount_line]
    exact ⟨by omega, by omega, fieldCount_message_ne_zero.mpr h.message⟩
  single := by
    simp only [List.forall_mem_cons, List.not_mem_nil, false_implies, implies_true, and_true]
    rw [fieldCount_filename, fieldCount_line, fieldCount_column, fieldCount_code]
    exact ⟨Nat.le_of_eq h.filename, Nat.le_of_eq h.line, h.column, h.code⟩
  severity := h.severity
  ordered := fitsBehind_iff.mp fun _ _ _ htokens => h.fitsBehind htokens

/-- Tokens of which all counts are right and that are in order have no problem. -/
theorem Valid.layoutProblem?_eq_none (h : Valid tokens) : layoutProblem? tokens = none := by
  have hpresent : [Field.filename, .line, .message].find? (fun field => fieldCount field tokens == 0) = none :=
    List.find?_eq_none.mpr fun field hfield => by simpa using h.present field hfield
  have hsingle : [Field.filename, .line, .column, .code].find? (fun field => 1 < fieldCount field tokens)
      = none :=
    List.find?_eq_none.mpr fun field hfield => by simpa using h.single field hfield
  unfold layoutProblem?
  simp only [hpresent, hsingle]
  rw [if_neg (Nat.not_lt.mpr h.severity)]
  exact h.ordered

/-- The checks let exactly the layouts through. -/
theorem layoutProblem?_eq_none_iff : layoutProblem? tokens = none ↔ IsLayout tokens := by
  constructor
  · intro h
    exact (valid_of_layout h).isLayout
  · intro h
    exact h.valid.layoutProblem?_eq_none

instance : Decidable (IsLayout tokens) := decidable_of_iff _ layoutProblem?_eq_none_iff

/-! ## Formats -/

theorem tokensOfParts_token (tokens : List Token) : tokensOfParts (tokens.map .token) = .ok tokens := by
  induction tokens with
  | nil => rfl
  | cons token tokens ih =>
      rw [List.map_cons, tokensOfParts, ih]
      rfl

/-- Parts give tokens exactly if all of them are tokens. -/
theorem tokensOfParts_eq_ok_iff {parts : List Part} :
    tokensOfParts parts = .ok tokens ↔ parts = tokens.map .token := by
  constructor
  · intro h
    induction parts generalizing tokens with
    | nil =>
        obtain rfl := Except.ok.inj h
        rfl
    | cons part parts ih =>
        cases part with
        | foreign shown => simp [tokensOfParts] at h
        | token token =>
            cases hrest : tokensOfParts parts with
            | error shown => simp [tokensOfParts, hrest, Except.map] at h
            | ok rest =>
                obtain rfl : token :: rest = tokens := by simpa [tokensOfParts, hrest, Except.map] using h
                rw [ih hrest]
                rfl
  · rintro rfl
    exact tokensOfParts_token tokens

namespace Format

/-- The tokens of a format give that format. -/
theorem ofTokens_tokens (format : Format) : ofTokens format.tokens format.fallback = .ok format := by
  unfold ofTokens
  split
  · rename_i problem hproblem
    rw [format.valid] at hproblem
    cases hproblem
  · rfl

theorem make_tokens (format : Format) :
    make (format.tokens.map .token) (.known format.fallback) = .ok format := by
  unfold make
  simp only [tokensOfParts_token, ofTokens_tokens]

theorem make_eq_ok {parts : List Part} {severity : Severity} {format : Format}
    (h : make parts (.known severity) = .ok format) :
    tokensOfParts parts = .ok format.tokens ∧ format.fallback = severity := by
  unfold make at h
  cases htokens : tokensOfParts parts with
  | error shown => simp [htokens] at h
  | ok tokens =>
      cases hmade : ofTokens tokens severity with
      | error problem => simp [htokens, hmade] at h
      | ok made =>
          obtain rfl : made = format := by simpa [htokens, hmade] using h
          unfold ofTokens at hmade
          split at hmade
          · cases hmade
          · obtain rfl := Except.ok.inj hmade
            exact ⟨rfl, rfl⟩

/-- With a severity that is known, only the parts of a format can be wrong. -/
theorem make_error {parts : List Part} {severity : Severity} {failure : Failure}
    (h : make parts (.known severity) = .error failure) : ∃ problem, failure = .format problem := by
  unfold make at h
  cases htokens : tokensOfParts parts with
  | error shown =>
      obtain rfl : .format (.unsupportedToken shown) = failure := by simpa [htokens] using h
      exact ⟨_, rfl⟩
  | ok tokens =>
      cases hmade : ofTokens tokens severity with
      | error problem =>
          obtain rfl : .format problem = failure := by simpa [htokens, hmade] using h
          exact ⟨_, rfl⟩
      | ok made => simp [htokens, hmade] at h

/-- **Exactly the layouts are formats.** Parts are put together to a format if they are tokens that make up
a layout; any other parts are refused with a problem of the format. -/
theorem make_admits (parts : List Part) (severity : Severity) :
    ((∃ format, make parts (.known severity) = .ok format) ↔
        ∃ tokens, parts = tokens.map .token ∧ IsLayout tokens) ∧
      ((∃ format, make parts (.known severity) = .ok format ∧ parts = format.tokens.map .token ∧
          format.fallback = severity) ∨
        ∃ problem, make parts (.known severity) = .error (.format problem)) := by
  constructor
  · constructor
    · rintro ⟨format, h⟩
      have htokens := tokensOfParts_eq_ok_iff.mp (make_eq_ok h).1
      exact ⟨format.tokens, htokens, layoutProblem?_eq_none_iff.mp format.valid⟩
    · rintro ⟨tokens, rfl, h⟩
      let format : Format :=
        { tokens, fallback := severity, valid := layoutProblem?_eq_none_iff.mpr h }
      exact ⟨format, format.make_tokens⟩
  · cases h : make parts (.known severity) with
    | ok format =>
        obtain ⟨htokens, hfallback⟩ := make_eq_ok h
        exact Or.inl ⟨format, rfl, tokensOfParts_eq_ok_iff.mp htokens, hfallback⟩
    | error failure =>
        obtain ⟨problem, rfl⟩ := make_error h
        exact Or.inr ⟨problem, rfl⟩

/-- A severity cannot be judged by a message that comes later. -/
example : ¬ IsLayout [.filename, .line, .severityFromMessage none .blanks, .message "text"] := by decide

end Format

end LintRunner
