import LintRunner.Proofs.Format.Acceptance
import LintRunner.Proofs.Format.Soundness

/-!
# Guards that never fire

Compiling a format and applying its matcher look out for what cannot be: parts that are no tokens, a severity
without a message before it, a message that has not been captured, fields that are missing, a diagnostic
that does not pass its check. `Format.compileParts` and `Matcher.trace` say which of these guards has
fired; without the reasons they are compilation and application themselves (`Format.compileParts_eq`,
`Matcher.apply_eq_trace`). For a format that was accepted none of them does (`Format.guards_idle`): the
order of tokens that the format was checked for is the order in which they are compiled and in which their
fields are filled.
-/

set_option autoImplicit false

namespace LintRunner

open Regex Text

/-! ## Guards of compilation -/

def Part.messageName? : Part → Option String
  | .token item => item.messageName?
  | .foreign _ => none

/-- What the part at a place contributes to the pattern, if nothing is wrong with it. The name is that of
the nearest message before it; an empty name of a message counts as none. -/
def Part.source (index : Nat) (lastMessage : Option String) : Part → Except Failure (List Char)
  | .token (.severityFromMessage source _) =>
      match (source.filter fun name => !name.isEmpty).or lastMessage with
      | some _ => .ok []
      | none => .error (.format .noEarlierMessage)
  | .token (.severityFixed (.unknown word)) => .error (.unknownSeverity (quoted word))
  | .token item => .ok (tokenSource index item)
  | .foreign shown => .error (.format (.unsupportedToken shown))

def sourceOfParts : Nat → Option String → List Part → Except Failure (List Char)
  | _, _, [] => .ok []
  | index, lastMessage, part :: rest => do
      let text ← part.source index lastMessage
      let more ← sourceOfParts (index + 1) (part.messageName?.or lastMessage) rest
      return text ++ more

/-- The matcher of a format that was made of the given parts, with every guard. -/
def Format.compileParts (format : Format) (parts : List Part) : Except Failure Matcher := do
  let source ← sourceOfParts 0 none parts
  match Pattern.read source with
  | .ok pattern => .ok { format, pattern }
  | .error .malformed => .error (.format (.invalidPattern (String.ofList source)))
  | .error .countTooLarge => .error .countTooLarge
  | .error (.digitLimit digits) => .error (.digitLimit (some digits))

/-- A token behind messages of the given names contributes its pattern, unless it is a severity whose word
is none. -/
theorem Part.source_eq {seen : List String} {token : Token} (h : tokenProblem? seen token = none)
    (hlevel : ∀ word, token ≠ .severityFixed (.unknown word)) (index : Nat) :
    (Part.token token).source index seen.getLast? = .ok (tokenSource index token) := by
  cases token with
  | severityFromMessage source classifier =>
      have hseen : seen ≠ [] := by
        rintro rfl
        cases h
      have hlast : seen.getLast? = some (seen.getLast hseen) := List.getLast?_eq_some_getLast hseen
      rw [Part.source, hlast]
      cases source.filter fun name => !name.isEmpty <;> rfl
  | severityFixed level =>
      cases level with
      | known severity => rfl
      | unknown word => exact absurd rfl (hlevel word)
  | _ => rfl

/-- **Tokens in order are compiled in order:** the names of the messages so far are those that the check of
the layout remembers. -/
theorem sourceOfParts_eq {tokens : List Token} {seen : List String} (h : orderProblem? seen tokens = none)
    (index : Nat) :
    sourceOfParts index seen.getLast? (tokens.map .token) =
      match unknownLevel? tokens with
      | some failure => .error failure
      | none => .ok (sourceFrom index tokens) := by
  induction tokens generalizing seen index with
  | nil => rfl
  | cons token tokens ih =>
      rw [orderProblem?] at h
      split at h
      · cases h
      · rename_i hfits
        -- the compiler keeps the last name of those that the check keeps
        have hlast : (Part.token token).messageName?.or seen.getLast?
            = (seen ++ token.messageName?.toList).getLast? := by
          rw [List.getLast?_append]
          show token.messageName?.or _ = _
          cases token.messageName? <;> rfl
        rw [List.map_cons, sourceOfParts, hlast, ih h]
        -- a word that is no severity stops both, before anything behind it is looked at
        by_cases hlevel : ∃ word, token = .severityFixed (.unknown word)
        · obtain ⟨word, rfl⟩ := hlevel
          rfl
        · have hknown : ∀ word, token ≠ .severityFixed (.unknown word) := fun word htoken =>
            hlevel ⟨word, htoken⟩
          have hunknown : unknownLevel? (token :: tokens) = unknownLevel? tokens := by
            rw [unknownLevel?]
            exact hknown
          rw [Part.source_eq hfits hknown, hunknown]
          cases unknownLevel? tokens <;> rfl

/-- **The guards of compilation make no difference.** -/
theorem Format.compileParts_eq (format : Format) :
    format.compileParts (format.tokens.map .token) = format.compile := by
  have hordered : orderProblem? [] format.tokens = none := (valid_of_layout format.valid).ordered
  have hsource : sourceOfParts 0 none (format.tokens.map .token) = _ := sourceOfParts_eq hordered 0
  rw [compileParts, hsource, compile, source]
  cases unknownLevel? format.tokens <;> rfl

/-! ## Guards of matchers -/

/-- Why a matcher has no diagnostic for a line. -/
inductive Dropped where
  | unmatched
  /-- A line or a column has too many digits, or the line is zero. -/
  | position
  /-- The message that a severity refers to has not been captured. -/
  | noSource
  /-- There is no file name, no line or no message. -/
  | incomplete
  /-- The fields make up no diagnostic. -/
  | invalid
  deriving DecidableEq, Repr

def Token.dropped : Token → Dropped
  | .severityFromMessage .. => .noSource
  | _ => .position

/-- Fills the fields of a sequence of tokens, the first of which has the given place, or says why a token
refuses the line. -/
def traceFields (m : Regex.Match) :
    Nat → Option String → Fields → List Token → Except Failure (Except Dropped Fields)
  | _, _, fields, [] => .ok (.ok fields)
  | index, lastMessage, fields, token :: rest => do
      match ← fillField m index lastMessage fields token with
      | none => return .error token.dropped
      | some fields' => traceFields m (index + 1) (token.messageName?.or lastMessage) fields' rest

/-- Whether there is no file name, no line or no message. -/
def Fields.isIncomplete (fields : Fields) : Bool :=
  fields.filename.isNone || fields.line.isNone || fields.messages.isEmpty

def Fields.trace (fields : Fields) (name : String) (fallback : Severity) : Except Dropped Diagnostic :=
  if fields.isIncomplete then .error .incomplete
  else
    match fields.diagnostic? name fallback with
    | some d => .ok d
    | none => .error .invalid

def Matcher.trace (matcher : Matcher) (line : String) : Except Failure (Except Dropped Diagnostic) :=
  match matcher.pattern.fullMatch? (matchedText line.toList) with
  | none => .ok (.error .unmatched)
  | some m => do
      match ← traceFields m 0 none {} matcher.format.tokens with
      | .error dropped => return .error dropped
      | .ok fields =>
          return fields.trace (matcher.format.messageNames.head?.getD "") matcher.format.fallback

theorem fillFields_eq_trace (m : Regex.Match) (index : Nat) (lastMessage : Option String) (fields : Fields)
    (tokens : List Token) :
    fillFields m index lastMessage fields tokens =
      (traceFields m index lastMessage fields tokens).map Except.toOption := by
  induction tokens generalizing index lastMessage fields with
  | nil => rfl
  | cons token tokens ih =>
      rw [fillFields, traceFields]
      cases fillField m index lastMessage fields token with
      | error failure => rfl
      | ok filled =>
          cases filled with
          | none => rfl
          | some fields' => exact ih _ _ _

/-- Incomplete fields make up no diagnostic. -/
theorem Fields.diagnostic?_of_isIncomplete {fields : Fields} (h : fields.isIncomplete = true) (name : String)
    (fallback : Severity) : fields.diagnostic? name fallback = none := by
  rw [isIncomplete, Bool.or_eq_true, Bool.or_eq_true, Option.isNone_iff_eq_none, Option.isNone_iff_eq_none,
    List.isEmpty_iff] at h
  rw [diagnostic?]
  rcases h with (hfilename | hline) | hmessages
  · rw [hfilename]
    rfl
  · rw [hline]
    cases fields.filename <;> rfl
  · rw [hmessages]
    cases fields.filename <;> cases fields.line <;> rfl

theorem Fields.diagnostic?_eq_trace (fields : Fields) (name : String) (fallback : Severity) :
    fields.diagnostic? name fallback = (fields.trace name fallback).toOption := by
  rw [trace]
  split
  · rename_i hincomplete
    exact diagnostic?_of_isIncomplete hincomplete name fallback
  · cases fields.diagnostic? name fallback <;> rfl

/-- **The guards of a matcher make no difference** but to the reason that is given. -/
theorem Matcher.apply_eq_trace (matcher : Matcher) (line : String) :
    matcher.apply line = (matcher.trace line).map Except.toOption := by
  rw [apply, trace]
  cases matcher.pattern.fullMatch? (matchedText line.toList) with
  | none => rfl
  | some m =>
      simp only [fillFields_eq_trace]
      cases traceFields m 0 none {} matcher.format.tokens with
      | error failure => rfl
      | ok traced =>
          cases traced with
          | error dropped => rfl
          | ok fields => exact congrArg Except.ok (fields.diagnostic?_eq_trace _ _)

/-! ## Matchers of formats -/

section

variable {m : Regex.Match} {index : Nat} {earlier segments : List Segment}

/-- Only positions are refused. -/
theorem Segment.dropped_of_isRefused {segment : Segment} (h : segment.isRefused = true) :
    segment.token.dropped = .position := by
  obtain ⟨token, text⟩ := segment
  cases token with
  | severityFromMessage source classifier => cases h
  | _ => rfl

/-- **A severity finds the message that it refers to**, so nothing but a position is refused while the fields
are filled. -/
theorem traceFields_eq (hfits : FitsFrom earlier segments) (hrecords : Records m index segments) :
    traceFields m index (messageNames (earlier.map Segment.token)).getLast? (fieldsOf earlier)
        (segments.map Segment.token)
      = (verdict segments).map fun conforms =>
          if conforms then .ok (fieldsOf (earlier ++ segments)) else .error .position := by
  -- on the segments to come: those before them have given the fields and the last message
  induction segments generalizing earlier index with
  | nil =>
      rw [List.append_nil]
      rfl
  | cons segment segments ih =>
      rw [List.map_cons, traceFields, fillField_eq hfits.1 hrecords.1, verdict]
      cases segment.fault? with
      | some failure => rfl
      | none =>
          cases hrefused : segment.isRefused with
          | true =>
              show Except.ok (Except.error segment.token.dropped) = _
              rw [segment.dropped_of_isRefused hrefused]
              rfl
          | false =>
              show traceFields m (index + 1) _ (fieldsOf (earlier ++ [segment])) _ = _
              rw [getLast?_messageNames, ih hfits.2 hrecords.2, List.append_assoc]
              rfl

/-- The fields of segments none of which is refused make up a diagnostic. -/
theorem trace_fieldsOf {format : Format} (htokens : segments.map Segment.token = format.tokens)
    (hrefused : ∀ segment ∈ segments, segment.isRefused = false) :
    ∃ d, (fieldsOf segments).trace (format.messageNames.head?.getD "") format.fallback = .ok d := by
  obtain ⟨d, hd⟩ := exists_diagnosticOf? format (valid_of_tokens htokens) hrefused
  rw [← diagnostic?_eq htokens hrefused] at hd
  have hcomplete : (fieldsOf segments).isIncomplete = false := by
    refine Bool.eq_false_iff.mpr fun hincomplete => ?_
    rw [Fields.diagnostic?_of_isIncomplete hincomplete] at hd
    cases hd
  exact ⟨d, by rw [Fields.trace, hcomplete, hd]; rfl⟩

/-- A group holds what the segment of its token captures. -/
theorem Records.group?_eq (h : Records m index segments) {i : Nat} {segment : Segment}
    (hsegment : segments[i]? = some segment) (hcaptures : segment.token.captures = true) :
    m.group? (groupName (index + i)) = some (segment.token.captured? segment.text) := by
  induction segments generalizing index i with
  | nil => cases hsegment
  | cons first segments ih =>
      cases i with
      | zero =>
          obtain rfl := Option.some.inj hsegment
          exact h.1 hcaptures
      | succ i =>
          have hlater := ih h.2 hsegment
          rwa [Nat.add_assoc, Nat.add_comm 1] at hlater

end

/-- Whether a token refuses digits as its position: a line or a column has too many, or the line is zero. -/
def Token.Refuses : Token → List Char → Prop
  | .line, digits => maxPositionDigits < digits.length ∨ numeral digits = 0
  | .column, digits => maxPositionDigits < digits.length
  | _, _ => False

/-- The group of a token that gives a position holds digits that the token refuses. -/
def Regex.Match.RefusesPosition (m : Regex.Match) (tokens : List Token) : Prop :=
  ∃ (i : Nat) (token : Token) (digits : List Char), tokens[i]? = some token ∧
    m.group? (groupName i) = some (some digits) ∧ token.Refuses digits

theorem Segment.isRefused_iff {segment : Segment} :
    segment.isRefused = true ↔ segment.token.Refuses segment.text := by
  obtain ⟨token, text⟩ := segment
  cases token <;> simp [Segment.isRefused, Token.Refuses]

/-- A token that refuses digits captures them. -/
theorem Token.Refuses.captures {token : Token} {digits : List Char} (h : token.Refuses digits) :
    token.captures = true ∧ ∀ text, token.captured? text = some text := by
  cases token with
  | line | column => exact ⟨rfl, fun _ => rfl⟩
  | _ => exact h.elim

theorem refusesPosition_iff {m : Regex.Match} {segments : List Segment} (hrecords : Records m 0 segments) :
    m.RefusesPosition (segments.map Segment.token) ↔ ∃ segment ∈ segments, segment.isRefused = true := by
  have hgroup : ∀ {i : Nat} {segment : Segment} {digits : List Char}, segments[i]? = some segment →
      segment.token.Refuses digits → m.group? (groupName i) = some (some segment.text) := by
    intro i segment digits hsegment hrefuses
    have hrecorded := hrecords.group?_eq hsegment hrefuses.captures.1
    rwa [Nat.zero_add, hrefuses.captures.2] at hrecorded
  constructor
  · rintro ⟨i, token, digits, htoken, hdigits, hrefuses⟩
    rw [List.getElem?_map, Option.map_eq_some_iff] at htoken
    obtain ⟨segment, hsegment, rfl⟩ := htoken
    have htext : segment.text = digits :=
      Option.some.inj (Option.some.inj ((hgroup hsegment hrefuses).symm.trans hdigits))
    exact ⟨segment, List.mem_of_getElem? hsegment, Segment.isRefused_iff.mpr (htext ▸ hrefuses)⟩
  · rintro ⟨segment, hmem, hrefused⟩
    have hrefuses := Segment.isRefused_iff.mp hrefused
    obtain ⟨i, hsegment⟩ := List.mem_iff_getElem?.mp hmem
    refine ⟨i, segment.token, segment.text, ?_, hgroup hsegment hrefuses, hrefuses⟩
    rw [List.getElem?_map, hsegment]
    rfl

/-! ## Idle guards -/

/-- What a matcher makes of a line: none of its guards fires, and there is no diagnostic exactly if the line
does not match or a position is refused. -/
structure Matcher.Judges (matcher : Matcher) (line : String) (outcome : Except Dropped Diagnostic) : Prop where
  traced : matcher.trace line = .ok outcome
  applied : matcher.apply line = .ok outcome.toOption
  source : outcome ≠ .error .noSource
  complete : outcome ≠ .error .incomplete
  valid : outcome ≠ .error .invalid
  unmatched : outcome = .error .unmatched ↔
    matcher.pattern.fullMatch? (matchedText line.toList) = none
  position : outcome = .error .position ↔
    ∃ m, matcher.pattern.fullMatch? (matchedText line.toList) = some m ∧
      m.RefusesPosition matcher.format.tokens

/-- A line that matches is judged by its segments. -/
theorem Matcher.judges_of_segments {matcher : Matcher} {line : String} {m : Regex.Match}
    {segments : List Segment} {labels : String → List Char → Prop}
    (hmatch : matcher.pattern.fullMatch? (matchedText line.toList) = some m)
    (hsplits : Splits labels matcher.format.tokens (matchedText line.toList) segments)
    (hrecords : Records m 0 segments) (hfaults : ∀ segment ∈ segments, segment.fault? = none) :
    ∃ outcome, matcher.Judges line outcome := by
  have htokens := hsplits.tokens
  have hvalid := valid_of_tokens htokens
  have hfits : FitsFrom [] segments := fitsFrom_of_valid hvalid hsplits.accepts
  have hfill : traceFields m 0 none {} (segments.map Segment.token) = _ := traceFields_eq hfits hrecords
  have hposition := refusesPosition_iff hrecords
  rw [htokens] at hfill hposition
  -- a line has one match
  have hother : ∀ {m' : Regex.Match}, matcher.pattern.fullMatch? (matchedText line.toList) = some m' →
      m' = m := fun hmatch' => Option.some.inj (hmatch'.symm.trans hmatch)
  obtain ⟨conforms, hverdict⟩ := exists_verdict hfaults
  rw [hverdict] at hfill
  cases conforms with
  | true =>
      have hkept := not_isRefused_of_verdict hverdict
      obtain ⟨d, hd⟩ := trace_fieldsOf htokens hkept
      have htraced : matcher.trace line = .ok (.ok d) := by
        rw [trace, hmatch]
        simp only [hfill]
        exact congrArg Except.ok hd
      refine ⟨.ok d, htraced, by rw [apply_eq_trace, htraced]; rfl, nofun, nofun, nofun,
        ⟨nofun, fun hnone => ?_⟩, ⟨nofun, ?_⟩⟩
      · rw [hmatch] at hnone
        cases hnone
      · rintro ⟨m', hmatch', hrefuses⟩
        rw [hother hmatch', hposition] at hrefuses
        obtain ⟨segment, hsegment, hrefused⟩ := hrefuses
        rw [hkept segment hsegment] at hrefused
        cases hrefused
  | false =>
      have htraced : matcher.trace line = .ok (.error .position) := by
        rw [trace, hmatch]
        simp only [hfill]
        rfl
      refine ⟨.error .position, htraced, by rw [apply_eq_trace, htraced]; rfl, nofun, nofun, nofun,
        ⟨nofun, fun hnone => ?_⟩, ⟨fun _ => ⟨m, hmatch, ?_⟩, fun _ => rfl⟩⟩
      · rw [hmatch] at hnone
        cases hnone
      · exact hposition.mpr (exists_isRefused_of_verdict hverdict)

/-- A matcher whose labels are valid and whose levels are known judges every line. -/
theorem Matcher.exists_judges {format : Format} {matcher : Matcher} (hlabels : format.LabelsValid)
    (hlevels : format.LevelsKnown) (hcompile : format.compile = .ok matcher) (line : String) :
    ∃ outcome, matcher.Judges line outcome := by
  cases hmatch : matcher.pattern.fullMatch? (matchedText line.toList) with
  | none =>
      have htraced : matcher.trace line = .ok (.error .unmatched) := by rw [trace, hmatch]
      refine ⟨.error .unmatched, htraced, by rw [apply_eq_trace, htraced]; rfl, nofun, nofun, nofun,
        ⟨fun _ => hmatch, fun _ => rfl⟩, ⟨nofun, ?_⟩⟩
      rintro ⟨m, hmatch', -⟩
      rw [hmatch] at hmatch'
      cases hmatch'
  | some m =>
      obtain ⟨segments, hsplits, hrecords⟩ := format.exists_segments hlabels hcompile hmatch
      have hformat := (Format.compile_eq_ok hcompile).1
      refine judges_of_segments hmatch hsplits hrecords fun segment hsegment =>
        fault?_eq_none hlevels ?_
      rw [← hformat]
      exact hsplits.mem_tokens hsegment

/-- A line that is judged has no diagnostic exactly if it does not match or a position is refused. -/
theorem Matcher.Judges.apply_eq_none {matcher : Matcher} {line : String}
    {outcome : Except Dropped Diagnostic} (h : matcher.Judges line outcome) :
    matcher.apply line = .ok none ↔ matcher.pattern.fullMatch? (matchedText line.toList) = none ∨
      ∃ m, matcher.pattern.fullMatch? (matchedText line.toList) = some m ∧
        m.RefusesPosition matcher.format.tokens := by
  rw [← h.unmatched, ← h.position, h.applied]
  cases outcome with
  | ok d => exact ⟨nofun, fun hdropped => by rcases hdropped with hdropped | hdropped <;> cases hdropped⟩
  | error dropped =>
      cases dropped with
      | unmatched => exact ⟨fun _ => Or.inl rfl, fun _ => rfl⟩
      | position => exact ⟨fun _ => Or.inr rfl, fun _ => rfl⟩
      | noSource => exact absurd rfl h.source
      | incomplete => exact absurd rfl h.complete
      | invalid => exact absurd rfl h.valid

/-- **The guards of an accepted format are idle.** Compiling the parts that a format was made of meets
neither a part that is no token nor a severity without a message before it. If its labels are patterns on
their own and its levels are severities, its matcher finds for every line that matches the message that a
severity refers to, all the fields that a diagnostic needs, and a diagnostic that passes its check. So
there is no diagnostic exactly if the line does not match, or the line is zero, or the line or the column
has more than eighteen digits. -/
theorem Format.guards_idle {parts : List Part} {fallback : Level} {format : Format}
    (hmake : Format.make parts fallback = .ok format) (hlabels : format.LabelsValid)
    (hlevels : format.LevelsKnown) :
    format.compileParts parts = format.compile ∧
    (∀ shown, format.compileParts parts ≠ .error (.format (.unsupportedToken shown))) ∧
    format.compileParts parts ≠ .error (.format .noEarlierMessage) ∧
    ∀ matcher, format.compile = .ok matcher → ∀ line,
      (∃ outcome, matcher.Judges line outcome) ∧
      (matcher.apply line = .ok none ↔ matcher.pattern.fullMatch? (matchedText line.toList) = none ∨
        ∃ m, matcher.pattern.fullMatch? (matchedText line.toList) = some m ∧
          m.RefusesPosition format.tokens) := by
  have hparts : parts = format.tokens.map .token := by
    cases fallback with
    | unknown word => cases hmake
    | known severity => exact tokensOfParts_eq_ok_iff.mp (Format.make_eq_ok hmake).1
  have hcompiled : format.compileParts parts = format.compile := by rw [hparts, format.compileParts_eq]
  -- of the problems of a format, compilation itself knows one only
  have hother : ∀ problem, format.compile = .error (.format problem) →
      problem = .invalidPattern (String.ofList format.source) := by
    intro problem herror
    obtain ⟨word, -, h⟩ | h | ⟨-, h⟩ | ⟨digits, -, h⟩ := Format.compile_eq_error herror <;> cases h
    rfl
  refine ⟨hcompiled, fun shown herror => ?_, fun herror => ?_, fun matcher hcompile line => ?_⟩
  · cases hother _ (hcompiled.symm.trans herror)
  · cases hother _ (hcompiled.symm.trans herror)
  · obtain ⟨outcome, hjudges⟩ := Matcher.exists_judges hlabels hlevels hcompile line
    refine ⟨⟨outcome, hjudges⟩, ?_⟩
    rw [← (Format.compile_eq_ok hcompile).1]
    exact hjudges.apply_eq_none

def judgedFormat : Format where
  tokens := [.filename, .literal ":", .line, .literal ":", .column, .literal ": ", .message "kind",
    .literal " | ", .message "text", .severityFromMessage (some "kind") .blanks]
  fallback := .info
  valid := by decide

theorem judgedFormat_idle :
    Format.make (judgedFormat.tokens.map .token) (.known .info) = .ok judgedFormat ∧
      judgedFormat.LabelsValid ∧ judgedFormat.LevelsKnown ∧
      ∃ matcher, judgedFormat.compile = .ok matcher ∧
        (∀ line, ∃ outcome, matcher.Judges line outcome) ∧
        matcher.apply "a.c:0:1: error | x" = .ok none ∧
        ∃ m, matcher.pattern.fullMatch? "a.c:0:1: error | x".toList = some m ∧
          m.RefusesPosition judgedFormat.tokens := by
  have hmake : Format.make (judgedFormat.tokens.map .token) (.known .info) = .ok judgedFormat := by
    decide +kernel
  have hlabels : judgedFormat.LabelsValid := by
    intro label table classifier hlabel
    simp [judgedFormat] at hlabel
  have hlevels : judgedFormat.LevelsKnown := by
    refine ⟨by simp [judgedFormat], fun label table classifier hlabel => ?_⟩
    simp [judgedFormat] at hlabel
  obtain ⟨-, -, -, hidle⟩ := Format.guards_idle hmake hlabels hlevels
  obtain ⟨matcher, hcompile⟩ : ∃ matcher, judgedFormat.compile = .ok matcher :=
    exists_of_isSome_toOption (by decide +kernel)
  have hdropped : (judgedFormat.compile.bind fun matcher => matcher.apply "a.c:0:1: error | x") =
      .ok none := by decide +kernel
  have hmatches : (judgedFormat.compile.map fun matcher =>
      (matcher.pattern.fullMatch? (matchedText "a.c:0:1: error | x".toList)).isSome) = .ok true := by
    decide +kernel
  rw [hcompile] at hdropped hmatches
  have hline : matchedText "a.c:0:1: error | x".toList = "a.c:0:1: error | x".toList := by decide +kernel
  refine ⟨hmake, hlabels, hlevels, matcher, hcompile, fun line => (hidle matcher hcompile line).1, hdropped, ?_⟩
  rcases (hidle matcher hcompile _).2.mp hdropped with hnone | hrefuses
  · rw [Except.map, hnone] at hmatches
    cases hmatches
  · rwa [hline] at hrefuses

end LintRunner
