import LintRunner.Proofs.Format.Route
import LintRunner.Proofs.Ordered

/-!
# What segments say

`Format.diagnosticOf?` reads the diagnostic off the segments of a line, without a match and without
an order of steps: the text of a field is what the segment of its token captures, and a severity is
judged by the segments before it. Filling fields token by token comes to the same
(`fillFields_eq`, `diagnostic?_eq`), since a format has no two tokens for one field, no two messages of
one name, and no severity that refers to a message that does not come before it.
-/

set_option autoImplicit false

namespace LintRunner

open Regex Text

/-! ## Reading segments -/

/-- What the segment of a field captures. -/
def fieldText? (field : Field) (segments : List Segment) : Option (List Char) :=
  (segments.find? fun segment => segment.token.field? == some field).bind fun segment =>
    segment.token.captured? segment.text

/-- The position that digits write, unless there are too many of them. -/
def position? (text : List Char) : Option Nat :=
  if maxPositionDigits < text.length then none else some (numeral text)

/-- Whether a token is a message, of the given name if one is given. -/
def Token.isMessage (source : Option String) : Token → Bool
  | .message name => source.all (· == name)
  | _ => false

/-- The text of the message of the given name, or else of the last message. -/
def messageText? (source : Option String) (segments : List Segment) : Option (List Char) :=
  (segments.reverse.find? fun segment => segment.token.isMessage source).map Segment.text

def Segment.severity? (earlier : List Segment) : Segment → Option Severity
  | ⟨.severityFromMessage source classifier, _⟩ =>
      (messageText? source earlier).map fun text => classifier.classify (String.ofList text)
  | ⟨.severityFixed (.known severity), _⟩ => some severity
  | ⟨.severityPattern _ labels classifier, text⟩ =>
      (severityOfLabel labels classifier (String.ofList text)).toOption
  | _ => none

def severityFrom (earlier : List Segment) : List Segment → Option Severity
  | [] => none
  | segment :: segments =>
      (segment.severity? earlier).or (severityFrom (earlier ++ [segment]) segments)

/-- The diagnostic that segments make up. There is none if a position is too long or the line is
zero. -/
def Format.diagnosticOf? (format : Format) (segments : List Segment) : Option Diagnostic := do
  let filename ← fieldText? .filename segments
  let line ← position? (← fieldText? .line segments)
  let message ← fieldText? .message segments
  let column ←
    match fieldText? .column segments with
    | none => some none
    | some text => (position? text).map some
  if h : 0 < line then
    some
      { filename := String.ofList filename, line, column, message := String.ofList message,
        severity := (severityFrom [] segments).getD format.fallback,
        code := (fieldText? .code segments).map String.ofList, line_pos := h }
  else none

/-! ## Valid layouts -/

section

variable {tokens : List Token}

structure Valid (tokens : List Token) : Prop where
  present : ∀ field ∈ [Field.filename, .line, .message], fieldCount field tokens ≠ 0
  single : ∀ field ∈ [Field.filename, .line, .column, .code], fieldCount field tokens ≤ 1
  severity : tokens.countP Token.isSeverity ≤ 1
  ordered : orderProblem? [] tokens = none

theorem valid_of_layout (h : layoutProblem? tokens = none) : Valid tokens := by
  rw [layoutProblem?] at h
  split at h
  · cases h
  · rename_i hpresent
    split at h
    · cases h
    · rename_i hsingle
      split at h
      · cases h
      · rename_i hseverity
        rw [List.find?_eq_none] at hpresent hsingle
        refine ⟨fun field hfield => ?_, fun field hfield => ?_, Nat.not_lt.mp hseverity, h⟩
        · simpa using hpresent field hfield
        · simpa using hsingle field hfield

/-- The segments of a format have a valid layout. -/
theorem valid_of_tokens {format : Format} {segments : List Segment}
    (h : segments.map Segment.token = format.tokens) : Valid (segments.map Segment.token) := by
  rw [h]
  exact valid_of_layout format.valid

/-- If at most one element of a list has a property, those before and behind it do not have it. -/
theorem eq_false_of_countP_le_one {α : Type} {p : α → Bool} {before after : List α} {a : α}
    (h : (before ++ a :: after).countP p ≤ 1) (ha : p a = true) :
    (∀ b ∈ before, p b = false) ∧ ∀ b ∈ after, p b = false := by
  rw [List.countP_append, List.countP_cons_of_pos ha] at h
  have hbefore : before.countP p = 0 := by omega
  have hafter : after.countP p = 0 := by omega
  rw [List.countP_eq_zero] at hbefore hafter
  exact ⟨fun b hb => Bool.eq_false_iff.mpr (hbefore b hb),
    fun b hb => Bool.eq_false_iff.mpr (hafter b hb)⟩

theorem messageNames_cons (token : Token) :
    messageNames (token :: tokens) = token.messageName?.toList ++ messageNames tokens := by
  rw [messageNames, List.filterMap_cons, messageNames]
  cases token.messageName? <;> rfl

/-- Each token of an ordered layout fits behind those before it. -/
theorem tokenProblem?_eq_none {token : Token} {a b : List Token} {seen : List String}
    (h : orderProblem? seen (a ++ token :: b) = none) :
    tokenProblem? (seen ++ messageNames a) token = none := by
  induction a generalizing seen with
  | nil =>
      rw [List.nil_append, orderProblem?] at h
      split at h
      · cases h
      · rename_i hnone
        show tokenProblem? (seen ++ []) token = none
        rwa [List.append_nil]
  | cons first a ih =>
      rw [List.cons_append, orderProblem?] at h
      split at h
      · cases h
      · have hlater := ih h
        rw [List.append_assoc] at hlater
        rwa [messageNames_cons]

/-- The messages of an ordered layout have different names. -/
theorem nodup_messageNames {seen : List String} (h : orderProblem? seen tokens = none)
    (hseen : seen.Nodup) : (seen ++ messageNames tokens).Nodup := by
  induction tokens generalizing seen with
  | nil =>
      show (seen ++ []).Nodup
      rwa [List.append_nil]
  | cons token tokens ih =>
      have hfirst := tokenProblem?_eq_none (a := []) h
      have hfirst : tokenProblem? seen token = none := by rwa [messageNames, List.filterMap_nil,
        List.append_nil] at hfirst
      rw [orderProblem?, hfirst] at h
      -- only a message adds a name, and one that has been seen is refused
      have hstep : (seen ++ token.messageName?.toList).Nodup := by
        cases token with
        | message name =>
            simp only [tokenProblem?] at hfirst
            split at hfirst
            · cases hfirst
            · split at hfirst
              · cases hfirst
              · rename_i hname
                refine List.nodup_append.mpr ⟨hseen, List.pairwise_singleton _ name, ?_⟩
                rintro a ha b hb rfl
                obtain rfl := List.mem_singleton.mp hb
                exact hname (List.contains_iff_mem.mpr ha)
        | _ =>
            rw [Token.messageName?.eq_2, Option.toList_none, List.append_nil]
            · exact hseen
            · nofun
      have hlater := ih h hstep
      rw [List.append_assoc] at hlater
      rwa [messageNames_cons]

end

structure Fits (earlier : List Segment) (segment : Segment) : Prop where
  accepts : ∃ labels, segment.token.Accepts labels segment.text
  single : ∀ field ∈ [Field.filename, .line, .column, .code], segment.token.field? = some field →
    ∀ other ∈ earlier, other.token.field? ≠ some field
  severity : segment.token.isSeverity = true → ∀ other ∈ earlier, other.token.isSeverity = false
  ordered : tokenProblem? (messageNames (earlier.map Segment.token)) segment.token = none
  distinct : (messageNames (earlier.map Segment.token)).Nodup

def FitsFrom : List Segment → List Segment → Prop
  | _, [] => True
  | earlier, segment :: segments => Fits earlier segment ∧ FitsFrom (earlier ++ [segment]) segments

theorem fitsFrom_of_valid {labels : String → List Char → Prop} {earlier segments : List Segment}
    (h : Valid ((earlier ++ segments).map Segment.token))
    (haccepts : ∀ segment ∈ segments, segment.token.Accepts labels segment.text) :
    FitsFrom earlier segments := by
  induction segments generalizing earlier with
  | nil => trivial
  | cons segment segments ih =>
      rw [List.forall_mem_cons] at haccepts
      have happend : earlier ++ segment :: segments = (earlier ++ [segment]) ++ segments := by simp
      refine ⟨⟨⟨labels, haccepts.1⟩, ?_, ?_, ?_, ?_⟩, ih (happend ▸ h) haccepts.2⟩
      · intro field hfield hsegment other hother
        have hcount := h.single field hfield
        rw [fieldCount, List.countP_map] at hcount
        simpa using (eq_false_of_countP_le_one hcount (by simpa using hsegment)).1 other hother
      · intro hsegment
        have hcount := h.severity
        rw [List.countP_map] at hcount
        exact (eq_false_of_countP_le_one hcount hsegment).1
      · have hordered := h.ordered
        rw [List.map_append, List.map_cons] at hordered
        exact tokenProblem?_eq_none hordered
      · have hnodup := nodup_messageNames h.ordered List.nodup_nil
        rw [List.nil_append, List.map_append, messageNames, List.filterMap_append] at hnodup
        exact (List.nodup_append.mp hnodup).1

/-! ## Fields of segments -/

def messagesOf (segments : List Segment) : List (String × Option String) :=
  segments.filterMap fun segment =>
    segment.token.messageName?.map fun name => (name, some (String.ofList segment.text))

def fieldsOf (segments : List Segment) : Fields :=
  { filename := (fieldText? .filename segments).map String.ofList
    line := (fieldText? .line segments).map numeral
    column := (fieldText? .column segments).map fun text => Int.ofNat (numeral text)
    code := (fieldText? .code segments).map String.ofList
    severity := severityFrom [] segments
    messages := messagesOf segments }

section

variable {earlier segments : List Segment} {segment : Segment} {field : Field}

theorem fieldText?_append_of_ne (h : segment.token.field? ≠ some field) :
    fieldText? field (earlier ++ [segment]) = fieldText? field earlier := by
  rw [fieldText?, List.find?_append, List.find?_singleton, if_neg (by simpa using h), Option.or_none,
    fieldText?]

theorem fieldText?_append_of_eq (h : segment.token.field? = some field)
    (hsingle : ∀ other ∈ earlier, other.token.field? ≠ some field) :
    fieldText? field (earlier ++ [segment]) = segment.token.captured? segment.text := by
  have hnone : earlier.find? (fun other => other.token.field? == some field) = none :=
    List.find?_eq_none.mpr fun other hother => by simpa using hsingle other hother
  rw [fieldText?, List.find?_append, hnone, Option.none_or, List.find?_singleton,
    if_pos (by simpa using h)]
  rfl

theorem Segment.severity?_eq_none (h : segment.token.isSeverity = false) :
    segment.severity? earlier = none := by
  obtain ⟨token, text⟩ := segment
  cases token <;> first | rfl | cases h

theorem severityFrom_append (later : List Segment) :
    severityFrom earlier (segments ++ later)
      = (severityFrom earlier segments).or (severityFrom (earlier ++ segments) later) := by
  induction segments generalizing earlier with
  | nil => rw [List.append_nil]; rfl
  | cons first segments ih =>
      rw [List.cons_append, severityFrom, severityFrom, ih, Option.or_assoc, List.append_assoc]
      rfl

theorem severityFrom_singleton : severityFrom earlier [segment] = segment.severity? earlier :=
  Option.or_none

theorem severityFrom_eq_none (h : ∀ other ∈ segments, other.token.isSeverity = false) :
    severityFrom earlier segments = none := by
  induction segments generalizing earlier with
  | nil => rfl
  | cons first segments ih =>
      rw [List.forall_mem_cons] at h
      rw [severityFrom, Segment.severity?_eq_none h.1, ih h.2]
      rfl

theorem messagesOf_append :
    messagesOf (earlier ++ [segment]) = messagesOf earlier ++ messagesOf [segment] :=
  List.filterMap_append

theorem keys_messagesOf :
    Ordered.keys (messagesOf segments) = messageNames (segments.map Segment.token) := by
  rw [Ordered.keys, messagesOf, messageNames, List.map_filterMap, List.filterMap_map]
  congr 1
  funext segment
  show Option.map _ (Option.map _ _) = segment.token.messageName?
  rw [Option.map_map]
  exact Option.map_id'

end

/-! ## Filling fields -/

def Segment.isRefused (segment : Segment) : Bool :=
  match segment.token with
  | .line => maxPositionDigits < segment.text.length || numeral segment.text == 0
  | .column => maxPositionDigits < segment.text.length
  | _ => false

/-- The failure that a segment causes if the word for its severity is none. -/
def Segment.fault? (segment : Segment) : Option Failure :=
  match segment.token with
  | .severityFixed (.unknown word) => some (.unknownSeverity (quoted word))
  | .severityPattern _ labels classifier =>
      match severityOfLabel labels classifier (String.ofList segment.text) with
      | .ok _ => none
      | .error word => some (.unknownSeverity (quoted word))
  | _ => none

section

variable {m : Regex.Match} {index : Nat} {earlier : List Segment}

theorem capturedAt_eq {captured : Option (List Char)}
    (h : m.group? (groupName index) = some captured) :
    capturedAt m index = .ok (captured.map String.ofList) := by
  rw [capturedAt, h]

theorem positionAt_eq {text : List Char} (h : m.group? (groupName index) = some (some text))
    (hdigits : IsRun isAsciiDigit text) :
    positionAt m index = .ok (if maxPositionDigits < text.length then none
      else some (Int.ofNat (numeral text))) := by
  rw [positionAt, capturedAt_eq h]
  show (if maxPositionDigits < (String.ofList text).length then _ else _) = _
  rw [String.length_ofList, String.toList_ofList]
  split
  · rfl
  · rename_i hlen
    rw [integer?_numeral hdigits.1 hdigits.2 (by
      have h18 : maxPositionDigits ≤ maxDigits := by decide
      omega)]
    rfl

theorem isMessage_iff {source : Option String} {token : Token} :
    token.isMessage source = true ↔
      ∃ name, token = .message name ∧ source.all (· == name) = true := by
  cases token with
  | message name => simp [Token.isMessage]
  | _ => simp [Token.isMessage]

/-- What a severity refers to is the name of an earlier message. -/
theorem exists_name_of_tokenProblem? {names : List String} {source : Option String}
    {classifier : Classifier}
    (h : tokenProblem? names (.severityFromMessage source classifier) = none) :
    ∃ name ∈ names, source.all (· == name) = true := by
  simp only [tokenProblem?] at h
  split at h
  · cases h
  · rename_i hnonempty
    cases source with
    | none =>
        obtain ⟨name, later, rfl⟩ := List.exists_cons_of_ne_nil
          (show names ≠ [] by simpa using hnonempty)
        exact ⟨name, List.mem_cons_self, rfl⟩
    | some name =>
        simp only at h
        split at h
        · rename_i hname
          exact ⟨name, List.contains_iff_mem.mp hname, by simp⟩
        · cases h

/-- The nearest message that a severity may refer to bears the name that it refers to, its own or else the
last one. -/
theorem getD_last_of_split {source : Option String} {before after : List Segment} {segment : Segment}
    {name : String} (hsplit : earlier.reverse = before ++ segment :: after)
    (htoken : segment.token = .message name) (hsource : source.all (· == name) = true)
    (hbefore : ∀ other ∈ before, other.token.isMessage source = false) :
    source.getD ((messageNames (earlier.map Segment.token)).getLast?.getD "") = name := by
  cases source with
  | some name' => exact beq_iff_eq.mp hsource
  | none =>
      have hlast : (messageNames (earlier.map Segment.token)).getLast? = some name := by
        rw [messageNames, List.getLast?_filterMap, ← List.map_reverse, hsplit,
          List.findSome?_map, List.findSome?_eq_some_iff]
        refine ⟨before, segment, after, rfl, congrArg Token.messageName? htoken, fun other hother => ?_⟩
        have hnone := hbefore other hother
        show other.token.messageName? = none
        cases htoken : other.token with
        | message name' => rw [htoken] at hnone; cases hnone
        | _ => rfl
      rw [hlast]
      rfl

/-- A severity that refers to a message finds its text. -/
theorem lookup_messagesOf {source : Option String} {classifier : Classifier} {text : List Char}
    (hfits : Fits earlier ⟨.severityFromMessage source classifier, text⟩) :
    ∃ message, messageText? source earlier = some message ∧
      (messagesOf earlier).lookup
          (source.getD ((messageNames (earlier.map Segment.token)).getLast?.getD ""))
        = some (some (String.ofList message)) := by
  have hexists : ∃ other ∈ earlier.reverse, other.token.isMessage source = true := by
    obtain ⟨name, hname, hsource⟩ := exists_name_of_tokenProblem? hfits.ordered
    obtain ⟨token, htoken, hmessage⟩ := List.mem_filterMap.mp hname
    obtain ⟨other, hother, rfl⟩ := List.mem_map.mp htoken
    refine ⟨other, List.mem_reverse.mpr hother, isMessage_iff.mpr ⟨name, ?_, hsource⟩⟩
    cases htoken : other.token with
    | message name' =>
        rw [htoken] at hmessage
        exact congrArg Token.message (Option.some.inj hmessage)
    | _ => rw [htoken] at hmessage; cases hmessage
  obtain ⟨other, hfind⟩ := Option.isSome_iff_exists.mp (List.find?_isSome.mpr hexists)
  obtain ⟨hother, before, after, hsplit, hbefore⟩ := List.find?_eq_some_iff_append.mp hfind
  obtain ⟨name, htoken, hsource⟩ := isMessage_iff.mp hother
  refine ⟨other.text, by rw [messageText?, hfind]; rfl, ?_⟩
  -- the name under which the fields are asked is that of the message which the text is taken from
  rw [getD_last_of_split hsplit htoken hsource (by simpa using hbefore)]
  refine Ordered.lookup_of_mem (by rw [keys_messagesOf]; exact hfits.distinct) ?_
  have hmem : other ∈ earlier := List.mem_reverse.mp (hsplit ▸ by simp)
  exact List.mem_filterMap.mpr ⟨other, hmem, by rw [htoken]; rfl⟩

/-- The fields behind a segment that fits. -/
theorem fieldsOf_append {segment : Segment} (hfits : Fits earlier segment) :
    fieldsOf (earlier ++ [segment]) =
      let fills := fun field => segment.token.field? == some field
      let captured := segment.token.captured? segment.text
      let fields := fieldsOf earlier
      { filename := if fills .filename then captured.map String.ofList else fields.filename
        line := if fills .line then captured.map numeral else fields.line
        column :=
          if fills .column then captured.map fun text => Int.ofNat (numeral text) else fields.column
        code := if fills .code then captured.map String.ofList else fields.code
        severity := if segment.token.isSeverity then segment.severity? earlier else fields.severity
        messages :=
          match segment.token.messageName? with
          | some name => Ordered.put name (some (String.ofList segment.text)) fields.messages
          | none => fields.messages } := by
  -- one argument for the four fields that a single token fills
  have hfield : ∀ (α : Type) (field : Field) (f : List Char → α),
      field ∈ [Field.filename, .line, .column, .code] →
      (fieldText? field (earlier ++ [segment])).map f
        = if segment.token.field? == some field then (segment.token.captured? segment.text).map f
          else (fieldText? field earlier).map f := by
    intro α field f hsingle
    split
    · rename_i h
      rw [beq_iff_eq] at h
      rw [fieldText?_append_of_eq h (hfits.single field hsingle h)]
    · rename_i h
      rw [fieldText?_append_of_ne (by simpa using h)]
  have hseverity : severityFrom [] (earlier ++ [segment])
      = if segment.token.isSeverity then segment.severity? earlier else severityFrom [] earlier := by
    rw [severityFrom_append, List.nil_append, severityFrom_singleton]
    split
    · rename_i h
      rw [severityFrom_eq_none (hfits.severity h), Option.none_or]
    · rename_i h
      rw [Segment.severity?_eq_none (Bool.eq_false_iff.mpr h), Option.or_none]
  have hmessages : messagesOf (earlier ++ [segment]) = match segment.token.messageName? with
      | some name => Ordered.put name (some (String.ofList segment.text)) (messagesOf earlier)
      | none => messagesOf earlier := by
    rw [messagesOf_append]
    obtain ⟨token, text⟩ := segment
    have hordered := hfits.ordered
    cases token with
    | message name =>
        refine (Ordered.put_of_not_mem (fun hname => ?_) _).symm
        rw [keys_messagesOf] at hname
        simp only [tokenProblem?] at hordered
        split at hordered
        · cases hordered
        · rw [if_pos (List.contains_iff_mem.mpr hname)] at hordered
          cases hordered
    | _ => exact List.append_nil _
  rw [fieldsOf, hfield _ .filename _ (by decide), hfield _ .line _ (by decide),
    hfield _ .column _ (by decide), hfield _ .code _ (by decide), hseverity, hmessages]
  rfl

/-- **What the token at a place does to the fields**, given what its group holds. -/
theorem fillField_eq {segment : Segment} (hfits : Fits earlier segment)
    (hrecord : segment.token.captures = true →
      m.group? (groupName index) = some (segment.token.captured? segment.text)) :
    fillField m index (messageNames (earlier.map Segment.token)).getLast? (fieldsOf earlier)
        segment.token
      = match segment.fault? with
        | some failure => .error failure
        | none => .ok (if segment.isRefused then none else some (fieldsOf (earlier ++ [segment]))) := by
  rw [fieldsOf_append hfits]
  obtain ⟨token, text⟩ := segment
  obtain ⟨labels, haccepts⟩ := hfits.accepts
  cases token with
  | filename | code | message =>
      rw [fillField, capturedAt_eq (hrecord rfl)]
      rfl
  | line =>
      rw [fillField, positionAt_eq (hrecord rfl) haccepts]
      show _ = Except.ok (if (decide (maxPositionDigits < text.length) || numeral text == 0) then _ else _)
      by_cases hlen : maxPositionDigits < text.length
      · rw [if_pos hlen, decide_eq_true hlen]
        rfl
      · rw [if_neg hlen, decide_eq_false hlen, Bool.false_or]
        -- there is no line zero
        cases hnumeral : numeral text with
        | zero => rfl
        | succ n =>
            rw [if_neg (by simp)]
            show _ = Except.ok (some { fieldsOf earlier with line := some (numeral text) })
            rw [hnumeral]
            rfl
  | column =>
      rw [fillField, positionAt_eq (hrecord rfl) haccepts]
      show _ = Except.ok (if decide (maxPositionDigits < text.length) then _ else _)
      by_cases hlen : maxPositionDigits < text.length
      · rw [if_pos hlen, decide_eq_true hlen]
        rfl
      · rw [if_neg hlen, decide_eq_false hlen]
        rfl
  | severityFromMessage source classifier =>
      -- the message is found among the fields as it is among the segments
      obtain ⟨message, htext, hlookup⟩ := lookup_messagesOf hfits
      have hseverity : Segment.severity? earlier ⟨.severityFromMessage source classifier, text⟩
          = some (classifier.classify (String.ofList message)) := by
        rw [Segment.severity?, htext]
        rfl
      rw [fillField, hseverity]
      rw [show (fieldsOf earlier).messages.lookup _ = _ from hlookup]
      rfl
  | severityFixed level => cases level <;> rfl
  | severityPattern pattern table classifier =>
      rw [fillField, capturedAt_eq (hrecord rfl), Segment.severity?]
      cases hlabel : severityOfLabel table classifier (String.ofList text) with
      | ok severity =>
          rw [show Segment.fault? ⟨.severityPattern pattern table classifier, text⟩ = none by
            simp only [Segment.fault?, hlabel]]
          simp only [Token.captured?, Option.map_some, bind, Except.bind, hlabel]
          rfl
      | error word =>
          rw [show Segment.fault? ⟨.severityPattern pattern table classifier, text⟩
            = some (.unknownSeverity (quoted word)) by simp only [Segment.fault?, hlabel]]
          simp only [Token.captured?, Option.map_some, bind, Except.bind, hlabel]
          rfl
  | literal | whitespace => rfl

/-- Whether segments are not refused; the result is an error if one of them causes a failure before
another one is refused. -/
def verdict : List Segment → Except Failure Bool
  | [] => .ok true
  | segment :: segments =>
      match segment.fault? with
      | some failure => .error failure
      | none => if segment.isRefused then .ok false else verdict segments

/-- The nearest message behind a segment is that of the segment, or else the nearest before it. -/
theorem getLast?_messageNames (earlier : List Segment) (segment : Segment) :
    segment.token.messageName?.or (messageNames (earlier.map Segment.token)).getLast?
      = (messageNames ((earlier ++ [segment]).map Segment.token)).getLast? := by
  rw [List.map_append, messageNames, messageNames, List.filterMap_append, List.getLast?_append]
  congr 1
  show _ = (messageNames [segment.token]).getLast?
  rw [messageNames_cons]
  cases segment.token.messageName? <;> rfl

/-- **What the tokens of a format do to the fields**, given what their groups hold. -/
theorem fillFields_eq {segments : List Segment} (hfits : FitsFrom earlier segments)
    (hrecords : Records m index segments) :
    fillFields m index (messageNames (earlier.map Segment.token)).getLast? (fieldsOf earlier)
        (segments.map Segment.token)
      = (verdict segments).map fun conforms =>
          if conforms then some (fieldsOf (earlier ++ segments)) else none := by
  induction segments generalizing earlier index with
  | nil =>
      rw [List.append_nil]
      rfl
  | cons segment segments ih =>
      rw [List.map_cons, fillFields, fillField_eq hfits.1 hrecords.1, verdict]
      cases segment.fault? with
      | some failure => rfl
      | none =>
          cases segment.isRefused with
          | true => rfl
          | false =>
              show fillFields m (index + 1) _ (fieldsOf (earlier ++ [segment])) _ = _
              rw [getLast?_messageNames, ih hfits.2 hrecords.2, List.append_assoc]
              rfl

theorem not_isRefused_of_verdict {segments : List Segment} (h : verdict segments = .ok true) :
    ∀ segment ∈ segments, segment.isRefused = false := by
  induction segments with
  | nil => exact fun segment hsegment => (by cases hsegment)
  | cons segment segments ih =>
      rw [verdict] at h
      split at h
      · cases h
      · split at h
        · cases h
        · rename_i hrefused
          exact List.forall_mem_cons.mpr ⟨Bool.eq_false_iff.mpr hrefused, ih h⟩

theorem exists_isRefused_of_verdict {segments : List Segment} (h : verdict segments = .ok false) :
    ∃ segment ∈ segments, segment.isRefused = true := by
  induction segments with
  | nil => cases h
  | cons segment segments ih =>
      rw [verdict] at h
      split at h
      · cases h
      · split at h
        · rename_i hrefused
          exact ⟨segment, List.mem_cons_self, hrefused⟩
        · obtain ⟨other, hother, hrefused⟩ := ih h
          exact ⟨other, List.mem_cons_of_mem _ hother, hrefused⟩

/-- Segments that cause no failures have a verdict. -/
theorem exists_verdict {segments : List Segment} (h : ∀ segment ∈ segments, segment.fault? = none) :
    ∃ conforms, verdict segments = .ok conforms := by
  induction segments with
  | nil => exact ⟨true, rfl⟩
  | cons segment segments ih =>
      rw [List.forall_mem_cons] at h
      rw [verdict, h.1]
      cases segment.isRefused with
      | true => exact ⟨false, rfl⟩
      | false => exact ih h.2

end

/-! ## Diagnostics -/

section

variable {segments : List Segment} {field : Field} {text : List Char}

/-- The text of a field comes from a segment of the field. -/
theorem exists_of_fieldText? (h : fieldText? field segments = some text) :
    ∃ segment ∈ segments, segment.token.field? = some field ∧
      segment.token.captured? segment.text = some text := by
  rw [fieldText?, Option.bind_eq_some_iff] at h
  obtain ⟨segment, hfind, hcaptured⟩ := h
  exact ⟨segment, List.mem_of_find?_eq_some hfind, by simpa using List.find?_some hfind, hcaptured⟩

/-- A field has the text of any segment of the field if there is but one. -/
theorem fieldText?_of_mem {segment : Segment}
    (hsingle : fieldCount field (segments.map Segment.token) ≤ 1) (hmem : segment ∈ segments)
    (hfield : segment.token.field? = some field) :
    fieldText? field segments = segment.token.captured? segment.text := by
  obtain ⟨before, after, rfl⟩ := List.append_of_mem hmem
  rw [fieldCount, List.countP_map] at hsingle
  have hbefore := (eq_false_of_countP_le_one hsingle (by simpa using hfield)).1
  have hnone : before.find? (fun other => other.token.field? == some field) = none :=
    List.find?_eq_none.mpr fun other hother => Bool.eq_false_iff.mp (hbefore other hother)
  rw [fieldText?, List.find?_append, hnone, Option.none_or, List.find?_cons_of_pos (by simpa using hfield)]
  rfl

/-- The message of a diagnostic is the first one. -/
theorem lookup_firstMessage :
    (messagesOf segments).lookup ((messageNames (segments.map Segment.token)).head?.getD "")
      = (fieldText? .message segments).map fun text => some (String.ofList text) := by
  induction segments with
  | nil => rfl
  | cons segment segments ih =>
      obtain ⟨token, text⟩ := segment
      cases token with
      | message name => exact List.lookup_cons_self
      | _ => exact ih

/-- A line that is not refused is a position, and not zero. -/
theorem line_of_not_refused (hrefused : ∀ segment ∈ segments, segment.isRefused = false)
    (h : fieldText? .line segments = some text) :
    position? text = some (numeral text) ∧ 0 < numeral text := by
  obtain ⟨⟨token, text'⟩, hsegment, hfield, hcaptured⟩ := exists_of_fieldText? h
  have hkept := hrefused _ hsegment
  cases token with
  | line =>
      obtain rfl := Option.some.inj hcaptured
      simp only [Segment.isRefused, Bool.or_eq_false_iff, decide_eq_false_iff_not,
        beq_eq_false_iff_ne] at hkept
      exact ⟨by rw [position?, if_neg hkept.1], Nat.pos_of_ne_zero hkept.2⟩
  | _ => cases hfield

/-- A column that is not refused is a position. -/
theorem column_of_not_refused (hrefused : ∀ segment ∈ segments, segment.isRefused = false)
    (h : fieldText? .column segments = some text) : position? text = some (numeral text) := by
  obtain ⟨⟨token, text'⟩, hsegment, hfield, hcaptured⟩ := exists_of_fieldText? h
  have hkept := hrefused _ hsegment
  cases token with
  | column =>
      obtain rfl := Option.some.inj hcaptured
      simp only [Segment.isRefused, decide_eq_false_iff_not] at hkept
      rw [position?, if_neg hkept]
  | _ => cases hfield

/-- **Filled fields make up the diagnostic that their segments make up**, if none of these is
refused. -/
theorem diagnostic?_eq {format : Format} (htokens : segments.map Segment.token = format.tokens)
    (hrefused : ∀ segment ∈ segments, segment.isRefused = false) :
    (fieldsOf segments).diagnostic? (format.messageNames.head?.getD "") format.fallback
      = format.diagnosticOf? segments := by
  have hmessage : (messagesOf segments).lookup (format.messageNames.head?.getD "")
      = (fieldText? .message segments).map fun text => some (String.ofList text) := by
    rw [Format.messageNames, ← htokens]
    exact lookup_firstMessage
  rw [Fields.diagnostic?, Format.diagnosticOf?, fieldsOf, hmessage]
  cases fieldText? .filename segments with
  | none => rfl
  | some filename =>
      cases hnumber : fieldText? .line segments with
      | none => rfl
      | some digits =>
          simp only [Option.bind_some, Option.map_some, Option.bind_eq_bind,
            (line_of_not_refused hrefused hnumber).1]
          cases fieldText? .message segments with
          | none => rfl
          | some message =>
              cases hwhere : fieldText? .column segments with
              | none => rfl
              | some column =>
                  simp only [Option.bind_some, Option.map_some, column_of_not_refused hrefused hwhere]

/-- Segments one of which is refused make up no diagnostic. -/
theorem diagnosticOf?_of_isRefused {format : Format} (hvalid : Valid (segments.map Segment.token))
    (hrefused : ∃ segment ∈ segments, segment.isRefused = true) :
    format.diagnosticOf? segments = none := by
  obtain ⟨⟨token, text⟩, hsegment, hrefused⟩ := hrefused
  rw [Format.diagnosticOf?]
  cases fieldText? .filename segments with
  | none => rfl
  | some filename =>
      cases token with
      | line =>
          rw [fieldText?_of_mem (hvalid.single .line (by decide)) hsegment rfl]
          simp only [Segment.isRefused, Bool.or_eq_true, decide_eq_true_iff, beq_iff_eq] at hrefused
          by_cases hlen : maxPositionDigits < text.length
          · simp [Token.captured?, position?, hlen]
          -- a line that is not too long is refused for being zero
          · have hzero : numeral text = 0 := hrefused.resolve_left hlen
            simp only [Token.captured?, position?, hlen, hzero, if_false, Option.bind_some,
              Option.bind_eq_bind, Nat.lt_irrefl, dite_false]
            cases fieldText? .message segments <;> cases fieldText? .column segments <;> simp
      | column =>
          rw [fieldText?_of_mem (hvalid.single .column (by decide)) hsegment rfl]
          simp only [Segment.isRefused, decide_eq_true_iff] at hrefused
          simp [Token.captured?, position?, hrefused]
      | _ => cases hrefused

/-- What a diagnostic says of a line that has been split. -/
structure Format.Says (format : Format) (segments : List Segment) (d : Diagnostic) : Prop where
  filename : fieldText? .filename segments = some d.filename.toList
  line : ∃ digits, fieldText? .line segments = some digits ∧ position? digits = some d.line
  message : fieldText? .message segments = some d.message.toList
  column : (fieldText? .column segments).map position? = d.column.map some
  severity : d.severity = (severityFrom [] segments).getD format.fallback
  code : d.code = (fieldText? .code segments).map String.ofList
  tool : d.tool = none

/-- The diagnostic that segments make up says what they say. -/
theorem Format.says_of_diagnosticOf? {format : Format} {d : Diagnostic}
    (h : format.diagnosticOf? segments = some d) : format.Says segments d := by
  rw [diagnosticOf?] at h
  obtain ⟨filename, hfile, h⟩ := Option.bind_eq_some_iff.mp h
  obtain ⟨digits, hdigits, h⟩ := Option.bind_eq_some_iff.mp h
  obtain ⟨line, hline, h⟩ := Option.bind_eq_some_iff.mp h
  obtain ⟨message, hmessage, h⟩ := Option.bind_eq_some_iff.mp h
  -- the column is the last field to be asked for, and the only one that may be missing
  have hrest : ∀ column, (if hpos : 0 < line then
        some
          { filename := String.ofList filename, line, column, message := String.ofList message,
            severity := (severityFrom [] segments).getD format.fallback,
            code := (fieldText? .code segments).map String.ofList, line_pos := hpos : Diagnostic }
      else none) = some d → (fieldText? .column segments).map position? = column.map some →
      format.Says segments d := by
    intro column h hcolumn
    split at h
    · obtain rfl := Option.some.inj h
      exact ⟨by rw [hfile, String.toList_ofList], ⟨digits, hdigits, hline⟩,
        by rw [hmessage, String.toList_ofList], hcolumn, rfl, rfl, rfl⟩
    · cases h
  cases hcolumn : fieldText? .column segments with
  | none =>
      rw [hcolumn] at h
      exact hrest none h (by rw [hcolumn]; rfl)
  | some text =>
      rw [hcolumn] at h
      obtain ⟨column, hposition, h⟩ := Option.bind_eq_some_iff.mp h
      obtain ⟨n, hn, rfl⟩ := Option.map_eq_some_iff.mp hposition
      exact hrest (some n) h (by rw [hcolumn, Option.map_some, hn]; rfl)

/-- A field that a format must have has a text. -/
theorem exists_fieldText? (hvalid : Valid (segments.map Segment.token))
    (hfield : field ∈ [Field.filename, .line, .message]) : ∃ text, fieldText? field segments = some text := by
  have hcount := hvalid.present field hfield
  rw [fieldCount, ← Nat.pos_iff_ne_zero, List.countP_pos_iff] at hcount
  obtain ⟨token, htoken, hfills⟩ := hcount
  obtain ⟨segment, hsegment, rfl⟩ := List.mem_map.mp htoken
  obtain ⟨other, hfind⟩ := Option.isSome_iff_exists.mp
    (List.find?_isSome (p := fun segment : Segment => segment.token.field? == some field)
      |>.mpr ⟨segment, hsegment, hfills⟩)
  refine ⟨other.text, ?_⟩
  rw [fieldText?, hfind, Option.bind_some]
  have hother := List.find?_some hfind
  obtain ⟨token, text⟩ := other
  cases token with
  | filename | line | message => rfl
  | column | code =>
      obtain rfl := Option.some.inj (beq_iff_eq.mp hother)
      simp at hfield
  | _ => cases hother

/-- Segments none of which is refused make up a diagnostic. -/
theorem exists_diagnosticOf? (format : Format) (hvalid : Valid (segments.map Segment.token))
    (hrefused : ∀ segment ∈ segments, segment.isRefused = false) :
    ∃ d, format.diagnosticOf? segments = some d := by
  obtain ⟨filename, hfile⟩ := @exists_fieldText? segments .filename hvalid (by decide)
  obtain ⟨digits, hdigits⟩ := @exists_fieldText? segments .line hvalid (by decide)
  obtain ⟨message, hmessage⟩ := @exists_fieldText? segments .message hvalid (by decide)
  obtain ⟨hline, hpos⟩ := line_of_not_refused hrefused hdigits
  rw [Format.diagnosticOf?, hfile, hdigits, hmessage]
  simp only [Option.bind_some, Option.bind_eq_bind, hline, dif_pos hpos]
  cases hcolumn : fieldText? .column segments with
  | none => exact ⟨_, rfl⟩
  | some text =>
      simp only [column_of_not_refused hrefused hcolumn]
      exact ⟨_, rfl⟩

/-- The severity of segments is that of the one among them that decides on it. -/
theorem severityFrom_of_mem {segment : Segment} {severity : Severity}
    (hvalid : Valid (segments.map Segment.token)) (hmem : segment ∈ segments)
    (hdecides : segment.token.isSeverity = true)
    (hseverity : ∀ earlier, segment.severity? earlier = some severity) :
    severityFrom [] segments = some severity := by
  obtain ⟨before, after, rfl⟩ := List.append_of_mem hmem
  have hcount := hvalid.severity
  rw [List.countP_map] at hcount
  have hbefore := (eq_false_of_countP_le_one hcount hdecides).1
  rw [severityFrom_append, severityFrom_eq_none hbefore, Option.none_or, severityFrom, hseverity]
  rfl

end

/-- **The diagnostic of a line is what its segments make up**, given what the groups of the match
hold. -/
theorem Matcher.apply_eq {matcher : Matcher} {line : String} {m : Regex.Match}
    {segments : List Segment} {labels : String → List Char → Prop}
    (hmatch : matcher.pattern.fullMatch? (matchedText line.toList) = some m)
    (hsplits : Splits labels matcher.format.tokens (matchedText line.toList) segments)
    (hrecords : Records m 0 segments) :
    matcher.apply line = (verdict segments).map fun _ => matcher.format.diagnosticOf? segments := by
  have htokens := hsplits.tokens
  have hvalid := valid_of_tokens htokens
  have hfits : FitsFrom [] segments := fitsFrom_of_valid hvalid hsplits.accepts
  have hfill : fillFields m 0 none {} (segments.map Segment.token) = _ := fillFields_eq hfits hrecords
  rw [htokens] at hfill
  rw [Matcher.apply, hmatch]
  dsimp only
  rw [hfill]
  cases hverdict : verdict segments with
  | error failure => rfl
  | ok conforms =>
      cases conforms with
      | false =>
          rw [diagnosticOf?_of_isRefused hvalid (exists_isRefused_of_verdict hverdict)]
          rfl
      | true =>
          exact congrArg Except.ok (diagnostic?_eq htokens (not_isRefused_of_verdict hverdict))

end LintRunner
