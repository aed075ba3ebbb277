import LintRunner.Proofs.Format.Soundness
import LintRunner.Proofs.Regex.Containment

/-!
# Refused labels

A label that is no pattern on its own may still be accepted in a format (`labels_not_checked`), but not if
it has nothing to do with what stands around it (`Format.refuses_label`): the tokens before the label lead the
reader to it, a contained label is refused in its group for what is wrong with it alone, and what is kept for
the end of the pattern is still there after the tokens behind the label.
-/

set_option autoImplicit false

namespace LintRunner

open Regex Text

namespace Regex.Reading

variable {index : Nat} {st : Reading}

theorem sourceFrom_append (index : Nat) (before after : List Token) : sourceFrom index (before ++ after) =
    sourceFrom index before ++ sourceFrom (index + before.length) after := by
  induction before generalizing index with
  | nil => rfl
  | cons token before ih =>
      rw [List.cons_append, sourceFrom, sourceFrom, ih, List.append_assoc, List.length_cons,
        Nat.add_assoc, Nat.add_comm 1]

/-- Tokens without labels are read to their end, unless a name is taken. -/
theorem leads_or_refused_tokens {tokens : List Token}
    (hlabels : ∀ text table classifier, .severityPattern text table classifier ∉ tokens)
    (hscope : st.scope = {}) :
    ∃ symbols, Symbol.ofText? (sourceFrom index tokens) = some symbols ∧
      ((∃ n st', Leads n st symbols st' []) ∨ Refused .malformed st symbols) := by
  induction tokens generalizing index st with
  | nil => exact ⟨[], rfl, Or.inl ⟨0, st, .refl st []⟩⟩
  | cons token tokens ih =>
      have hlater : ∀ text table classifier, .severityPattern text table classifier ∉ tokens :=
        fun text table classifier h => hlabels text table classifier (List.mem_cons_of_mem _ h)
      have hno : ∀ text table classifier, token ≠ .severityPattern text table classifier := by
        rintro text table classifier rfl
        exact hlabels text table classifier List.mem_cons_self
      obtain ⟨taken, htaken⟩ := exists_symbols index fun text table classifier h =>
        absurd h (hno text table classifier)
      -- a token is taken as its slot, unless the name of its place is taken
      by_cases hfresh : token.captures = true → st.names.lookup (groupName index) = none
      · obtain ⟨slot, st₁, -, ⟨n, taken', htaken', -, hleads⟩, hextends, -⟩ := takes_token hno hscope hfresh
        obtain ⟨symbols, hsymbols, hends⟩ := @ih (index + 1) st₁ hlater (hextends.scope.trans hscope)
        have hsettled : Settled symbols := by
          have h := (unsigned_sourceFrom (index + 1) tokens).settled hsymbols settled_nil
          rwa [List.append_nil] at h
        refine ⟨taken' ++ symbols, ?_, ?_⟩
        · rw [sourceFrom, Symbol.ofText?_append htaken', hsymbols]
          rfl
        · rcases hends with ⟨m, st', hend⟩ | hrefused
          · exact Or.inl ⟨n + m, st', (hleads symbols hsettled).trans hend⟩
          · exact Or.inr ((hleads symbols hsettled).refused hrefused)
      · obtain ⟨symbols, hsymbols, -⟩ := @ih (index + 1) {} hlater rfl
        refine ⟨taken ++ symbols, ?_, Or.inr ?_⟩
        · rw [sourceFrom, Symbol.ofText?_append htaken, hsymbols]
          rfl
        · obtain ⟨hcaptures, hnot⟩ := Classical.not_imp.mp hfresh
          exact refused_of_taken hcaptures hscope hnot htaken symbols

/-- What the reader makes of the group of a label that is refused alone, whatever it makes of the text behind
the group. -/
theorem refused_label {text : String} {fault : Fault} {symbols later : List Symbol} (hscope : st.scope = {})
    (hsymbols : Symbol.ofText? text.toList = some symbols) (hcontained : Contained symbols)
    (hread : Pattern.read text.toList = .error fault)
    (hlater : ∀ st' : Reading, st'.scope = {} →
      (∃ n final, Leads n st' later final []) ∨ Refused .malformed st' later) :
    let whole := openingSymbols (groupName index) ++
      (Symbol.plain "(?:".toList ++ (symbols ++ closing :: closing :: later))
    Refused .malformed st whole ∨ Refused fault st whole ∨
      ∃ n final, Leads n st whole final [] ∧ final.late = true ∧ fault = .malformed := by
  intro whole
  have hname := isIdentifier_groupName index
  have hend : '>' ∉ groupName index := not_mem_groupName (by decide) (by decide) index
  by_cases hfresh : st.names.lookup (groupName index) = none
  · let opened := st.opening (groupName index)
    let base := opened.openLevel .plain opened.scope
    have hopens : Leads 2 st whole base (symbols ++ closing :: closing :: later) :=
      (leads_opening hscope hname hend hfresh _).trans (leads_plain (show opened.scope = {} from hscope) _)
    have hplain : base.InPlain := ⟨_, _, rfl, rfl⟩
    have hstart : Mirrors base {} base :=
      ⟨⟨[], rfl, .nil⟩, .nil, .nil, hscope, fun _ _ => rfl, fun h => (by cases h), rfl⟩
    -- alone, the label is refused at its end for a fault that was kept, or at a place on the way there
    rcases leads_or_refused {} symbols with ⟨n, alone, halone⟩ | ⟨fault', halone⟩
    · rw [Pattern.read_of_leads hsymbols halone] at hread
      rcases hcontained.leads hplain hstart halone (closing :: later) with
        hrefused | ⟨st₁, hleads, hlevels, hlate, hasked⟩
      · exact Or.inl (hopens.refused hrefused)
      · obtain ⟨hlate', rfl⟩ := late_of_finish (hcontained.closed n alone halone) hasked hread
        -- both groups of the label are closed, and the flags around them are in force again
        obtain ⟨m, st₂, hcloses, hscope₂, hlate₂⟩ : ∃ m st₂, Leads m st whole st₂ later ∧
            st₂.scope = {} ∧ st₂.late = st₁.late :=
          ⟨_, _, ((hopens.trans hleads).trans (leads_close (closeLevel_plain hlevels) _)).trans
            (leads_close (closeLevel_capture rfl rfl) later), hscope, rfl⟩
        rcases hlater st₂ hscope₂ with ⟨k, final, hends⟩ | hrefused
        · exact Or.inr (Or.inr ⟨_, final, hcloses.trans hends, hends.late (hlate₂.trans (hlate hlate')), rfl⟩)
        · exact Or.inl (hcloses.refused hrefused)
    · obtain rfl : fault' = fault := by
        rw [Pattern.read_of_refused hsymbols halone] at hread
        exact Except.error.inj hread
      rcases hcontained.refused hplain hstart halone (closing :: later) with hrefused | hrefused
      · exact Or.inl (hopens.refused hrefused)
      · exact Or.inr (Or.inl (hopens.refused hrefused))
  · exact Or.inl (refused_opening hscope hname hend hfresh _)

/-- **A contained label that is refused alone is refused between other tokens**, for the same fault or as
malformed. -/
theorem read_of_label {before after : List Token} {text : String} {table : Labels} {classifier : Classifier}
    {fault : Fault} {symbols : List Symbol}
    (hbefore : ∀ text table classifier, .severityPattern text table classifier ∉ before)
    (hafter : ∀ text table classifier, .severityPattern text table classifier ∉ after)
    (hsymbols : Symbol.ofText? text.toList = some symbols) (hcontained : Contained symbols)
    (hread : Pattern.read text.toList = .error fault) :
    let source := sourceFrom 0 (before ++ .severityPattern text table classifier :: after)
    Pattern.read source = .error .malformed ∨ Pattern.read source = .error fault := by
  intro source
  obtain ⟨slots, st, -, ⟨n, front, hfront, -, hleads⟩, hextended, -⟩ :=
    @takes_tokens 0 {} before (fun text table classifier h => absurd h (hbefore text table classifier)) rfl
      (fun entry hentry => (by cases hentry))
  have hscope : st.scope = {} := hextended.frame.2.2
  obtain ⟨later, hlater, -⟩ := @leads_or_refused_tokens (0 + before.length + 1) {} after hafter rfl
  let whole := openingSymbols (groupName (0 + before.length)) ++
    (Symbol.plain "(?:".toList ++ (symbols ++ closing :: closing :: later))
  have hsource : Symbol.ofText? source = some (front ++ whole) := by
    rw [show source = _ from sourceFrom_append 0 before _, sourceFrom, Symbol.ofText?_append hfront,
      Symbol.ofText?_append (ofText?_label hsymbols table classifier), hlater]
    simp [whole]
  have hwhole : Leads n {} (front ++ whole) st whole := hleads whole (settled_cons rfl rfl _)
  -- the tokens behind the label are written alike wherever their reading begins
  have hends : ∀ st' : Reading, st'.scope = {} →
      (∃ n final, Leads n st' later final []) ∨ Refused .malformed st' later := by
    intro st' hst'
    obtain ⟨later', hlater', hends⟩ :=
      @leads_or_refused_tokens (0 + before.length + 1) st' after hafter hst'
    obtain rfl := Option.some.inj (hlater.symm.trans hlater')
    exact hends
  rcases refused_label hscope hsymbols hcontained hread hends with
    hrefused | hrefused | ⟨m, final, hfinal, hlate, -⟩
  · exact Or.inl (Pattern.read_of_refused hsource (hwhole.refused hrefused))
  · exact Or.inr (Pattern.read_of_refused hsource (hwhole.refused hrefused))
  · rw [Pattern.read_of_leads hsource (hwhole.trans hfinal)]
    exact Or.inl (finish_of_late hlate)

end Regex.Reading

namespace Format

def failureOf (format : Format) : Fault → Failure
  | .malformed => .format (.invalidPattern (String.ofList format.source))
  | .countTooLarge => .countTooLarge
  | .digitLimit digits => .digitLimit (some digits)

theorem compile_of_read_error {format : Format} {fault : Fault}
    (hlevels : ∀ word, .severityFixed (.unknown word) ∉ format.tokens)
    (h : Pattern.read format.source = .error fault) : format.compile = .error (format.failureOf fault) := by
  rw [compile, unknownLevel?_eq_none hlevels]
  simp only [h]
  cases fault <;> rfl

/-- Among the tokens of a format there is one severity at most. -/
theorem not_isSeverity_of_split {format : Format} {before after : List Token} {token : Token}
    (htokens : format.tokens = before ++ token :: after) (htoken : token.isSeverity = true) :
    ∀ other, other.isSeverity = true → other ∉ before ∧ other ∉ after := by
  have hsingle := (valid_of_layout format.valid).severity
  rw [htokens] at hsingle
  obtain ⟨hbefore, hafter⟩ := eq_false_of_countP_le_one hsingle htoken
  intro other hother
  exact ⟨fun hmem => Bool.eq_false_iff.mp (hbefore other hmem) hother,
    fun hmem => Bool.eq_false_iff.mp (hafter other hmem) hother⟩

/-- **A contained label that is no pattern is refused in every format.** -/
theorem refuses_label {format : Format} {text : String} {table : Labels} {classifier : Classifier}
    {symbols : List Symbol} {fault : Fault}
    (hlabel : .severityPattern text table classifier ∈ format.tokens)
    (hsymbols : Symbol.ofText? text.toList = some symbols) (hcontained : Contained symbols)
    (hread : Pattern.read text.toList = .error fault) :
    format.compile = .error (format.failureOf .malformed) ∨
      format.compile = .error (format.failureOf fault) := by
  obtain ⟨before, after, htokens⟩ := List.append_of_mem hlabel
  have hothers := not_isSeverity_of_split htokens rfl
  have hlevels : ∀ word, .severityFixed (.unknown word) ∉ format.tokens := by
    intro word hmem
    rw [htokens, List.mem_append, List.mem_cons] at hmem
    obtain ⟨hbefore, hafter⟩ := hothers (.severityFixed (.unknown word)) rfl
    rcases hmem with hmem | hmem | hmem
    · exact hbefore hmem
    · cases hmem
    · exact hafter hmem
  have hsource : format.source =
      sourceFrom 0 (before ++ .severityPattern text table classifier :: after) := by
    rw [source, htokens]
  rcases Reading.read_of_label (fun _ _ _ => (hothers _ rfl).1) (fun _ _ _ => (hothers _ rfl).2)
    hsymbols hcontained hread with h | h
  · exact Or.inl (compile_of_read_error hlevels (hsource ▸ h))
  · exact Or.inr (compile_of_read_error hlevels (hsource ▸ h))

end Format

def repeatingFormat : Format where
  tokens := [.filename, .literal ":", .line, .literal ":", .severityPattern "*" [] .blanks, .literal ":",
    .message "message"]
  fallback := .warning
  valid := by decide

theorem contained_star : Contained [⟨'*', false⟩] := by
  have hstep : Reading.step {} ⟨'*', false⟩ [] = .error .malformed := rfl
  constructor
  · intro n st s rest h
    cases h with
    | refl =>
        have hread : readConstruct {} ⟨'*', false⟩ [] = .ok (.repetition .greedy 0 none, []) := rfl
        exact .ends hread (fun more => rfl) rfl nofun
    | step first later =>
        rw [hstep] at first
        cases first
  · intro n st h
    cases h with
    | step first later =>
        rw [hstep] at first
        cases first

theorem repeatingFormat_refused :
    .severityPattern "*" [] .blanks ∈ repeatingFormat.tokens ∧
      Symbol.ofText? "*".toList = some [⟨'*', false⟩] ∧ Contained [⟨'*', false⟩] ∧
      Pattern.read "*".toList = .error .malformed ∧
      repeatingFormat.compile =
        .error (.format (.invalidPattern (String.ofList repeatingFormat.source))) := by
  have hlabel : .severityPattern "*" [] .blanks ∈ repeatingFormat.tokens := by simp [repeatingFormat]
  have hsymbols : Symbol.ofText? "*".toList = some [⟨'*', false⟩] := by decide +kernel
  have hread : Pattern.read "*".toList = .error .malformed := by decide +kernel
  refine ⟨hlabel, hsymbols, contained_star, hread, ?_⟩
  rcases Format.refuses_label hlabel hsymbols contained_star hread with h | h <;> exact h

/-- A format whose label begins a set that a later token ends. -/
def unclosedFormat : Format where
  tokens := [.filename, .literal ":", .line, .literal ":", .severityPattern "[" [] .blanks,
    .code "X" true, .literal ":", .message "message"]
  fallback := .warning
  valid := by decide

/-- A label that is no pattern may be accepted. -/
theorem labels_not_checked :
    ¬ ∀ (format : Format) (label : String) (table : Labels) (classifier : Classifier),
      .severityPattern label table classifier ∈ format.tokens →
      (∀ alone, Pattern.read label.toList ≠ .ok alone) →
      format.compile = .error (.format (.invalidPattern (String.ofList format.source))) := by
  intro h
  have hlabel : ∀ alone, Pattern.read "[".toList ≠ .ok alone := by
    intro alone hread
    rw [show Pattern.read "[".toList = .error .malformed by decide +kernel] at hread
    cases hread
  obtain ⟨matcher, hcompile⟩ : ∃ matcher, unclosedFormat.compile = .ok matcher :=
    exists_of_isSome_toOption (by decide +kernel)
  have hrefused := h unclosedFormat "[" [] .blanks (by simp [unclosedFormat]) hlabel
  rw [hcompile] at hrefused
  cases hrefused

end LintRunner
