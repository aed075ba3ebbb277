import LintRunner.Proofs.Format.Positions
import LintRunner.Proofs.Format.Soundness
import LintRunner.Proofs.Results
import LintRunner.Proofs.Run.Modes

/-!
# The diagnostics of runs

Every diagnostic of a run comes from a line of one of the adapters that the registry lists
(`Setup.exists_origin`). It can be written, it bears the name of that adapter, and it is well formed if the
labels of the adapter's format are patterns on their own (`diagnostics_wellFormed`).
-/

set_option autoImplicit false

namespace LintRunner

/-- Where a diagnostic of an adapter comes from: a line of its tool, whose diagnostic it is but for the
name of the tool. -/
def Adapter.Origin (adapter : Adapter) (d : Diagnostic) : Prop :=
  ∃ matcher line found, adapter.format.compile = .ok matcher ∧
    matcher.apply line = .ok (some found) ∧ d = { found with tool := some adapter.name }

theorem Adapter.Origin.isWritable {adapter : Adapter} {d : Diagnostic} (h : adapter.Origin d) :
    d.isWritable = true := by
  obtain ⟨matcher, line, found, -, happly, rfl⟩ := h
  have hfound : found.isWritable = true := Matcher.isWritable_of_apply happly
  exact hfound

/-- The adapters of a language are adapters of the registry. -/
theorem Registry.mem_of_adaptersFor {registry : Registry} {tag : String} {adapters : List Adapter}
    (h : registry.adaptersFor tag = .ok adapters) : ∀ adapter ∈ adapters, adapter ∈ registry.adapters := by
  intro adapter hadapter
  rw [adaptersFor] at h
  split at h
  · cases h
  · obtain ⟨name, -, hget⟩ := mem_of_mapM h adapter hadapter
    rw [get, get?] at hget
    split at hget
    · rename_i found hfind
      obtain rfl := Except.ok.inj hget
      exact List.mem_of_find?_eq_some hfind
    · cases hget

namespace Setup

variable {setup : Setup}

/-- What an adapter gives comes from its lines. -/
theorem Gives.origin {target : Option String} {history : List (List String)} {adapter : Adapter}
    {words : List String} {outcome : Outcome} (h : setup.Gives target history adapter words outcome) :
    outcome.adapter = adapter.name ∧ ∀ d ∈ outcome.diagnostics, adapter.Origin d := by
  cases h with
  | skipped => exact ⟨rfl, fun d hd => (by cases hd)⟩
  | @executed matcher status lines diagnostics command compiled reply reads =>
      refine ⟨rfl, fun d hd => ?_⟩
      have hd : d ∈ diagnostics := hd
      rw [reads.found, List.mem_filterMap] at hd
      obtain ⟨line, -, hline⟩ := hd
      split at hline
      · rename_i found happly
        exact ⟨matcher, line, found, compiled, happly, (Option.some.inj hline).symm⟩
      · cases hline

/-- **Every diagnostic of a run comes from a line of an adapter of the registry.** -/
theorem exists_origin {history : List (List String)} {language : String} {target : Option String}
    {outcome : Outcome} (houtcome : outcome ∈ (setup.run history language target).outcomes) :
    ∃ adapter ∈ setup.registry.adapters, outcome.adapter = adapter.name ∧
      ∀ d ∈ outcome.diagnostics, adapter.Origin d := by
  rw [run] at houtcome
  split at houtcome
  · cases houtcome
  · rename_i adapters hadapters
    obtain ⟨i, hi⟩ := List.getElem?_of_mem houtcome
    obtain ⟨adapter, words, hadapter, -, hgives⟩ :=
      (setup.runFrom_follows target history adapters).given i outcome hi
    exact ⟨adapter, Registry.mem_of_adaptersFor hadapters adapter (List.mem_of_getElem? hadapter),
      hgives.origin⟩

/-- Every diagnostic of a run can be written. -/
theorem isWritable_of_mem_diagnostics {history : List (List String)} {language : String}
    {target : Option String} : ∀ d ∈ (setup.run history language target).diagnostics,
      d.isWritable = true := by
  intro d hd
  obtain ⟨outcome, houtcome, hd⟩ := List.mem_flatMap.mp hd
  obtain ⟨adapter, -, -, horigin⟩ := exists_origin houtcome
  exact (horigin d hd).isWritable

/-- What is taken from a cursor is drained from it. -/
theorem mem_drain_of_take {n : Nat} {history : List (List String)} {cursor : Cursor} {d : Diagnostic}
    (h : d ∈ (setup.take n history cursor).items) : d ∈ (setup.drain history cursor).items := by
  induction n generalizing history cursor with
  | zero => cases h
  | succ n ih =>
      rw [take] at h
      cases hitem : (setup.next history cursor).item with
      | error failure => simp only [hitem] at h; cases h
      | ok found =>
          cases found with
          | none => simp only [hitem] at h; cases h
          | some first =>
              rw [drain_of_some hitem]
              simp only [hitem] at h
              rcases List.mem_cons.mp h with rfl | h
              · exact List.mem_cons_self
              · exact List.mem_cons_of_mem _ (ih h)

end Setup

theorem Adapter.Origin.wellFormed {adapter : Adapter} {d : Diagnostic} (h : adapter.Origin d)
    (hvalid : adapter.format.LabelsValid) :
    d.WellFormed adapter.format ∧ d.tool = some adapter.name := by
  obtain ⟨matcher, line, found, hcompile, happly, rfl⟩ := h
  obtain ⟨hfilename, hpos, hline, hcolumn, hlt, hmessage, hcode, habsent⟩ :=
    (Matcher.wellFormed_of_apply hvalid hcompile happly).1
  exact ⟨⟨hfilename, hpos, hline, hcolumn, hlt, hmessage, hcode, habsent⟩, rfl⟩

/-- **Every diagnostic is well formed.** This holds of what a matcher makes of a line if the labels of
its format are valid, and so it holds of the outcomes of a run over valid formats and of what is read
from its cursor one by one; these bear the name of the adapter that they come from. -/
theorem diagnostics_wellFormed :
    (∀ (format : Format) (matcher : Matcher) (line : String) (d : Diagnostic), format.LabelsValid →
      format.compile = .ok matcher → matcher.apply line = .ok (some d) → d.WellFormed format) ∧
    ∀ (setup : Setup) (history : List (List String)) (language : String) (target : Option String),
      (∀ adapter ∈ setup.registry.adapters, adapter.format.LabelsValid) →
      (∀ outcome ∈ (setup.run history language target).outcomes,
        ∃ adapter ∈ setup.registry.adapters, outcome.adapter = adapter.name ∧
          ∀ d ∈ outcome.diagnostics, d.WellFormed adapter.format ∧ d.tool = some adapter.name) ∧
      ∀ (n : Nat) (d : Diagnostic), d ∈ (setup.take n history (.start language target)).items →
        ∃ adapter ∈ setup.registry.adapters, d.WellFormed adapter.format ∧
          d.tool = some adapter.name := by
  refine ⟨fun format matcher line d hvalid hcompile happly =>
    (Matcher.wellFormed_of_apply hvalid hcompile happly).1, ?_⟩
  intro setup history language target hvalid
  have houtcomes : ∀ outcome ∈ (setup.run history language target).outcomes,
      ∃ adapter ∈ setup.registry.adapters, outcome.adapter = adapter.name ∧
        ∀ d ∈ outcome.diagnostics, d.WellFormed adapter.format ∧ d.tool = some adapter.name := by
    intro outcome houtcome
    obtain ⟨adapter, hadapter, hname, horigin⟩ := Setup.exists_origin houtcome
    exact ⟨adapter, hadapter, hname, fun d hd => (horigin d hd).wellFormed (hvalid adapter hadapter)⟩
  refine ⟨houtcomes, fun n d hd => ?_⟩
  have hdrained : d ∈ (setup.lint history language target).items := Setup.mem_drain_of_take hd
  rw [Setup.lint_eq_run] at hdrained
  obtain ⟨outcome, houtcome, hd⟩ := List.mem_flatMap.mp hdrained
  obtain ⟨adapter, hadapter, -, hall⟩ := houtcomes outcome houtcome
  exact ⟨adapter, hadapter, hall d hd⟩

def guardedAdapter : Adapter where
  name := "guarded"
  command := ["guarded", "%f"]
  format := guardedFormat
  name_ne := by decide
  command_ne := by decide

def guardedSetup : Setup where
  registry := { adapters := [guardedAdapter], languages := [("c", ["guarded"])] }
  policy := .abort
  runner := fun _ _ => .finished 1 ["a.c:3:error:x", "", "b.c:1:WARNING:y"]

theorem guardedSetup_diagnostics :
    (∃ matcher d, guardedFormat.compile = .ok matcher ∧
      matcher.apply "a.c:3:error:x" = .ok (some d) ∧ d.WellFormed guardedFormat) ∧
    ∃ d ∈ (guardedSetup.take 2 [] (.start "c" (some "src"))).items,
      d.WellFormed guardedFormat ∧ d.tool = some "guarded" := by
  have hformats : ∀ adapter ∈ guardedSetup.registry.adapters, adapter.format.LabelsValid := by
    intro adapter hadapter
    rw [List.mem_singleton.mp hadapter]
    exact guardedFormat_labelsValid
  obtain ⟨happly, hruns⟩ := diagnostics_wellFormed
  refine ⟨?_, ?_⟩
  · obtain ⟨matcher, hcompile⟩ := guardedFormat_compile
    have hfound : ((guardedFormat.compile.bind fun matcher =>
        matcher.apply "a.c:3:error:x").toOption.bind id).isSome = true := by decide +kernel
    rw [hcompile] at hfound
    obtain ⟨d, hd⟩ : ∃ d, matcher.apply "a.c:3:error:x" = .ok (some d) := by
      change ((matcher.apply "a.c:3:error:x").toOption.bind id).isSome = true at hfound
      cases hresult : matcher.apply "a.c:3:error:x" with
      | error failure => rw [hresult] at hfound; cases hfound
      | ok result =>
          obtain ⟨d, rfl⟩ := Option.isSome_iff_exists.mp (hresult ▸ hfound)
          exact ⟨d, rfl⟩
    exact ⟨matcher, d, hcompile, hd,
      happly guardedFormat matcher _ d guardedFormat_labelsValid hcompile hd⟩
  · obtain ⟨-, hitems⟩ := hruns guardedSetup [] "c" (some "src") hformats
    have hsome : 0 < (guardedSetup.take 2 [] (.start "c" (some "src"))).items.length := by
      decide +kernel
    obtain ⟨d, hd⟩ := List.exists_mem_of_length_pos hsome
    obtain ⟨adapter, hadapter, hwell, htool⟩ := hitems 2 d hd
    rw [List.mem_singleton.mp hadapter] at hwell htool
    exact ⟨d, hd, hwell, htool⟩

end LintRunner
