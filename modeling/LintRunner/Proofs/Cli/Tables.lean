import LintRunner.Proofs.Cli.Lint
import LintRunner.Proofs.Table

/-!
# Tables of sessions

Which tables are shown, given a printer that does what is relied on. Names of tools and tags of languages are
read as markup, everything else is shown as it is. So it is the names and tags that decide on how a session
ends that shows a table (`Surroundings.tables_shown`).
-/

set_option autoImplicit false

namespace LintRunner

open Markup

/-! ## Registries -/

namespace Registry

/-- No tag of markup begins in the name of an adapter or the tag of a language. -/
def Untagged (registry : Registry) : Prop :=
  (∀ adapter ∈ registry.adapters, Markup.Untagged adapter.name.toList) ∧
    ∀ entry ∈ registry.languages, Markup.Untagged entry.1.toList

/-- The texts of the list of languages: their tags, and the names of their adapters. -/
def languageTexts (registry : Registry) : List String :=
  registry.languages.flatMap fun entry => entry.1 :: entry.2

variable {registry : Registry}

/-- The names that a language lists are names of adapters. -/
theorem Untagged.languageTexts (h : registry.Untagged) (hwell : registry.WellFormed) :
    ∀ s ∈ registry.languageTexts, Markup.Untagged s.toList := by
  intro s hs
  obtain ⟨entry, hentry, hs⟩ := List.mem_flatMap.mp hs
  rcases List.mem_cons.mp hs with rfl | hname
  · exact h.2 entry hentry
  · obtain ⟨adapter, hadapter, rfl⟩ := List.mem_map.mp (hwell.listed entry hentry s hname)
    exact h.1 adapter hadapter

end Registry

/-- The diagnostics of a run bear names of adapters. -/
theorem Setup.exists_toolName {setup : Setup} {language : String} {target : Option String} :
    ∀ d ∈ (setup.run [] language target).diagnostics,
      ∃ adapter ∈ setup.registry.adapters, Listing.toolName d = adapter.name ∨ Listing.toolName d = "-" := by
  intro d hd
  obtain ⟨outcome, houtcome, hd⟩ := List.mem_flatMap.mp hd
  obtain ⟨adapter, hadapter, -, horigin⟩ := Setup.exists_origin houtcome
  obtain ⟨matcher, line, found, -, -, rfl⟩ := horigin d hd
  refine ⟨adapter, hadapter, ?_⟩
  rw [Listing.toolName]
  split
  · exact Or.inr rfl
  · exact Or.inr rfl
  · rename_i tool _ htool
    exact Or.inl (Option.some.inj htool).symm

theorem Setup.toolName_of_untagged {setup : Setup} (h : setup.registry.Untagged) (language : String)
    (target : Option String) : ∀ s ∈ (setup.run [] language target).diagnostics.map Listing.toolName,
      Untagged s.toList := by
  rw [List.forall_mem_map]
  intro d hd
  obtain ⟨adapter, hadapter, hname | hname⟩ := exists_toolName d hd
  · rw [hname]
    exact h.1 adapter hadapter
  · rw [hname]
    exact untagged_of_not_mem (by decide)

/-! ## Sessions -/

namespace Cli

variable {s : Surroundings} {path : Option Path} {registry : Registry}

/-- How a session ends that shows texts with markup and would exit with a status. -/
def EndsBy (texts : List String) (status : Exit) (ending : Ending) : Prop :=
  Decides texts (ending = .exited status) (ending = .escaped (.unprinted .unbalancedMarkup))

theorem showTable_ending {columns : List Table.Column} {rows : Registry → List (List Table.Cell)}
    (hprinter : s.printer.Documented) (h : s.registry path = .ok registry) :
    EndsBy (Sheet.table (boxed columns (rows registry))).marked .ok
      (showTable s path columns rows).ending := by
  constructor
  · intro huntagged
    obtain ⟨text, htext⟩ := hprinter.shown _ huntagged
    rw [showTable, h]
    simp only [htext]
  · intro hex hall
    have hrefused := hprinter.refused _ hex hall
    rw [showTable, h]
    simp only [hrefused]

theorem adapters_ending (hprinter : s.printer.Documented) (h : s.registry path = .ok registry) :
    EndsBy (registry.adapters.map Adapter.name) .ok (Request.run s (.adapters path)).ending := by
  have hmarked : (Sheet.table (boxed adapterColumns (adapterRows registry))).marked =
      registry.adapters.map Adapter.name := by
    simp only [Sheet.marked, boxed, adapterRows]
    induction registry.adapters with
    | nil => rfl
    | cons adapter adapters ih => simpa using ih
  rw [← hmarked]
  exact showTable_ending hprinter h

theorem mem_marked_languageRows {s : String} :
    s ∈ (Sheet.table (boxed languageColumns (languageRows registry))).marked ↔
    ∃ entry ∈ registry.languages, s = entry.1 ∨ s = commaSeparated entry.2 := by
  rw [Table.mem_marked]
  simp only [boxed, languageRows, List.mem_map, List.mem_mergeSort]
  constructor
  · rintro ⟨row, ⟨entry, hentry, rfl⟩, hs⟩
    exact ⟨entry, hentry, by simpa using hs⟩
  · rintro ⟨entry, hentry, hs⟩
    exact ⟨_, ⟨entry, hentry, rfl⟩, by simpa using hs⟩

theorem languages_ending (hprinter : s.printer.Documented) (h : s.registry path = .ok registry) :
    EndsBy registry.languageTexts .ok (Request.run s (.languages path)).ending := by
  have hends : EndsBy _ .ok (Request.run s (.languages path)).ending := showTable_ending hprinter h
  have hentry : ∀ {entry}, entry ∈ registry.languages → ∀ t ∈ entry.1 :: entry.2,
      t ∈ registry.languageTexts := fun hentry t ht => List.mem_flatMap.mpr ⟨_, hentry, ht⟩
  constructor
  · intro huntagged
    refine hends.shown fun t ht => ?_
    obtain ⟨entry, hmem, rfl | rfl⟩ := mem_marked_languageRows.mp ht
    · exact huntagged _ (hentry hmem _ List.mem_cons_self)
    · exact untagged_commaSeparated fun name hname =>
        huntagged name (hentry hmem name (List.mem_cons_of_mem _ hname))
  · intro hex hall
    apply hends.refused
    · obtain ⟨t, ht, hunmatched⟩ := hex
      obtain ⟨entry, hmem, ht⟩ := List.mem_flatMap.mp ht
      rcases List.mem_cons.mp ht with rfl | hname
      · exact ⟨_, mem_marked_languageRows.mpr ⟨entry, hmem, Or.inl rfl⟩, hunmatched⟩
      · refine ⟨_, mem_marked_languageRows.mpr ⟨entry, hmem, Or.inr rfl⟩, ?_⟩
        exact unmatched_commaSeparated ⟨t, hname, hunmatched⟩ fun name hname =>
          hall name (hentry hmem name (List.mem_cons_of_mem _ hname))
    · intro t ht
      obtain ⟨entry, hmem, rfl | rfl⟩ := mem_marked_languageRows.mp ht
      · exact hall _ (hentry hmem _ List.mem_cons_self)
      · have hnames : ∀ name ∈ entry.2, Untagged name.toList ∨ Unmatched name.toList :=
          fun name hname => hall name (hentry hmem name (List.mem_cons_of_mem _ hname))
        by_cases htagged : ∃ name ∈ entry.2, Unmatched name.toList
        · exact Or.inr (unmatched_commaSeparated htagged hnames)
        · exact Or.inl (untagged_commaSeparated fun name hname =>
            (hnames name hname).resolve_right fun hunmatched => htagged ⟨name, hname, hunmatched⟩)

namespace LintRequest

variable {r : LintRequest} {setup : Setup} {language : String} {status : Exit}

/-- What ends with a failure exits with another status than runs that were completed. -/
theorem stop_ne (hstatus : status = .ok ∨ status = .diagnosticErrors) (failure : Failure) :
    (r.stop failure).2 ≠ .exited status := by
  intro h
  rcases hstatus with rfl | rfl <;> cases failure <;> cases h

/-- A session that exits like a run that was completed has begun one. -/
theorem exists_prepare (hstatus : status = .ok ∨ status = .diagnosticErrors)
    (h : (r.run s).ending = .exited status) : ∃ setup language, r.prepare s = .ok (setup, language) := by
  cases hprepare : r.prepare s with
  | ok prepared => exact ⟨prepared.1, prepared.2, rfl⟩
  | error refusal =>
      rw [LintRequest.run, hprepare] at h
      have hending : (r.refuse refusal).2 = .exited status := h
      cases refusal with
      | failed failure => exact absurd hending (stop_ne hstatus failure)
      | noTarget | unknownLanguage => rcases hstatus with rfl | rfl <;> cases hending

/-- **Tables end a session like single lines do**, unless the name of a tool is not shown. -/
theorem pretty_ending (hprinter : s.printer.Documented) (houtput : r.output = .pretty)
    (h : r.prepare s = .ok (setup, language)) (hstatus : status = .ok ∨ status = .diagnosticErrors)
    (htext : ({ r with output := .text }.run s).ending = .exited status) :
    EndsBy ((setup.run [] language r.place).diagnostics.map Listing.toolName) status
      (r.run s).ending := by
  have hended : ({ r with output := .text }.run s).ending =
      r.endingOf language (setup.run [] language r.place) := ended_of_prepare OutputMode.noConfusion h
  obtain ⟨-, hshown⟩ := run_of_prepare h
  rw [write_listing (by rw [houtput]; decide)] at hshown
  rw [htext, endingOf] at hended
  cases hfailure : (setup.run [] language r.place).failure with
  | some failure =>
      -- single lines end with that failure too, and so not with the status
      rw [hfailure] at hended
      exact absurd hended.symm (stop_ne hstatus failure)
  | none =>
      rw [hfailure] at hended
      have hlisted : r.listed s (setup.run [] language r.place) =
          Listing.pretty s.printer (setup.run [] language r.place).diagnostics := by
        rw [listed, hfailure]
        simp [houtput]
      have hwritable : ∀ d ∈ (setup.run [] language r.place).diagnostics, d.isWritable = true :=
        Setup.isWritable_of_mem_diagnostics
      have hdecides := Listing.pretty_decides hprinter hwritable
      rw [hlisted] at hshown
      constructor
      · intro huntagged
        rw [hshown, hdecides.shown huntagged]
        exact hended.symm
      · intro hex hall
        rw [hshown, hdecides.refused hex hall]
        rfl

/-- A run that has begun has the registry of its configuration. -/
theorem registry_of_prepare (h : r.prepare s = .ok (setup, language)) :
    s.registry r.config = .ok setup.registry := by
  obtain ⟨config, registry, hconfig, -, hregistry, rfl⟩ := exists_of_prepare h
  exact bind_eq_ok.mpr ⟨config, hconfig, hregistry⟩

end LintRequest

/-- **Which tables are shown.** Where single lines end a session, the names of the tools decide on whether
tables end it with the same status, and the tags and names of a configuration decide on whether its languages
and its adapters are listed: a session that shows no text with a tag exits, and a session ends with a failure
that it has no message for if a text closes what nothing has opened. So tables are shown if no tag begins in a
name or a tag of the registry. Files, codes and messages are always shown; a line or a column with too many
digits never is. -/
theorem Surroundings.tables_shown (s : Surroundings) (hprinter : s.printer.Documented) :
    (∀ (r : LintRequest) (status : Exit), status = .ok ∨ status = .diagnosticErrors →
      ({ r with output := .text }.run s).ending = .exited status →
      ∃ setup language, r.prepare s = .ok (setup, language) ∧
        s.registry r.config = .ok setup.registry ∧
        EndsBy ((setup.run [] language r.place).diagnostics.map Listing.toolName) status
          ({ r with output := .pretty }.run s).ending ∧
        (setup.registry.Untagged → ({ r with output := .pretty }.run s).ending = .exited status)) ∧
    (∀ (path : Option Path) (registry : Registry), s.registry path = .ok registry →
      EndsBy registry.languageTexts .ok (Request.run s (.languages path)).ending ∧
      EndsBy (registry.adapters.map Adapter.name) .ok (Request.run s (.adapters path)).ending ∧
      (registry.Untagged → (Request.run s (.languages path)).ending = .exited .ok ∧
        (Request.run s (.adapters path)).ending = .exited .ok)) ∧
    ∀ ds : List Diagnostic,
      ((∀ d ∈ ds, d.isWritable = true) →
        Decides (ds.map Listing.toolName) ((Listing.pretty s.printer ds).2 = none)
          ((Listing.pretty s.printer ds).2 = some (.unprinted .unbalancedMarkup))) ∧
      ((∃ d ∈ ds, d.isWritable = false) → (Listing.pretty s.printer ds).2 ≠ none) := by
  refine ⟨fun r status hstatus htext => ?_, fun path registry hregistry => ?_, fun ds =>
    ⟨Listing.pretty_decides hprinter, Listing.pretty_of_not_isWritable s.printer⟩⟩
  · obtain ⟨setup, language, hprepare⟩ := LintRequest.exists_prepare hstatus htext
    have hends : EndsBy ((setup.run [] language r.place).diagnostics.map Listing.toolName) status
        ({ r with output := .pretty }.run s).ending :=
      LintRequest.pretty_ending (r := { r with output := .pretty }) hprinter rfl hprepare hstatus htext
    exact ⟨setup, language, hprepare, LintRequest.registry_of_prepare hprepare, hends,
      fun huntagged => hends.shown (setup.toolName_of_untagged huntagged language r.place)⟩
  · have hlanguages := languages_ending hprinter hregistry
    have hadapters := adapters_ending hprinter hregistry
    refine ⟨hlanguages, hadapters, fun huntagged => ⟨?_, ?_⟩⟩
    · obtain ⟨config, -, hbuild⟩ := bind_eq_ok.mp hregistry
      have hwell := config.wellFormed_of_buildRegistry Catalogue.wellFormed_registry hbuild
      exact hlanguages.shown (huntagged.languageTexts hwell)
    · refine hadapters.shown ?_
      rw [List.forall_mem_map]
      exact huntagged.1

def closingConfig : String :=
  "[adapters.\"[/x]\"]\ncommand = \"x\"\n" ++
    "format = [\"\x7bfilename\x7d\", \":\", \"\x7bline\x7d\", \":\", \"\x7bmessage\x7d\"]\n" ++
    "[languages]\nshell = [\"[/x]\"]\n"

def Surroundings.closing : Surroundings where
  directory := { files := [([Config.ownName], .bytes closingConfig.toUTF8.toList)] }
  location := "/work"
  runner := fun _ _ => .finished 1 ["a.sh:3:y"]

/-- Texts without brackets are refused with this name among them. -/
theorem refused_of_closing {texts : List String} {shown refused : Prop}
    (h : Decides texts shown refused)
    (htexts : (texts.contains "[/x]" && texts.all fun t => t == "[/x]" || !t.toList.contains '[') = true) :
    refused := by
  have hname : Unmatched "[/x]".toList :=
    ⟨[], ['x'], [], by decide, untagged_of_not_mem (by simp), by simp, by simp⟩
  simp only [Bool.and_eq_true, List.all_eq_true, Bool.or_eq_true, beq_iff_eq, Bool.not_eq_true',
    List.contains_eq_mem, decide_eq_true_eq, decide_eq_false_iff_not] at htexts
  obtain ⟨hmem, hothers⟩ := htexts
  refine h.refused ⟨_, hmem, hname⟩ fun t ht => ?_
  rcases hothers t ht with rfl | hplain
  · exact Or.inr hname
  · exact Or.inl (untagged_of_not_mem hplain)

/-- The tool finds something that is no error. -/
theorem LintRequest.closing_run : ∃ setup, ofScript.prepare .closing = .ok (setup, "shell") ∧
    (setup.run [] "shell" ofScript.place).failure = none ∧
    Diagnostic.errorCount (setup.run [] "shell" ofScript.place).diagnostics = 0 ∧
    (setup.run [] "shell" ofScript.place).diagnostics.map Listing.toolName = ["[/x]"] := by
  have hfacts : (ofScript.prepare .closing).map (fun prepared =>
      let run := prepared.1.run [] prepared.2 ofScript.place
      (prepared.2, run.failure, Diagnostic.errorCount run.diagnostics,
        run.diagnostics.map Listing.toolName)) = .ok ("shell", none, 0, ["[/x]"]) := by
    decide +kernel
  cases hprepare : ofScript.prepare .closing with
  | error refusal =>
      rw [hprepare] at hfacts
      cases hfacts
  | ok prepared =>
      obtain ⟨setup, language⟩ := prepared
      rw [hprepare] at hfacts
      simp only [Except.map, Except.ok.injEq, Prod.mk.injEq] at hfacts
      obtain ⟨rfl, hfacts⟩ := hfacts
      exact ⟨setup, rfl, hfacts⟩

theorem LintRequest.closing_exits : (ofScript.run .closing).ending = .exited .ok := by
  obtain ⟨setup, hprepare, hfailure, herrors, -⟩ := closing_run
  rw [ended_of_prepare (by decide) hprepare, endingOf, hfailure, herrors]
  rfl

theorem Surroundings.closing_registry : ∃ registry, Surroundings.closing.registry none = .ok registry ∧
    ∀ texts ∈ [registry.languageTexts, registry.adapters.map Adapter.name],
      (texts.contains "[/x]" && texts.all fun t => t == "[/x]" || !t.toList.contains '[') = true := by
  have hfacts : (Surroundings.closing.registry none).map (fun registry =>
      [registry.languageTexts, registry.adapters.map Adapter.name].all fun texts =>
        texts.contains "[/x]" && texts.all fun t => t == "[/x]" || !t.toList.contains '[') = .ok true := by
    decide +kernel
  cases hregistry : Surroundings.closing.registry none with
  | error failure =>
      rw [hregistry] at hfacts
      cases hfacts
  | ok registry =>
      rw [hregistry] at hfacts
      exact ⟨registry, rfl, List.all_eq_true.mp (Except.ok.inj hfacts)⟩

theorem Surroundings.closing_tables :
    Surroundings.closing.printer.Documented ∧ (LintRequest.ofScript.run .closing).ending = .exited .ok ∧
      ({ LintRequest.ofScript with output := .pretty }.run .closing).ending =
        .escaped (.unprinted .unbalancedMarkup) ∧
      ∃ registry, Surroundings.closing.registry none = .ok registry ∧
        (Request.run .closing (.languages none)).ending = .escaped (.unprinted .unbalancedMarkup) ∧
        (Request.run .closing (.adapters none)).ending = .escaped (.unprinted .unbalancedMarkup) := by
  have hprinter := Printer.documented_terminal 80
  obtain ⟨hlints, hlists, -⟩ := Surroundings.closing.tables_shown hprinter
  have htext := LintRequest.closing_exits
  obtain ⟨setup, hprepare, -, -, hnames⟩ := LintRequest.closing_run
  obtain ⟨setup', language, hprepare', -, hpretty, -⟩ := hlints LintRequest.ofScript .ok (Or.inl rfl) htext
  rw [hprepare] at hprepare'
  obtain ⟨rfl, rfl⟩ := Prod.mk.inj (Except.ok.inj hprepare')
  rw [hnames] at hpretty
  obtain ⟨registry, hregistry, htexts⟩ := Surroundings.closing_registry
  obtain ⟨hlanguages, hadapters, -⟩ := hlists none registry hregistry
  exact ⟨hprinter, htext, refused_of_closing hpretty (by decide), registry, hregistry,
    refused_of_closing hlanguages (htexts _ (by simp)),
    refused_of_closing hadapters (htexts _ (by simp))⟩

/-- Tables are not always shown where single lines are. -/
theorem Surroundings.tables_not_shown :
    ¬ ∀ (r : LintRequest) (s : Surroundings) (registry : Registry) (status : Exit),
      s.printer.Documented → s.registry r.config = .ok registry →
      status = .ok ∨ status = .diagnosticErrors →
      ({ r with output := .text }.run s).ending = .exited status →
      ({ r with output := .pretty }.run s).ending = .exited status := by
  intro h
  have hprinter : Surroundings.closing.printer.Documented := Printer.documented_terminal 80
  obtain ⟨setup, hprepare, -, -, hnames⟩ := LintRequest.closing_run
  have hshown := h LintRequest.ofScript .closing setup.registry .ok hprinter
    (LintRequest.registry_of_prepare hprepare) (Or.inl rfl) LintRequest.closing_exits
  have hends : EndsBy ((setup.run [] "shell" LintRequest.ofScript.place).diagnostics.map Listing.toolName)
      .ok ({ LintRequest.ofScript with output := .pretty }.run .closing).ending :=
    LintRequest.pretty_ending (r := { LintRequest.ofScript with output := .pretty }) hprinter rfl hprepare
      (Or.inl rfl) LintRequest.closing_exits
  rw [hnames] at hends
  have hrefused := refused_of_closing hends (by decide)
  rw [hshown] at hrefused
  cases hrefused

end Cli

end LintRunner
