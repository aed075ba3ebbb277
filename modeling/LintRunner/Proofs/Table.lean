import LintRunner.Proofs.Listing.Grouping
import LintRunner.Proofs.Markup
import LintRunner.Proofs.Results
import LintRunner.Proofs.Text.Digits
import LintRunner.Table

/-!
# Printers

What a printer of sheets is relied on for (`Printer.Documented`): it shows a sheet if no tag begins in the
texts that it reads as markup, and refuses it for a text that closes what nothing has opened. The printer for
terminals is such a printer (`Printer.documented_terminal`). What follows for diagnostics as tables is that
the names of their tools decide on whether they are shown (`Listing.pretty_decides`), if lines and columns can
be written.
-/

set_option autoImplicit false

namespace LintRunner

open Markup Text

/-- What is relied on of a printer: texts without tags are shown, as are texts that are no markup, and a
closing tag where nothing is open is refused. -/
structure Printer.Documented (print : Printer) : Prop where
  shown : ∀ sheet : Sheet, (∀ s ∈ sheet.marked, Untagged s.toList) → ∃ text, print sheet = .ok text
  refused : ∀ sheet : Sheet, (∃ s ∈ sheet.marked, Unmatched s.toList) →
    (∀ s ∈ sheet.marked, Untagged s.toList ∨ Unmatched s.toList) →
    print sheet = .error .unbalancedMarkup

/-! ## Terminals -/

namespace Table

variable {s : String}

theorem readMarked_of_untagged (h : Untagged s.toList) : ∃ cs, readMarked s = .ok cs := by
  obtain ⟨cs, hcs⟩ := exists_read?_of_untagged h
  exact ⟨audible cs, by rw [readMarked, hcs]⟩

theorem readMarked_of_unmatched (h : Unmatched s.toList) : readMarked s = .error .unbalancedMarkup := by
  rw [readMarked, read?_of_unmatched h]

theorem readMarked_error {problem : PrintProblem} (h : readMarked s = .error problem) :
    problem = .unbalancedMarkup := by
  rw [readMarked] at h
  split at h
  · cases h
  · exact (Except.error.inj h).symm

theorem Cell.read_error {cell : Cell} {problem : PrintProblem} (h : cell.read = .error problem) :
    problem = .unbalancedMarkup ∧ ∃ s, cell = .marked s ∧ readMarked s = .error .unbalancedMarkup := by
  cases cell with
  | plain s => cases h
  | marked s =>
      obtain rfl := readMarked_error h
      exact ⟨rfl, s, rfl, h⟩

variable {table : Table} {screen : Nat}

theorem mem_marked : s ∈ (Sheet.table table).marked ↔ ∃ row ∈ table.rows, .marked s ∈ row := by
  simp only [Sheet.marked, List.mem_filterMap, List.mem_flatten]
  constructor
  · rintro ⟨cell, ⟨row, hrow, hcell⟩, hmarked⟩
    cases cell with
    | plain s => cases hmarked
    | marked s' =>
        obtain rfl := Option.some.inj hmarked
        exact ⟨row, hrow, hcell⟩
  · rintro ⟨row, hrow, hcell⟩
    exact ⟨.marked s, ⟨row, hrow, hcell⟩, rfl⟩

/-- A table fails for the markup of one of its cells, and for nothing else. -/
theorem text_error {problem : PrintProblem} (h : table.text screen = .error problem) :
    problem = .unbalancedMarkup ∧
      ∃ s ∈ (Sheet.table table).marked, readMarked s = .error .unbalancedMarkup := by
  rcases bind_error h with h | ⟨cells, -, h⟩
  · obtain ⟨row, hrow, h⟩ := mapM_error h
    obtain ⟨cell, hcell, h⟩ := mapM_error h
    obtain ⟨hproblem, s, rfl, hread⟩ := Cell.read_error h
    exact ⟨hproblem, s, mem_marked.mpr ⟨row, hrow, hcell⟩, hread⟩
  · cases h

theorem exists_readMarked_of_text {shown : String} (h : table.text screen = .ok shown) :
    ∀ s ∈ (Sheet.table table).marked, ∃ cs, readMarked s = .ok cs := by
  obtain ⟨cells, hcells, -⟩ := bind_eq_ok.mp h
  intro s hs
  obtain ⟨row, hrow, hcell⟩ := mem_marked.mp hs
  obtain ⟨read, hread⟩ := exists_of_mapM hcells row hrow
  exact exists_of_mapM hread _ hcell

end Table

theorem Printer.terminal_error {screen : Nat} {sheet : Sheet} {problem : PrintProblem}
    (h : terminal screen sheet = .error problem) : problem = .unbalancedMarkup ∧
      ∃ s ∈ sheet.marked, Table.readMarked s = .error .unbalancedMarkup := by
  cases sheet with
  | table t => exact Table.text_error h
  | line s =>
      rcases bind_error h with h | ⟨cs, -, h⟩
      · obtain rfl := Table.readMarked_error h
        exact ⟨rfl, s, List.mem_singleton_self s, h⟩
      · cases h

theorem Printer.exists_readMarked_of_terminal {screen : Nat} {sheet : Sheet} {shown : String}
    (h : terminal screen sheet = .ok shown) : ∀ s ∈ sheet.marked, ∃ cs, Table.readMarked s = .ok cs := by
  cases sheet with
  | table t => exact Table.exists_readMarked_of_text h
  | line s =>
      obtain ⟨cs, hcs, -⟩ := bind_eq_ok.mp h
      intro s' hs'
      obtain rfl := List.mem_singleton.mp hs'
      exact ⟨cs, hcs⟩

/-- **The printer for terminals does what is relied on.** -/
theorem Printer.documented_terminal (screen : Nat) : (terminal screen).Documented where
  shown sheet huntagged := by
    cases hprint : terminal screen sheet with
    | ok text => exact ⟨text, rfl⟩
    | error problem =>
        obtain ⟨-, s, hs, hread⟩ := terminal_error hprint
        obtain ⟨cs, hcs⟩ := Table.readMarked_of_untagged (huntagged s hs)
        rw [hcs] at hread
        cases hread
  refused sheet hex _ := by
    obtain ⟨s, hs, hunmatched⟩ := hex
    cases hprint : terminal screen sheet with
    | ok text =>
        obtain ⟨cs, hcs⟩ := exists_readMarked_of_terminal hprint s hs
        rw [Table.readMarked_of_unmatched hunmatched] at hcs
        cases hcs
    | error problem => rw [(terminal_error hprint).1]

/-! ## Sheets one after the other -/

namespace Listing

variable {print : Printer}

section

variable {sheets : List (Except Failure Sheet)}

theorem printAll_failure_eq_none : (printAll print sheets).2 = none ↔
    ∀ sheet ∈ sheets, ∃ text, printOne print sheet = .ok text := by
  induction sheets with
  | nil => simp [printAll]
  | cons sheet rest ih =>
      rw [printAll, List.forall_mem_cons, ← ih]
      cases printOne print sheet <;> simp

theorem exists_of_printAll_failure {failure : Failure} (h : (printAll print sheets).2 = some failure) :
    ∃ sheet ∈ sheets, printOne print sheet = .error failure := by
  induction sheets with
  | nil => cases h
  | cons sheet rest ih =>
      rw [printAll] at h
      cases hprint : printOne print sheet with
      | error failure' =>
          simp only [hprint] at h
          obtain rfl := Option.some.inj h
          exact ⟨sheet, List.mem_cons_self, hprint⟩
      | ok text =>
          simp only [hprint] at h
          obtain ⟨later, hlater, hfailure⟩ := ih h
          exact ⟨later, List.mem_cons_of_mem _ hlater, hfailure⟩

/-- Sheets that fail in one way only fail in that way. -/
theorem printAll_failure_eq_some {failure : Failure}
    (hex : ∃ sheet ∈ sheets, printOne print sheet = .error failure)
    (hall : ∀ sheet ∈ sheets, ∀ failure', printOne print sheet = .error failure' → failure' = failure) :
    (printAll print sheets).2 = some failure := by
  cases hfailure : (printAll print sheets).2 with
  | none =>
      obtain ⟨sheet, hsheet, herror⟩ := hex
      obtain ⟨text, htext⟩ := printAll_failure_eq_none.mp hfailure sheet hsheet
      rw [herror] at htext
      cases htext
  | some failure' =>
      obtain ⟨sheet, hsheet, herror⟩ := exists_of_printAll_failure hfailure
      rw [hall sheet hsheet failure' herror]

end

theorem printOne_ok (print : Printer) (sheet : Sheet) :
    printOne print (.ok sheet) = (print sheet).mapError .unprinted := rfl

/-! ## Diagnostics as tables -/

/-- Numbers and the summary hold no brackets. -/
theorem bracket_not_mem_numberText (n : Nat) : '[' ∉ (numberText n).toList := by
  rw [numberText, String.toList_ofList]
  exact fun h => absurd (isAsciiDigit_of_mem_digits h) (by decide)

theorem bracket_not_mem_summary (ds : List Diagnostic) : '[' ∉ (summary ds).toList := by
  simp [summary, String.toList_append, bracket_not_mem_numberText]

theorem row_of_isWritable {d : Diagnostic} (h : d.isWritable = true) : row d = .ok (cells d) := by
  rw [row, if_pos h]

theorem row_error {d : Diagnostic} {failure : Failure} (h : row d = .error failure) :
    failure = .digitLimit none := by
  rw [row] at h
  split at h
  · cases h
  · exact (Except.error.inj h).symm

variable {filename : String} {ds : List Diagnostic}

theorem fileTable_of_isWritable (filename : String) (h : ∀ d ∈ ds, d.isWritable = true) :
    fileTable filename ds =
      .ok { frame := Table.Frame.open, title := filename, columns, rows := ds.map cells } := by
  have hrows : ds.mapM row = .ok (ds.map cells) := mapM_of_forall fun d hd => row_of_isWritable (h d hd)
  rw [fileTable, hrows]
  rfl

theorem fileTable_error {failure : Failure} (h : fileTable filename ds = .error failure) :
    failure = .digitLimit none := by
  rcases bind_error h with h | ⟨rows, -, h⟩
  · obtain ⟨d, -, hd⟩ := mapM_error h
    exact row_error hd
  · cases h

/-- A table with a position that cannot be written is not made. -/
theorem fileTable_of_not_isWritable (filename : String) {d : Diagnostic} (hd : d ∈ ds)
    (hlong : d.isWritable = false) : fileTable filename ds = .error (.digitLimit none) := by
  cases htable : fileTable filename ds with
  | error failure => rw [fileTable_error htable]
  | ok table =>
      obtain ⟨rows, hrows, -⟩ := bind_eq_ok.mp htable
      obtain ⟨found, hfound⟩ := exists_of_mapM hrows d hd
      simp [row, hlong] at hfound

/-- Of the texts of a table that are read as markup, those with brackets are names of tools. -/
theorem eq_toolName_of_mem_marked {table : Table} {s : String} (hrows : table.rows = ds.map cells)
    (hs : s ∈ (Sheet.table table).marked) : '[' ∉ s.toList ∨ ∃ d ∈ ds, s = toolName d := by
  obtain ⟨row, hrow, hcell⟩ := Table.mem_marked.mp hs
  rw [hrows, List.mem_map] at hrow
  obtain ⟨d, hd, rfl⟩ := hrow
  simp only [cells, List.mem_cons, Table.Cell.marked.injEq, reduceCtorEq, List.not_mem_nil, false_or,
    or_false] at hcell
  rcases hcell with rfl | rfl | rfl
  · exact Or.inl (bracket_not_mem_numberText d.line)
  · left
    cases d.column with
    | none => simp
    | some n => exact bracket_not_mem_numberText n
  · exact Or.inr ⟨d, hd, rfl⟩

theorem toolName_mem_marked {table : Table} {d : Diagnostic} (hrows : table.rows = ds.map cells)
    (hd : d ∈ ds) : toolName d ∈ (Sheet.table table).marked :=
  Table.mem_marked.mpr ⟨cells d, by rw [hrows]; exact List.mem_map_of_mem hd, by simp [cells]⟩

/-- The names of the tools decide on whether the table of a file is shown. -/
theorem fileTable_decides (hprinter : print.Documented) (filename : String)
    (hwritable : ∀ d ∈ ds, d.isWritable = true) :
    Decides (ds.map toolName)
      (∃ text, printOne print ((fileTable filename ds).map .table) = .ok text)
      (printOne print ((fileTable filename ds).map .table) = .error (.unprinted .unbalancedMarkup)) := by
  rw [fileTable_of_isWritable filename hwritable, Except.map, printOne_ok]
  constructor
  · intro huntagged
    rw [List.forall_mem_map] at huntagged
    obtain ⟨text, htext⟩ := hprinter.shown
      (.table { frame := Table.Frame.open, title := filename, columns, rows := ds.map cells }) (by
        intro s hs
        rcases eq_toolName_of_mem_marked rfl hs with hplain | ⟨d, hd, rfl⟩
        · exact untagged_of_not_mem hplain
        · exact huntagged d hd)
    exact ⟨text, by rw [htext, Except.mapError]⟩
  · intro hex hall
    rw [List.forall_mem_map] at hall
    rw [hprinter.refused, Except.mapError]
    · obtain ⟨s, hs, hunmatched⟩ := hex
      obtain ⟨d, hd, rfl⟩ := List.mem_map.mp hs
      exact ⟨_, toolName_mem_marked rfl hd, hunmatched⟩
    · intro s hs
      rcases eq_toolName_of_mem_marked rfl hs with hplain | ⟨d, hd, rfl⟩
      · exact Or.inl (untagged_of_not_mem hplain)
      · exact hall d hd

theorem exists_printOne_summary (hprinter : print.Documented) (ds : List Diagnostic) :
    ∃ text, printOne print (.ok (.line (summary ds))) = .ok text := by
  obtain ⟨text, htext⟩ := hprinter.shown (.line (summary ds)) (by
    intro s hs
    obtain rfl := List.mem_singleton.mp hs
    exact untagged_of_not_mem (bracket_not_mem_summary ds))
  exact ⟨text, by rw [printOne_ok, htext, Except.mapError]⟩

/-- What is printed of diagnostics are the tables of their files and the summary. -/
theorem forall_mem_sheets {p : Except Failure Sheet → Prop} : (∀ sheet ∈ Listing.sheets ds, p sheet) ↔
    (∀ group ∈ Diagnostic.byFile ds, p ((fileTable group.1 group.2).map .table)) ∧
      p (.ok (.line (summary ds))) := by
  simp only [Listing.sheets, List.forall_mem_append, List.forall_mem_map, List.forall_mem_singleton]

theorem mem_byFile {group : String × List Diagnostic} (h : group ∈ Diagnostic.byFile ds) :
    ∀ d ∈ group.2, d ∈ ds := fun _ hd =>
  (Diagnostic.flatMap_byFile_perm ds).mem_iff.mp (List.mem_flatMap.mpr ⟨group, h, hd⟩)

theorem exists_mem_byFile {d : Diagnostic} (h : d ∈ ds) : ∃ group ∈ Diagnostic.byFile ds, d ∈ group.2 :=
  List.mem_flatMap.mp ((Diagnostic.flatMap_byFile_perm ds).mem_iff.mpr h)

theorem fileTable_mem_sheets {group : String × List Diagnostic} (h : group ∈ Diagnostic.byFile ds) :
    (fileTable group.1 group.2).map .table ∈ Listing.sheets ds :=
  List.mem_append_left _ (List.mem_map_of_mem h)

/-- **The names of the tools decide on whether diagnostics are shown as tables**, whatever the files, codes
and messages are. -/
theorem pretty_decides (hprinter : print.Documented) (hwritable : ∀ d ∈ ds, d.isWritable = true) :
    Decides (ds.map toolName) ((pretty print ds).2 = none)
      ((pretty print ds).2 = some (.unprinted .unbalancedMarkup)) := by
  have hgroup : ∀ group ∈ Diagnostic.byFile ds, Decides (group.2.map toolName) _ _ :=
    fun group hgroup => fileTable_decides hprinter group.1 fun d hd => hwritable d (mem_byFile hgroup d hd)
  constructor
  · intro huntagged
    rw [List.forall_mem_map] at huntagged
    rw [pretty, printAll_failure_eq_none, forall_mem_sheets]
    refine ⟨fun group hmem => (hgroup group hmem).shown ?_, exists_printOne_summary hprinter ds⟩
    rw [List.forall_mem_map]
    exact fun d hd => huntagged d (mem_byFile hmem d hd)
  · intro hex hall
    rw [List.forall_mem_map] at hall
    have hgroupall : ∀ group ∈ Diagnostic.byFile ds, ∀ s ∈ group.2.map toolName,
        Untagged s.toList ∨ Unmatched s.toList := by
      intro group hmem
      rw [List.forall_mem_map]
      exact fun d hd => hall d (mem_byFile hmem d hd)
    rw [pretty]
    apply printAll_failure_eq_some
    · obtain ⟨s, hs, hunmatched⟩ := hex
      obtain ⟨d, hd, rfl⟩ := List.mem_map.mp hs
      obtain ⟨group, hmem, hd⟩ := exists_mem_byFile hd
      exact ⟨_, fileTable_mem_sheets hmem,
        (hgroup group hmem).refused ⟨_, List.mem_map_of_mem hd, hunmatched⟩ (hgroupall group hmem)⟩
    · rw [forall_mem_sheets]
      constructor
      · intro group hmem failure herror
        by_cases htagged : ∃ s ∈ group.2.map toolName, Unmatched s.toList
        · rw [(hgroup group hmem).refused htagged (hgroupall group hmem)] at herror
          exact (Except.error.inj herror).symm
        · obtain ⟨text, htext⟩ := (hgroup group hmem).shown fun s hs =>
            (hgroupall group hmem s hs).resolve_right fun hunmatched => htagged ⟨s, hs, hunmatched⟩
          rw [htext] at herror
          cases herror
      · intro failure herror
        obtain ⟨text, htext⟩ := exists_printOne_summary hprinter ds
        rw [htext] at herror
        cases herror

theorem failure_of_mem_sheets {failure : Failure} (h : .error failure ∈ Listing.sheets ds) :
    failure = .digitLimit none := by
  rcases List.mem_append.mp h with h | h
  · obtain ⟨group, -, hgroup⟩ := List.mem_map.mp h
    cases htable : fileTable group.1 group.2 with
    | ok table =>
        rw [htable] at hgroup
        cases hgroup
    | error failure' =>
        rw [htable] at hgroup
        obtain rfl := Except.error.inj hgroup
        exact fileTable_error htable
  · cases List.mem_singleton.mp h

/-- Tables fail for a position that cannot be written, or because of the printer. -/
theorem pretty_failure {failure : Failure} (h : (pretty print ds).2 = some failure) :
    failure = .digitLimit none ∨ ∃ problem, failure = .unprinted problem := by
  obtain ⟨sheet, hsheet, hfails⟩ := exists_of_printAll_failure h
  cases sheet with
  | error failure' =>
      obtain rfl : failure' = failure := Except.error.inj hfails
      exact Or.inl (failure_of_mem_sheets hsheet)
  | ok sheet =>
      rw [printOne_ok] at hfails
      cases hprint : print sheet with
      | ok text =>
          rw [hprint] at hfails
          cases hfails
      | error problem =>
          rw [hprint] at hfails
          exact Or.inr ⟨problem, (Except.error.inj hfails).symm⟩

/-- A position that cannot be written ends the tables with a failure. -/
theorem pretty_of_not_isWritable (print : Printer) (hlong : ∃ d ∈ ds, d.isWritable = false) :
    (pretty print ds).2 ≠ none := by
  intro hnone
  obtain ⟨d, hd, hlong⟩ := hlong
  obtain ⟨group, hmem, hd⟩ := exists_mem_byFile hd
  rw [pretty, printAll_failure_eq_none] at hnone
  obtain ⟨text, htext⟩ := hnone _ (fileTable_mem_sheets hmem)
  rw [fileTable_of_not_isWritable group.1 hd hlong] at htext
  cases htext

end Listing

end LintRunner
