import LintRunner.Proofs.Format.Positions
import LintRunner.Proofs.Json
import LintRunner.Proofs.Ordered
import LintRunner.Proofs.Results
import LintRunner.Report.Check

/-!
# Listings as documents

A listing as a document of JSON loses nothing (`Listing.json_lossless`): it is read as a list of tables, one
for each diagnostic, and the diagnostics pass their check as they were. So the lines of a listing can be
had from its document. There is none if a position has too many digits to be written.
-/

set_option autoImplicit false

namespace LintRunner

/-! ## Checks that are passed -/

namespace Checked

variable {α β : Type} {entries : List (String × Value)} {name : String} {value : Value} {a : α}
  {check : Value → Checked α}

theorem required_of_lookup (hlookup : entries.lookup name = some value) (hcheck : check value = .ok a) :
    required entries name check = .ok a := by
  simp only [required, hlookup, hcheck]
  rfl

theorem optional_of_lookup {default : α} (hlookup : entries.lookup name = some value)
    (hcheck : check value = .ok a) : optional entries name default check = .ok a := by
  simp only [optional, hlookup, hcheck]
  rfl

theorem wholeFrom_int {least n : Nat} (h : least ≤ n) : wholeFrom least (.int n) = .ok ⟨n, h⟩ :=
  dif_pos (show least ≤ (n : Int).toNat ∧ 0 ≤ (n : Int) from ⟨h, Int.natCast_nonneg n⟩)

/-- A list is checked item by item. -/
theorem itemsFrom_map {toValue : β → Value} {check : Value → Checked β}
    (h : ∀ b, check (toValue b) = .ok b) (index : Nat) (bs : List β) :
    itemsFrom check index (bs.map toValue) = .ok bs := by
  induction bs generalizing index with
  | nil => rfl
  | cons b bs ih =>
      rw [List.map_cons, itemsFrom, h, ih]
      rfl

end Checked

/-! ## Diagnostics as tables -/

def optionalValue {α : Type} (toValue : α → Value) (a : Option α) : Value := (a.map toValue).getD .null

namespace Diagnostic

def members (d : Diagnostic) : List (String × Value) :=
  [("filename", .string d.filename),
    ("line", .int d.line),
    ("column", optionalValue (fun column => .int (column : Nat)) d.column),
    ("message", .string d.message),
    ("severity", .string d.severity.name),
    ("code", optionalValue .string d.code),
    ("tool", optionalValue .string d.tool)]

theorem keys_members (d : Diagnostic) : Ordered.keys d.members =
    ["filename", "line", "column", "message", "severity", "code", "tool"] := rfl

/-- The document of a diagnostic stands for these members. -/
theorem value_toJson (d : Diagnostic) : d.toJson.value = .table d.members := by
  have hoptional : ∀ {α : Type} (toJson : α → Json) (toValue : α → Value) (a : Option α),
      (∀ a, (toJson a).value = toValue a) → (optionalJson toJson a).value = optionalValue toValue a := by
    intro α toJson toValue a h
    cases a with
    | none => rfl
    | some a => exact h a
  have hnodup : (Ordered.keys d.members).Nodup := by
    rw [keys_members]
    decide
  rw [toJson, Json.value, ← Ordered.ofList_of_nodup hnodup]
  refine congrArg (fun entries => Value.table (Ordered.ofList entries)) ?_
  simp only [Json.memberValues, Json.value, members]
  rw [hoptional .number (fun column => .int (column : Nat)) d.column fun _ => rfl,
    hoptional .string .string d.code fun _ => rfl, hoptional .string .string d.tool fun _ => rfl]

theorem isWritable_toJson (d : Diagnostic) : d.toJson.isWritable = d.isWritable := by
  have hstring : ∀ text : Option String, (optionalJson .string text).isWritable = true := by
    intro text
    cases text <;> rfl
  have hcolumn : (optionalJson .number d.column).isWritable = d.column.all Text.isWritable := by
    cases d.column <;> simp [optionalJson, Json.isWritable]
  simp [toJson, isWritable, Json.isWritable, Json.membersWritable, hstring, hcolumn]

/-- **The members of a diagnostic pass the check of diagnostics as that diagnostic.** -/
theorem check_members (d : Diagnostic) : check (.table d.members) = .ok d := by
  have hcolumn : Checked.nullable Checked.natural
      (optionalValue (fun column => .int (column : Nat)) d.column) = .ok d.column := by
    cases d.column with
    | none => rfl
    | some column =>
        show some <$> Subtype.val <$> Checked.wholeFrom 0 (.int (column : Nat)) = .ok (some column)
        rw [Checked.wholeFrom_int (Nat.zero_le column)]
        rfl
  have hstring : ∀ text : String, Checked.string (.string text) = .ok text := fun _ => rfl
  have htext : ∀ text : Option String,
      Checked.nullable Checked.string (optionalValue .string text) = .ok text := by
    intro text
    cases text <;> rfl
  have hline : Checked.positive (.int d.line) = .ok ⟨d.line, d.line_pos⟩ :=
    Checked.wholeFrom_int d.line_pos
  have hseverity : Checked.word .enum Severity.ofName? (.string d.severity.name) = .ok d.severity := by
    have hname : Severity.ofName? d.severity.name = some d.severity := by cases d.severity <;> decide
    simp only [Checked.word, hname]
  rw [check, Checked.record,
    Checked.required_of_lookup (show d.members.lookup "filename" = _ from rfl) (hstring d.filename),
    Checked.required_of_lookup (show d.members.lookup "line" = _ from rfl) hline,
    Checked.optional_of_lookup (show d.members.lookup "column" = _ from rfl) hcolumn,
    Checked.required_of_lookup (show d.members.lookup "message" = _ from rfl) (hstring d.message),
    Checked.required_of_lookup (show d.members.lookup "severity" = _ from rfl) hseverity,
    Checked.optional_of_lookup (show d.members.lookup "code" = _ from rfl) (htext d.code),
    Checked.optional_of_lookup (show d.members.lookup "tool" = _ from rfl) (htext d.tool)]
  rfl

end Diagnostic

namespace Listing

/-- Reads the document of a listing: diagnostics that pass their check. -/
def read? (text : String) : Option (List Diagnostic) :=
  (Json.read? text).bind fun value =>
    match Checked.list Diagnostic.check value with
    | .ok ds => some ds
    | .bad _ => none

theorem itemValues_toJson (ds : List Diagnostic) :
    Json.itemValues (ds.map Diagnostic.toJson) = ds.map fun d => .table d.members := by
  induction ds with
  | nil => rfl
  | cons d ds ih => rw [List.map_cons, Json.itemValues, ih, d.value_toJson, List.map_cons]

theorem isWritable_array (ds : List Diagnostic) :
    (Json.array (ds.map Diagnostic.toJson)).isWritable = ds.all Diagnostic.isWritable := by
  rw [Json.isWritable]
  induction ds with
  | nil => rfl
  | cons d ds ih => rw [List.map_cons, Json.itemsWritable, ih, d.isWritable_toJson, List.all_cons]

theorem json_of_isWritable {ds : List Diagnostic} (h : ∀ d ∈ ds, d.isWritable = true) :
    json ds = .ok (Json.array (ds.map Diagnostic.toJson)).text := by
  rw [json, Json.write, if_pos]
  rw [isWritable_array, List.all_eq_true]
  exact h

theorem mapM_writeLine {ds : List Diagnostic} (h : ∀ d ∈ ds, d.isWritable = true) :
    ds.mapM Diagnostic.writeLine = .ok (ds.map Diagnostic.asLine) :=
  mapM_of_forall fun d hd => by rw [Diagnostic.writeLine, if_pos (h d hd)]

/-- **A listing as a document loses nothing.** If a line or a column has too many digits, there is neither a
document nor a line for it. Otherwise there is a document in ASCII, which is read as a list of tables that
have the members of the diagnostics, each of which passes the check as the diagnostic that it was. So the
diagnostics come back, and the lines that they are listed in. -/
theorem json_lossless (ds : List Diagnostic) :
    (∀ d ∈ ds, d.isWritable = false →
      d.writeLine = .error (.digitLimit none) ∧ json ds = .error (.digitLimit none)) ∧
    ((∀ d ∈ ds, d.isWritable = true) → ∃ text, json ds = .ok text ∧
      (∀ c ∈ text.toList, c.toNat < 128) ∧
      Json.read? text = some (.list (ds.map fun d => .table d.members)) ∧ read? text = some ds ∧
      (read? text).map (List.mapM Diagnostic.writeLine) = some (.ok (ds.map Diagnostic.asLine))) ∧
    ∀ d : Diagnostic, Diagnostic.check (.table d.members) = .ok d := by
  refine ⟨fun d hd hlong => ?_, fun hwritable => ?_, Diagnostic.check_members⟩
  · have hnone : ¬ ds.all Diagnostic.isWritable = true := by
      rw [List.all_eq_true]
      intro hall
      have hshort := hall d hd
      simp [hlong] at hshort
    constructor
    · simp [Diagnostic.writeLine, hlong]
    · rw [json, Json.write, isWritable_array, if_neg hnone]
  · have hall : (Json.array (ds.map Diagnostic.toJson)).isWritable = true := by
      rw [isWritable_array, List.all_eq_true]
      exact hwritable
    have hread : Json.read? (Json.array (ds.map Diagnostic.toJson)).text =
        some (.list (ds.map fun d => .table d.members)) := by
      rw [Json.read?_text hall, Json.value, itemValues_toJson]
    have hdecoded : read? (Json.array (ds.map Diagnostic.toJson)).text = some ds := by
      rw [read?, hread, Option.bind_some, Checked.list, Checked.itemsFrom_map Diagnostic.check_members]
    refine ⟨_, json_of_isWritable hwritable, fun c hc => ?_, hread, hdecoded,
      by rw [hdecoded, Option.map_some, mapM_writeLine hwritable]⟩
    rw [Json.text, String.toList_ofList] at hc
    have hplain := Json.isTextChar_of_mem_render 0 _ c hc
    rw [Json.IsTextChar] at hplain
    omega

def inColumn (n : Nat) : Diagnostic where
  filename := "a"
  line := 1
  column := some n
  message := "\"é\n"
  severity := .info
  line_pos := Nat.one_pos

theorem isWritable_inColumn (n : Nat) : (inColumn n).isWritable = true ↔ n < 10 ^ Text.maxDigits := by
  rw [← Text.isWritable_iff_lt]
  have hline : Text.isWritable 1 = true := Text.isWritable_of_lt (by decide)
  simp [inColumn, Diagnostic.isWritable, hline]

theorem json_inColumn :
    json [inColumn 2, inColumn (10 ^ Text.maxDigits)] = .error (.digitLimit none) ∧
      ∃ text, json [inColumn 2] = .ok text ∧ read? text = some [inColumn 2] := by
  have hlong : (inColumn (10 ^ Text.maxDigits)).isWritable = false := by
    rw [← Bool.not_eq_true, isWritable_inColumn]
    exact Nat.lt_irrefl _
  have hshort : (inColumn 2).isWritable = true := by
    rw [isWritable_inColumn, ← Text.isWritable_iff_lt]
    exact Text.isWritable_of_lt (by decide)
  obtain ⟨-, hwritten, -⟩ := json_lossless [inColumn 2]
  obtain ⟨text, hjson, -, -, hread, -⟩ := hwritten (by simpa using hshort)
  exact ⟨((json_lossless _).1 _ (by simp) hlong).2, text, hjson, hread⟩

/-- Not every listing has a document that it can be read from. -/
theorem json_not_total :
    ¬ ∀ ds : List Diagnostic, ∃ text, json ds = .ok text ∧ read? text = some ds := by
  intro h
  obtain ⟨text, hjson, -⟩ := h [inColumn (10 ^ Text.maxDigits)]
  rw [json, Json.write, if_neg] at hjson
  · cases hjson
  · rw [isWritable_array, List.all_cons, Bool.and_eq_true, isWritable_inColumn]
    exact fun hall => Nat.lt_irrefl _ hall.1

end Listing

end LintRunner
