import Mathlib.Algebra.GroupWithZero.Nat
import Mathlib.Data.List.Induction
import LintRunner.Listing
import LintRunner.Proofs.Ordered

/-!
# Groups by file

Diagnostics are grouped by their files without loss: each file comes once, in the order of its first
diagnostic, with all of its diagnostics in their order (`Diagnostic.Grouped`). Groups that are put one
behind the other and grouped again are the groups that they were (`Ordered.pushAll_flatMap`), and what a
summary counts can be counted in the groups as well as in the whole (`Diagnostic.byFile_grouped`).
-/

set_option autoImplicit false

namespace LintRunner

open Text

/-! ## Groups by a key -/

namespace Ordered

variable {κ β : Type} [BEq κ]

def pushAll (key : β → κ) (table : List (κ × List β)) (items : List β) : List (κ × List β) :=
  items.foldl (fun table item => push (key item) item table) table

theorem pushAll_concat (key : β → κ) (table : List (κ × List β)) (items : List β) (item : β) :
    pushAll key table (items ++ [item]) = push (key item) item (pushAll key table items) := by
  rw [pushAll, List.foldl_append]
  rfl

theorem pushAll_append (key : β → κ) (table : List (κ × List β)) (items more : List β) :
    pushAll key table (items ++ more) = pushAll key (pushAll key table items) more :=
  List.foldl_append

/-- A value that is kept is one more value in the table, whatever its key. -/
theorem flatMap_push_perm (key : κ) (value : β) (table : List (κ × List β)) :
    ((push key value table).flatMap Prod.snd).Perm (value :: table.flatMap Prod.snd) := by
  induction table with
  | nil => exact List.Perm.refl _
  | cons entry rest ih =>
      rw [push]
      split
      · rw [List.flatMap_cons, List.flatMap_cons, List.append_assoc]
        exact List.perm_middle
      · rw [List.flatMap_cons, List.flatMap_cons]
        exact (ih.append_left entry.2).trans List.perm_middle

/-- **Nothing gets lost and nothing comes twice.** -/
theorem flatMap_pushAll_perm (key : β → κ) (items : List β) :
    ((pushAll key [] items).flatMap Prod.snd).Perm items := by
  induction items using List.reverseRecOn with
  | nil => exact List.Perm.refl _
  | append_singleton items item ih =>
      rw [pushAll_concat]
      have hstep := flatMap_push_perm (key item) item (pushAll key [] items)
      exact (hstep.trans (ih.cons item)).trans (List.perm_append_singleton item items).symm

variable [LawfulBEq κ]

/-! ### The order of keys -/

/-- One more item is a new one at the end or changes nothing. -/
theorem eraseDups_concat (keys : List κ) (key : κ) :
    (keys ++ [key]).eraseDups = if key ∈ keys then keys.eraseDups else keys.eraseDups ++ [key] := by
  rw [List.eraseDups_append]
  by_cases h : key ∈ keys
  · simp [List.removeAll, h]
  · simp [List.removeAll, h, List.eraseDups_cons]

/-- What is left without repetitions comes in the order of first occurrences. -/
theorem pairwise_eraseDups (keys : List κ) :
    keys.eraseDups.Pairwise fun a b => keys.idxOf a < keys.idxOf b := by
  induction keys using List.reverseRecOn with
  | nil => exact List.Pairwise.nil
  | append_singleton keys key ih =>
      -- a first occurrence stays where it is when another item is appended
      have hstays : ∀ a ∈ keys.eraseDups, (keys ++ [key]).idxOf a = keys.idxOf a :=
        fun a ha => List.idxOf_append_of_mem (List.mem_eraseDups.mp ha)
      have hbefore : keys.eraseDups.Pairwise fun a b =>
          (keys ++ [key]).idxOf a < (keys ++ [key]).idxOf b := by
        refine ih.imp_of_mem fun {a b} ha hb h => ?_
        rwa [hstays a ha, hstays b hb]
      rw [eraseDups_concat]
      split
      · exact hbefore
      · rename_i hnew
        refine List.pairwise_append.mpr ⟨hbefore, List.pairwise_singleton _ _, ?_⟩
        intro a ha b hb
        obtain rfl := List.mem_singleton.mp hb
        have hlast : (keys ++ [b]).idxOf b = keys.length := by
          simp [List.idxOf_append_of_notMem hnew]
        rw [hstays a ha, hlast]
        exact List.idxOf_lt_length_iff.mpr (List.mem_eraseDups.mp ha)

theorem nodup_eraseDups (keys : List κ) : keys.eraseDups.Nodup :=
  (pairwise_eraseDups keys).imp fun h heq => absurd h (by rw [heq]; exact Nat.lt_irrefl _)

/-! ### What is kept for each key -/

/-- A value is put behind those of its key in a table that keeps some list for each of its keys. A key that
is not there has no values yet. -/
theorem push_map {keys : List κ} {kept : κ → List β} {key : κ} (hkeys : keys.Nodup)
    (hkept : key ∉ keys → kept key = []) (value : β) :
    push key value (keys.map fun k => (k, kept k))
      = (if key ∈ keys then keys else keys ++ [key]).map fun k =>
          (k, if k == key then kept k ++ [value] else kept k) := by
  induction keys with
  | nil =>
      have hnone : kept key = [] := hkept List.not_mem_nil
      simp [push, hnone]
  | cons first keys ih =>
      obtain ⟨hfirst, hrest⟩ := List.nodup_cons.mp hkeys
      rw [List.map_cons, push]
      by_cases h : first = key
      · subst h
        -- the keys behind the first one are others
        have hothers : keys.map (fun k => (k, if k == first then kept k ++ [value] else kept k))
            = keys.map fun k => (k, kept k) := by
          refine List.map_congr_left fun k hk => ?_
          have hne : k ≠ first := fun heq => hfirst (heq ▸ hk)
          simp [hne]
        simp [hothers]
      · have hmem : key ∈ first :: keys ↔ key ∈ keys := by
          simp [Ne.symm h]
        have hlater := ih hrest fun hnot => hkept (mt hmem.mp hnot)
        have hdifferent : (first == key) = false := beq_eq_false_iff_ne.mpr h
        simp only [hdifferent, Bool.false_eq_true, if_false]
        rw [hlater]
        by_cases hkey : key ∈ keys
        · simp [hkey, hdifferent]
        · simp [hkey, h, Ne.symm h]

/-- **Each key comes once, in the order of first occurrences, with its values in their order.** -/
theorem pushAll_eq (key : β → κ) (items : List β) :
    pushAll key [] items
      = (items.map key).eraseDups.map fun k => (k, items.filter fun item => key item == k) := by
  -- from the end, since the table grows by the last item
  induction items using List.reverseRecOn with
  | nil => rfl
  | append_singleton items item ih =>
      have hkept : key item ∉ (items.map key).eraseDups →
          items.filter (fun other => key other == key item) = [] := by
        intro hnew
        rw [List.filter_eq_nil_iff]
        intro other hother heq
        refine hnew (List.mem_eraseDups.mpr ?_)
        rw [← eq_of_beq heq]
        exact List.mem_map_of_mem hother
      rw [pushAll_concat, ih, push_map (nodup_eraseDups _) hkept, List.map_append, List.map_singleton,
        eraseDups_concat]
      simp only [List.mem_eraseDups]
      refine List.map_congr_left fun k _ => ?_
      by_cases h : k = key item
      · simp [h]
      · have hne : (key item == k) = false := beq_eq_false_iff_ne.mpr (Ne.symm h)
        simp [h, hne]

/-! ### Groups of groups -/

theorem push_append {key : κ} {table : List (κ × List β)} (h : key ∉ keys table) (value : β)
    (rest : List (κ × List β)) : push key value (table ++ rest) = table ++ push key value rest := by
  induction table with
  | nil => rfl
  | cons entry table ih =>
      rw [keys, List.map_cons, List.mem_cons, not_or] at h
      have hdifferent : ¬ (entry.1 == key) = true := by simpa using fun heq => h.1 heq.symm
      rw [List.cons_append, push, if_neg hdifferent, ih h.2]
      rfl

/-- Values of one new key are the group of that key. -/
theorem pushAll_of_key {key : β → κ} {k : κ} {table : List (κ × List β)} {items : List β}
    (hnew : k ∉ keys table) (hne : items ≠ []) (hkey : ∀ item ∈ items, key item = k) :
    pushAll key table items = table ++ [(k, items)] := by
  induction items using List.reverseRecOn with
  | nil => exact absurd rfl hne
  | append_singleton items item ih =>
      simp only [List.forall_mem_append, List.forall_mem_singleton] at hkey
      obtain ⟨hitems, rfl⟩ := hkey
      rw [pushAll_concat]
      by_cases hfirst : items = []
      · subst hfirst
        show push (key item) item table = _
        have hpush := push_append hnew item []
        rwa [List.append_nil] at hpush
      · rw [ih hfirst hitems, push_append hnew]
        simp [push]

/-- **Groups are regrouped to what they are**, if none of them is empty and each holds values of its own
key only. -/
theorem pushAll_flatMap {key : β → κ} {groups : List (κ × List β)} (hkeys : (keys groups).Nodup)
    (hgroups : ∀ group ∈ groups, group.2 ≠ [] ∧ ∀ item ∈ group.2, key item = group.1) :
    pushAll key [] (groups.flatMap Prod.snd) = groups := by
  induction groups using List.reverseRecOn with
  | nil => rfl
  | append_singleton groups group ih =>
      simp only [List.forall_mem_append, List.forall_mem_singleton] at hgroups
      obtain ⟨hbefore, hne, hkey⟩ := hgroups
      rw [keys_append, List.nodup_append] at hkeys
      obtain ⟨hnodup, -, hapart⟩ := hkeys
      have hnew : group.1 ∉ keys groups := fun hmem => hapart _ hmem _ List.mem_cons_self rfl
      rw [List.flatMap_append, pushAll_append, ih hnodup hbefore, List.flatMap_singleton]
      exact pushAll_of_key hnew hne hkey

end Ordered

/-! ## Groups of diagnostics -/

namespace Diagnostic

/-- What the groups of diagnostics by their files are: every file that occurs has one group, the groups
come in the order of the first diagnostics of their files, and a group holds exactly the diagnostics of
its file, in their order. -/
structure Grouped (ds : List Diagnostic) (groups : List (String × List Diagnostic)) : Prop where
  once : (Ordered.keys groups).Nodup
  files : ∀ file, file ∈ Ordered.keys groups ↔ ∃ d ∈ ds, d.filename = file
  ordered : (Ordered.keys groups).Pairwise fun file later =>
    (ds.map filename).idxOf file < (ds.map filename).idxOf later
  group : ∀ group ∈ groups, group.2 = ds.filter fun d => d.filename == group.1

variable {ds : List Diagnostic} {groups : List (String × List Diagnostic)}

/-- No group is empty. -/
theorem Grouped.ne_nil (h : Grouped ds groups) : ∀ group ∈ groups, group.2 ≠ [] := by
  intro group hgroup
  obtain ⟨d, hd, hfile⟩ := (h.files group.1).mp (List.mem_map_of_mem hgroup)
  have hmem : d ∈ group.2 := by
    rw [h.group group hgroup, List.mem_filter]
    exact ⟨hd, beq_iff_eq.mpr hfile⟩
  exact List.ne_nil_of_mem hmem

theorem Grouped.filename_eq (h : Grouped ds groups) :
    ∀ group ∈ groups, ∀ d ∈ group.2, d.filename = group.1 := by
  intro group hgroup d hd
  rw [h.group group hgroup, List.mem_filter] at hd
  exact eq_of_beq hd.2

theorem keys_byFile (ds : List Diagnostic) :
    Ordered.keys (byFile ds) = (ds.map filename).eraseDups := by
  have heq : byFile ds = _ := Ordered.pushAll_eq filename ds
  rw [heq, Ordered.keys, List.map_map]
  exact List.map_id' _

theorem grouped_byFile (ds : List Diagnostic) : Grouped ds (byFile ds) where
  once := by
    rw [keys_byFile]
    exact Ordered.nodup_eraseDups _
  files file := by
    rw [keys_byFile, List.mem_eraseDups, List.mem_map]
  ordered := by
    rw [keys_byFile]
    exact Ordered.pairwise_eraseDups _
  group group hgroup := by
    have heq : byFile ds = _ := Ordered.pushAll_eq filename ds
    rw [heq] at hgroup
    obtain ⟨file, -, rfl⟩ := List.mem_map.mp hgroup
    rfl

/-- The diagnostics of all files are all diagnostics, each as often as before. -/
theorem flatMap_byFile_perm (ds : List Diagnostic) : ((byFile ds).flatMap Prod.snd).Perm ds :=
  Ordered.flatMap_pushAll_perm filename ds

/-! ### Counts -/

theorem sum_length_byFile (ds : List Diagnostic) :
    ((byFile ds).map fun group => group.2.length).sum = ds.length := by
  rw [← List.length_flatMap]
  exact (flatMap_byFile_perm ds).length_eq

theorem sum_errorCount_byFile (ds : List Diagnostic) :
    ((byFile ds).map fun group => errorCount group.2).sum = errorCount ds := by
  have hsum : ((byFile ds).map fun group => errorCount group.2).sum
      = ((byFile ds).flatMap Prod.snd).countP isError := List.countP_flatMap.symm
  rw [hsum]
  exact (flatMap_byFile_perm ds).countP_eq isError

theorem errorCount_eq_zero_iff (ds : List Diagnostic) : errorCount ds = 0 ↔ firstError? ds = none := by
  rw [errorCount, List.countP_eq_zero, firstError?, List.find?_eq_none]

/-- **Diagnostics are grouped by file without loss, and a summary counts what is in the groups.** Each file
has one group, in the order of first diagnostics, with exactly its diagnostics in their order, so that no
group is empty and their sizes add up. Grouping the groups once more changes nothing. The numbers of a
summary are that of the groups, the sum of their sizes, and that of the errors in all groups, which is zero
if and only if there is no first error. -/
theorem byFile_grouped (ds : List Diagnostic) :
    Grouped ds (byFile ds) ∧
    (∀ group ∈ byFile ds, group.2 ≠ []) ∧
    ((byFile ds).map fun group => group.2.length).sum = ds.length ∧
    byFile ((byFile ds).flatMap Prod.snd) = byFile ds ∧
    Listing.summary ds =
      numberText ((byFile ds).map fun group => group.2.length).sum ++ " diagnostic(s) in " ++
        numberText (byFile ds).length ++ " file(s), " ++
        numberText ((byFile ds).map fun group => errorCount group.2).sum ++ " error(s)" ∧
    (((byFile ds).map fun group => errorCount group.2).sum = 0 ↔ firstError? ds = none) := by
  have hgrouped := grouped_byFile ds
  have hregrouped : byFile ((byFile ds).flatMap Prod.snd) = byFile ds :=
    Ordered.pushAll_flatMap hgrouped.once fun group hgroup =>
      ⟨hgrouped.ne_nil group hgroup, hgrouped.filename_eq group hgroup⟩
  refine ⟨hgrouped, hgrouped.ne_nil, sum_length_byFile ds, hregrouped, ?_, ?_⟩
  · rw [sum_length_byFile, sum_errorCount_byFile]
    rfl
  · rw [sum_errorCount_byFile]
    exact errorCount_eq_zero_iff ds

end Diagnostic

end LintRunner
