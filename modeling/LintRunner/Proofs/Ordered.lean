import Mathlib.Data.List.Forall2
import LintRunner.Ordered

/-!
# Laws of ordered tables

Putting entries into a table keeps its keys where they are and adds new keys behind them, in the order in
which they first come (`keys_putAll`); of several values for a key the last one counts (`lookup_putAll`).
Changes of different keys may be exchanged once the keys are known (`put_putAll`). So a table may be
changed before its keys are renamed or after that, as long as the names of the changes differ
(`putAll_rename`).
-/

set_option autoImplicit false

namespace LintRunner.Ordered

variable {κ α : Type}

/-! ## Entries -/

theorem map_of_fixed {β : Type} {f : β → β} {items : List β} (h : ∀ item ∈ items, f item = item) :
    items.map f = items := by
  have hmap : items.map f = items.map id := List.map_congr_left h
  rw [hmap, List.map_id]

/-- Lists that are related item by item become the same if their items do. -/
theorem map_eq_of_forall₂ {β γ δ : Type} {R : β → γ → Prop} {f : β → δ} {g : γ → δ} {items : List β}
    {items' : List γ} (h : List.Forall₂ R items items') (hR : ∀ item item', R item item' → g item' = f item) :
    items'.map g = items.map f := by
  induction h with
  | nil => rfl
  | cons hitem _ ih => rw [List.map_cons, List.map_cons, hR _ _ hitem, ih]

def rename (f : κ → κ) (entries : List (κ × α)) : List (κ × α) :=
  entries.map fun entry => (f entry.1, entry.2)

theorem keys_append (entries more : List (κ × α)) : keys (entries ++ more) = keys entries ++ keys more :=
  List.map_append

theorem keys_rename (f : κ → κ) (entries : List (κ × α)) :
    keys (rename f entries) = (keys entries).map f := by
  simp [keys, rename]

theorem rename_of_fixed {f : κ → κ} {entries : List (κ × α)} (h : ∀ key ∈ keys entries, f key = key) :
    rename f entries = entries :=
  map_of_fixed fun entry hentry => Prod.ext (h entry.1 (List.mem_map_of_mem hentry)) rfl

section

variable [BEq κ]

/-- A property of all values that are put into a table is one of all values in it. -/
theorem forall_mem_ofList {P : α → Prop} {entries : List (κ × α)}
    (h : ∀ entry ∈ entries, P entry.2) : ∀ entry ∈ ofList entries, P entry.2 := by
  have hput : ∀ {key : κ} {value : α} {table : List (κ × α)}, P value →
      (∀ entry ∈ table, P entry.2) → ∀ entry ∈ put key value table, P entry.2 := by
    intro key value table hvalue htable
    induction table with
    | nil => exact List.forall_mem_singleton.mpr hvalue
    | cons first table ih =>
        rw [List.forall_mem_cons] at htable
        rw [put]
        split
        · exact List.forall_mem_cons.mpr ⟨hvalue, htable.2⟩
        · exact List.forall_mem_cons.mpr ⟨htable.1, ih htable.2⟩
  have hall : ∀ {entries table : List (κ × α)}, (∀ entry ∈ entries, P entry.2) →
      (∀ entry ∈ table, P entry.2) → ∀ entry ∈ putAll table entries, P entry.2 := by
    intro entries table hentries htable
    induction entries generalizing table with
    | nil => exact htable
    | cons first entries ih =>
        rw [List.forall_mem_cons] at hentries
        exact ih hentries.2 (hput hentries.1 htable)
  exact hall h fun entry hentry => (by cases hentry)

end

variable [BEq κ] [LawfulBEq κ]

/-! ## Keys -/

/-- A key that is new comes last. -/
theorem put_of_not_mem {key : κ} {table : List (κ × α)} (h : key ∉ keys table) (value : α) :
    put key value table = table ++ [(key, value)] := by
  induction table with
  | nil => rfl
  | cons entry table ih =>
      rw [keys, List.map_cons, List.mem_cons, not_or] at h
      rw [put, if_neg (by simpa using fun heq => h.1 heq.symm), ih h.2]
      rfl

theorem keys_put_of_mem {key : κ} {table : List (κ × α)} (h : key ∈ keys table) (value : α) :
    keys (put key value table) = keys table := by
  induction table with
  | nil => cases h
  | cons entry table ih =>
      rw [put]
      split
      · rfl
      · rename_i hother
        have hmem : key ∈ keys table := by
          rcases List.mem_cons.mp h with rfl | h
          · exact absurd BEq.rfl hother
          · exact h
        show entry.1 :: keys (put key value table) = entry.1 :: keys table
        rw [ih hmem]

theorem mem_keys_put {key key' : κ} {value : α} {table : List (κ × α)} :
    key' ∈ keys (put key value table) ↔ key' ∈ keys table ∨ key' = key := by
  by_cases h : key ∈ keys table
  · rw [keys_put_of_mem h]
    exact ⟨Or.inl, fun h' => h'.elim id fun heq => heq ▸ h⟩
  · rw [put_of_not_mem h, keys_append, List.mem_append]
    exact or_congr Iff.rfl List.mem_singleton

theorem nodup_keys_put {table : List (κ × α)} (h : (keys table).Nodup) (key : κ) (value : α) :
    (keys (put key value table)).Nodup := by
  by_cases hmem : key ∈ keys table
  · rwa [keys_put_of_mem hmem]
  · rw [put_of_not_mem hmem, keys_append]
    exact List.nodup_append.mpr ⟨h, List.pairwise_singleton _ _, fun other hother same hsame => by
      obtain rfl := List.mem_singleton.mp hsame
      rintro rfl
      exact hmem hother⟩

theorem nodup_keys_putAll {table : List (κ × α)} (h : (keys table).Nodup) (entries : List (κ × α)) :
    (keys (putAll table entries)).Nodup := by
  induction entries generalizing table with
  | nil => exact h
  | cons entry entries ih => exact ih (nodup_keys_put h entry.1 entry.2)

theorem nodup_keys_ofList (entries : List (κ × α)) : (keys (ofList entries)).Nodup := by
  have hnil : (keys ([] : List (κ × α))).Nodup := List.nodup_nil
  exact nodup_keys_putAll hnil entries

theorem mem_keys_putAll {key : κ} {table entries : List (κ × α)} :
    key ∈ keys (putAll table entries) ↔ key ∈ keys table ∨ key ∈ keys entries := by
  induction entries generalizing table with
  | nil => exact (or_iff_left List.not_mem_nil).symm
  | cons entry entries ih =>
      have hkeys : keys (entry :: entries) = entry.1 :: keys entries := rfl
      show key ∈ keys (putAll (put entry.1 entry.2 table) entries) ↔ _
      rw [ih, mem_keys_put, hkeys, List.mem_cons, or_assoc]

/-- **The keys of a table stay where they are, and new ones follow in the order in which they first
come.** -/
theorem keys_putAll (table entries : List (κ × α)) :
    keys (putAll table entries)
      = keys table ++ ((keys entries).filter fun key => !(keys table).contains key).eraseDups := by
  induction entries generalizing table with
  | nil => simp [putAll, keys]
  | cons entry entries ih =>
      show keys (putAll (put entry.1 entry.2 table) entries)
        = keys table ++ ((entry.1 :: keys entries).filter fun key =>
            !(keys table).contains key).eraseDups
      rw [ih]
      by_cases h : entry.1 ∈ keys table
      · rw [keys_put_of_mem h, List.filter_cons_of_neg (by simpa using h)]
      · have hkeys : keys (put entry.1 entry.2 table) = keys table ++ [entry.1] := by
          rw [put_of_not_mem h, keys_append]
          rfl
        rw [hkeys, List.filter_cons_of_pos (by simpa using h), List.eraseDups_cons,
          List.filter_filter, List.append_assoc, List.singleton_append]
        congr 4
        funext key
        rw [Bool.and_comm, List.contains_append, Bool.not_or]
        simp

/-! ## Values -/

theorem lookup_put (key key' : κ) (value : α) (table : List (κ × α)) :
    (put key value table).lookup key' = if key' == key then some value else table.lookup key' := by
  induction table with
  | nil =>
      rw [put, List.lookup_cons]
      split <;> simp_all
  | cons entry table ih =>
      rw [put]
      split
      · rename_i hsame
        obtain rfl := eq_of_beq hsame
        rw [List.lookup_cons, List.lookup_cons]
        cases key' == entry.1 <;> rfl
      · rename_i hother
        rw [List.lookup_cons, List.lookup_cons, ih]
        cases hkey : key' == entry.1 with
        | false => rfl
        | true =>
            obtain rfl := eq_of_beq hkey
            exact (if_neg hother).symm

/-- **The last value for a key counts.** -/
theorem lookup_putAll (table entries : List (κ × α)) (key : κ) :
    (putAll table entries).lookup key = (entries.reverse.lookup key).or (table.lookup key) := by
  induction entries generalizing table with
  | nil => rfl
  | cons entry entries ih =>
      show (putAll (put entry.1 entry.2 table) entries).lookup key = _
      rw [ih, lookup_put, List.reverse_cons, List.lookup_append, Option.or_assoc]
      congr 1
      rw [List.lookup_cons]
      cases key == entry.1 <;> rfl

theorem mem_of_lookup {key : κ} {value : α} {table : List (κ × α)}
    (h : table.lookup key = some value) : (key, value) ∈ table := by
  obtain ⟨before, after, htable, -⟩ := List.lookup_eq_some_iff.mp h
  rw [htable]
  exact List.mem_append_right _ List.mem_cons_self

theorem lookup_of_mem {key : κ} {value : α} {table : List (κ × α)} (hkeys : (keys table).Nodup)
    (h : (key, value) ∈ table) : table.lookup key = some value := by
  induction table with
  | nil => cases h
  | cons entry table ih =>
      rw [keys, List.map_cons, List.nodup_cons] at hkeys
      rcases List.mem_cons.mp h with rfl | h
      · exact List.lookup_cons_self
      · have hne : (key == entry.1) = false := by
          rw [beq_eq_false_iff_ne]
          rintro rfl
          exact hkeys.1 (List.mem_map.mpr ⟨_, h, rfl⟩)
        rw [List.lookup_cons, hne]
        exact ih hkeys.2 h

/-- Nothing is in a table but what was put into it. -/
theorem mem_of_mem_ofList {entries : List (κ × α)} {entry : κ × α} (h : entry ∈ ofList entries) :
    entry ∈ entries := by
  have hkeys : (keys (ofList entries)).Nodup := nodup_keys_ofList entries
  have hlookup : (putAll [] entries).lookup entry.1 = some entry.2 := lookup_of_mem hkeys h
  rw [lookup_putAll, List.lookup_nil, Option.or_none] at hlookup
  exact List.mem_reverse.mp (mem_of_lookup hlookup)

/-- A table that is rearranged gives the same values. -/
theorem lookup_of_perm {entries table : List (κ × α)} (h : entries.Perm table) (hkeys : (keys table).Nodup)
    (key : κ) : entries.lookup key = table.lookup key := by
  have hkeys' : (keys entries).Nodup := (h.map Prod.fst).nodup_iff.mpr hkeys
  cases hlookup : table.lookup key with
  | some value => exact lookup_of_mem hkeys' (h.mem_iff.mpr (mem_of_lookup hlookup))
  | none =>
      rw [List.lookup_eq_none_iff] at hlookup ⊢
      intro entry hentry
      exact hlookup entry (h.mem_iff.mp hentry)

/-! ## The order of changes -/

theorem put_put (key : κ) (value value' : α) (table : List (κ × α)) :
    put key value (put key value' table) = put key value table := by
  induction table with
  | nil => simp [put]
  | cons entry table ih =>
      by_cases h : entry.1 == key
      · simp [put, h]
      · simp [put, h, ih]

/-- A key that is known may be changed before another key or after it. -/
theorem put_comm {key key' : κ} {table : List (κ × α)} (hmem : key ∈ keys table) (hne : key' ≠ key)
    (value value' : α) :
    put key value (put key' value' table) = put key' value' (put key value table) := by
  induction table with
  | nil => cases hmem
  | cons entry table ih =>
      by_cases h : entry.1 == key
      · obtain rfl := eq_of_beq h
        have h' : (entry.1 == key') = false := beq_eq_false_iff_ne.mpr hne.symm
        simp [put, h']
      · have hrest : key ∈ keys table := by
          rcases List.mem_cons.mp hmem with rfl | hmem
          · exact absurd BEq.rfl h
          · exact hmem
        by_cases h' : entry.1 == key'
        · simp [put, h, h']
        · simp [put, h, h', ih hrest]

theorem put_putAll {key : κ} {table entries : List (κ × α)} (hmem : key ∈ keys table)
    (hfree : key ∉ keys entries) (value : α) :
    put key value (putAll table entries) = putAll (put key value table) entries := by
  induction entries generalizing table with
  | nil => rfl
  | cons entry entries ih =>
      rw [keys, List.map_cons, List.mem_cons, not_or] at hfree
      show put key value (putAll (put entry.1 entry.2 table) entries)
        = putAll (put entry.1 entry.2 (put key value table)) entries
      rw [ih (mem_keys_put.mpr (Or.inl hmem)) hfree.2, put_comm hmem (Ne.symm hfree.1)]

theorem putAll_of_nodup {table entries : List (κ × α)} (h : (keys (table ++ entries)).Nodup) :
    putAll table entries = table ++ entries := by
  induction entries generalizing table with
  | nil => rw [List.append_nil]; rfl
  | cons entry entries ih =>
      have hnew : entry.1 ∉ keys table := by
        intro hmem
        rw [keys_append, List.nodup_append] at h
        exact h.2.2 _ hmem _ List.mem_cons_self rfl
      show putAll (put entry.1 entry.2 table) entries = _
      rw [put_of_not_mem hnew, ih (by rwa [List.append_assoc]), List.append_assoc]
      rfl

/-- A table is made of its entries. -/
theorem ofList_of_nodup {table : List (κ × α)} (h : (keys table).Nodup) : ofList table = table :=
  putAll_of_nodup h

/-! ## Renaming keys -/

/-- A change to one of some entries may be made before they are renamed and put into a table or after
that, if no other entry gets the name of the changed one. -/
theorem putAll_rename_put {f : κ → κ} {key : κ} {entries : List (κ × α)}
    (h : (keys entries).Pairwise fun a b => f a = f b → f b ≠ f key) (value : α)
    (table : List (κ × α)) :
    putAll table (rename f (put key value entries))
      = put (f key) value (putAll table (rename f entries)) := by
  induction entries generalizing table with
  | nil => rfl
  | cons entry entries ih =>
      rw [keys, List.map_cons, List.pairwise_cons] at h
      rw [put]
      split
      · rename_i hsame
        obtain rfl := eq_of_beq hsame
        have hfree : f entry.1 ∉ keys (rename f entries) := by
          rw [keys_rename]
          intro hmem
          obtain ⟨other, hother, heq⟩ := List.mem_map.mp hmem
          exact h.1 other hother heq.symm heq
        show putAll (put (f entry.1) value table) (rename f entries)
          = put (f entry.1) value (putAll (put (f entry.1) entry.2 table) (rename f entries))
        rw [put_putAll (mem_keys_put.mpr (Or.inr rfl)) hfree, put_put]
      · exact ih h.2 (put (f entry.1) entry.2 table)

/-- **Changes of a table may be made before its keys are renamed or after that**, if the names of its
keys differ and those of the changes differ. -/
theorem putAll_rename {f : κ → κ} {entries changes : List (κ × α)}
    (hentries : ((keys entries).map f).Nodup) (hchanges : ((keys changes).map f).Nodup)
    (table : List (κ × α)) :
    putAll table (rename f (putAll entries changes))
      = putAll (putAll table (rename f entries)) (rename f changes) := by
  -- entries that have come to share a name share none that is still to be changed
  have hall : ∀ entries : List (κ × α),
      ((keys entries).Pairwise fun a b => f a = f b → f b ∉ (keys changes).map f) →
      putAll table (rename f (putAll entries changes))
        = putAll (putAll table (rename f entries)) (rename f changes) := by
    clear hentries
    induction changes with
    | nil => intro entries _; rfl
    | cons change changes ih =>
        intro entries hshared
        have hkeys : (keys (change :: changes)).map f = f change.1 :: (keys changes).map f := rfl
        rw [hkeys, List.nodup_cons] at hchanges
        rw [hkeys] at hshared
        have hfirst : (keys entries).Pairwise fun a b => f a = f b → f b ≠ f change.1 :=
          hshared.imp fun h heq => List.ne_of_not_mem_cons (h heq)
        have hrest : (keys entries).Pairwise fun a b => f a = f b → f b ∉ (keys changes).map f :=
          hshared.imp fun h heq => List.not_mem_of_not_mem_cons (h heq)
        have hput : (keys (put change.1 change.2 entries)).Pairwise fun a b =>
            f a = f b → f b ∉ (keys changes).map f := by
          by_cases hmem : change.1 ∈ keys entries
          · rwa [keys_put_of_mem hmem]
          · rw [put_of_not_mem hmem, keys_append]
            refine List.pairwise_append.mpr ⟨hrest, List.pairwise_singleton _ _, ?_⟩
            intro a _ b hb _
            rw [List.mem_singleton.mp hb]
            exact hchanges.1
        show putAll table (rename f (putAll (put change.1 change.2 entries) changes))
          = putAll (put (f change.1) change.2 (putAll table (rename f entries))) (rename f changes)
        rw [ih hchanges.2 _ hput, putAll_rename_put hfirst]
  exact hall entries ((List.pairwise_map.mp hentries).imp fun hne heq => absurd heq hne)

end LintRunner.Ordered
