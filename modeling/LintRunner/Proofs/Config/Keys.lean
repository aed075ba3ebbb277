import LintRunner.Config.Notation
import LintRunner.Proofs.Config.Sources
import LintRunner.Proofs.Ordered

/-!
# Keys of configurations

The keys of a configuration and of its adapters may be written with hyphens or with low lines.
`normalizeKeys` brings them into one form: configurations that differ in these keys only become the same,
and what has that form stays (`normalizeKeys_spells`). The names of adapters, and all that lies below
these keys, are left as they are.
-/

set_option autoImplicit false

namespace LintRunner

/-! ## Keys -/

/-- Whether two keys differ only in hyphens for low lines. -/
def SameKey (key key' : String) : Prop :=
  List.Forall₂ (fun c c' => c = c' ∨ c = '_' ∧ c' = '-' ∨ c = '-' ∧ c' = '_') key.toList key'.toList

theorem sameKey_iff {key key' : String} : SameKey key key' ↔ snakeCase key = snakeCase key' := by
  have hchar : ∀ c c' : Char, (c = c' ∨ c = '_' ∧ c' = '-' ∨ c = '-' ∧ c' = '_')
      ↔ (if c == '-' then '_' else c) = if c' == '-' then '_' else c' := by
    intro c c'
    by_cases hc : c = '-' <;> by_cases hc' : c' = '-' <;> grind
  unfold SameKey snakeCase
  rw [String.ofList_inj, ← List.forall₂_eq_eq_eq, List.forall₂_map_left_iff, List.forall₂_map_right_iff]
  simp only [hchar]

theorem hyphen_not_mem_snakeCase (key : String) : '-' ∉ (snakeCase key).toList := by
  rw [snakeCase, String.toList_ofList, List.mem_map]
  rintro ⟨c, -, hc⟩
  split at hc
  · exact absurd hc (by decide)
  · rename_i hne
    exact hne (by simpa using hc)

theorem snakeCase_of_not_mem {key : String} (h : '-' ∉ key.toList) : snakeCase key = key := by
  have hmap : key.toList.map (fun c => if c == '-' then '_' else c) = key.toList :=
    Ordered.map_of_fixed fun c hc => if_neg (by simpa using fun hsame : c = '-' => h (hsame ▸ hc))
  rw [snakeCase, hmap, String.ofList_toList]

theorem sameKey_snakeCase (key : String) : SameKey key (snakeCase key) := by
  rw [sameKey_iff, snakeCase_of_not_mem (hyphen_not_mem_snakeCase key)]

/-- A key without low lines is written in one way only. -/
theorem SameKey.eq_of_not_mem {key key' : String} (h : SameKey key key')
    (hlow : '_' ∉ key'.toList) (hhyphen : '-' ∉ key'.toList) : key = key' := by
  unfold SameKey at h
  rw [← String.toList_inj]
  generalize key.toList = cs at h ⊢
  generalize key'.toList = cs' at h hlow hhyphen ⊢
  induction h with
  | nil => rfl
  | cons hc _ ih =>
      rw [List.mem_cons, not_or] at hlow hhyphen
      rw [ih hlow.2 hhyphen.2]
      rcases hc with rfl | ⟨-, rfl⟩ | ⟨-, rfl⟩
      · rfl
      · exact absurd rfl hhyphen.1
      · exact absurd rfl hlow.1

/-! ## Spellings of a configuration -/

/-- The tables of a configuration whose keys may be written in two ways: the whole, and those of its
adapters. -/
inductive OptionTable (payload : Toml.Entries) : Toml.Entries → Prop
  | whole : OptionTable payload payload
  | adapter {adapters options : Toml.Entries} {name : String}
      (entry : ("adapters", .table adapters) ∈ payload) (mem : (name, .table options) ∈ adapters) :
      OptionTable payload options

/-- A configuration with one entry for each key and no hyphens in keys that may have them. -/
def IsSnake (payload : Toml.Entries) : Prop :=
  ∀ options, OptionTable payload options →
    (Ordered.keys options).Nodup ∧ ∀ key ∈ Ordered.keys options, '-' ∉ key.toList

/-- A configuration whose keys stay different with low lines for hyphens. -/
def StaysApart (payload : Toml.Entries) : Prop :=
  ∀ options, OptionTable payload options → ((Ordered.keys options).map snakeCase).Nodup

/-- The value of an adapter with the same options up to a relation. -/
inductive AdapterSpelling (same : Toml.Entries → Toml.Entries → Prop) : Value → Value → Prop
  | refl (value : Value) : AdapterSpelling same value value
  | options {options options' : Toml.Entries} (h : same options options') :
      AdapterSpelling same (.table options) (.table options')

/-- A value of a configuration with the same options of adapters up to a relation. Their names stay, and so
does every value of another key. -/
inductive ValueSpelling (same : Toml.Entries → Toml.Entries → Prop) (key : String) : Value → Value → Prop
  | refl (value : Value) : ValueSpelling same key value value
  | adapters {adapters adapters' : Toml.Entries} (hkey : key = "adapters")
      (h : List.Forall₂ (fun adapter adapter' => adapter'.1 = adapter.1 ∧
        AdapterSpelling same adapter.2 adapter'.2) adapters adapters') :
      ValueSpelling same key (.table adapters) (.table adapters')

/-- The same values in the same order, under keys that differ only in hyphens for low lines. -/
def SameOptions (options options' : Toml.Entries) : Prop :=
  List.Forall₂ (fun entry entry' => SameKey entry.1 entry'.1 ∧ entry'.2 = entry.2) options options'

/-- Configurations that differ only in hyphens for low lines, in their keys and those of their adapters. -/
def Respelled (payload payload' : Toml.Entries) : Prop :=
  List.Forall₂ (fun entry entry' => SameKey entry.1 entry'.1 ∧
    ValueSpelling SameOptions entry.1 entry.2 entry'.2) payload payload'

def OptionsFrom (options options' : Toml.Entries) : Prop :=
  ∀ entry' ∈ options', ∃ entry ∈ options, SameKey entry.1 entry'.1 ∧ entry'.2 = entry.2

/-- Entries of a configuration, under keys that differ only in hyphens for low lines, in which nothing but
such keys of adapters has changed. -/
def EntriesFrom (payload payload' : Toml.Entries) : Prop :=
  ∀ entry' ∈ payload', ∃ entry ∈ payload, SameKey entry.1 entry'.1 ∧
    ValueSpelling OptionsFrom entry.1 entry.2 entry'.2

/-! ## Values -/

def snakeAdapter : Value → Value
  | .table options => .table (snakeKeys options)
  | other => other

def snakeValue (key : String) (value : Value) : Value :=
  match key, value with
  | "adapters", .table adapters =>
      .table (adapters.map fun adapter => (adapter.1, snakeAdapter adapter.2))
  | _, other => other

theorem snakeKeys_eq (options : Toml.Entries) :
    snakeKeys options = Ordered.ofList (options.map fun entry => (snakeCase entry.1, entry.2)) := by
  rfl

theorem normalizeKeys_eq (payload : Toml.Entries) :
    normalizeKeys payload = Ordered.ofList (payload.map fun entry =>
      (snakeCase entry.1, snakeValue (snakeCase entry.1) entry.2)) := by
  rfl

theorem snakeValue_of_ne {key : String} (h : key ≠ "adapters") (value : Value) :
    snakeValue key value = value := by
  unfold snakeValue
  split
  · exact absurd rfl h
  · rfl

theorem snakeCase_eq_adapters {key : String} : snakeCase key = "adapters" ↔ key = "adapters" := by
  constructor
  · intro h
    exact (h ▸ sameKey_snakeCase key).eq_of_not_mem (by decide) (by decide)
  · rintro rfl
    exact snakeCase_of_not_mem (by decide)

/-- The adapters of a value get keys with low lines, and nothing else changes. -/
theorem valueSpelling_snakeValue {same : Toml.Entries → Toml.Entries → Prop} {key : String} {value : Value}
    (h : ∀ adapters, key = "adapters" → value = .table adapters → ∀ name options,
      (name, .table options) ∈ adapters → same options (snakeKeys options)) :
    ValueSpelling same key value (snakeValue (snakeCase key) value) := by
  by_cases hkey : key = "adapters"
  · cases value with
    | table adapters =>
        rw [snakeCase_eq_adapters.mpr hkey]
        refine .adapters hkey ?_
        rw [List.forall₂_map_right_iff, List.forall₂_same]
        rintro ⟨name, entry⟩ hadapter
        refine ⟨rfl, ?_⟩
        cases entry with
        | table options => exact .options (h adapters hkey rfl name options hadapter)
        | _ => exact .refl _
    | _ =>
        rw [snakeCase_eq_adapters.mpr hkey]
        exact .refl _
  · rw [snakeValue_of_ne (mt snakeCase_eq_adapters.mp hkey)]
    exact .refl _

/-! ## The form with low lines -/

/-- Entries that are put into a table under keys with low lines have different keys without hyphens. -/
theorem snake_ofList (entries : Toml.Entries) (value : String × Value → Value) :
    let table := Ordered.ofList (entries.map fun entry => (snakeCase entry.1, value entry))
    (Ordered.keys table).Nodup ∧ ∀ key ∈ Ordered.keys table, '-' ∉ key.toList := by
  refine ⟨Ordered.nodup_keys_ofList _, fun key hkey => ?_⟩
  obtain ⟨entry', hentry', rfl⟩ := List.mem_map.mp hkey
  obtain ⟨entry, -, rfl⟩ := List.mem_map.mp (Ordered.mem_of_mem_ofList hentry')
  exact hyphen_not_mem_snakeCase entry.1

theorem snakeKeys_of_snake {options : Toml.Entries} (hkeys : (Ordered.keys options).Nodup)
    (hhyphen : ∀ key ∈ Ordered.keys options, '-' ∉ key.toList) : snakeKeys options = options := by
  have hmap : options.map (fun entry => (snakeCase entry.1, entry.2)) = options :=
    Ordered.rename_of_fixed fun key hkey => snakeCase_of_not_mem (hhyphen key hkey)
  rw [snakeKeys_eq, hmap, Ordered.ofList_of_nodup hkeys]

/-- **The result is in the form with low lines.** -/
theorem isSnake_normalizeKeys (payload : Toml.Entries) : IsSnake (normalizeKeys payload) := by
  intro options hoptions
  cases hoptions with
  | whole => exact snake_ofList payload fun entry => snakeValue (snakeCase entry.1) entry.2
  | @adapter adapters' _ name hentry hmem =>
      rw [normalizeKeys_eq] at hentry
      obtain ⟨⟨key, value⟩, -, heq⟩ := List.mem_map.mp (Ordered.mem_of_mem_ofList hentry)
      obtain ⟨hkey, hvalue⟩ := Prod.mk.inj heq
      rw [hkey] at hvalue
      -- the table of adapters comes from one, and so does the table of each adapter
      cases value with
      | table adapters =>
          obtain rfl : adapters.map (fun adapter => (adapter.1, snakeAdapter adapter.2)) = adapters' :=
            Value.table.inj hvalue
          obtain ⟨⟨name', entry⟩, -, heq⟩ := List.mem_map.mp hmem
          obtain ⟨-, hadapter⟩ := Prod.mk.inj heq
          cases entry with
          | table options' =>
              obtain rfl : snakeKeys options' = options := Value.table.inj hadapter
              exact snake_ofList options' Prod.snd
          | _ => cases hadapter
      | _ => cases hvalue

/-- **What is in the form with low lines stays.** -/
theorem normalizeKeys_of_isSnake {payload : Toml.Entries} (h : IsSnake payload) :
    normalizeKeys payload = payload := by
  obtain ⟨hkeys, hhyphen⟩ := h payload .whole
  -- only the tables of adapters are rewritten, and each of them has the form already
  have hvalue : ∀ entry ∈ payload, snakeValue entry.1 entry.2 = entry.2 := by
    rintro ⟨key, value⟩ hentry
    by_cases hkey : key = "adapters"
    · subst hkey
      cases value with
      | table adapters =>
          have hadapters : adapters.map (fun adapter => (adapter.1, snakeAdapter adapter.2)) = adapters := by
            refine Ordered.map_of_fixed fun adapter hadapter => ?_
            obtain ⟨name, entry⟩ := adapter
            cases entry with
            | table options =>
                obtain ⟨hkeys, hhyphen⟩ := h options (.adapter hentry hadapter)
                rw [snakeAdapter, snakeKeys_of_snake hkeys hhyphen]
            | _ => rfl
          exact congrArg Value.table hadapters
      | _ => rfl
    · exact snakeValue_of_ne hkey value
  have hmap : payload.map (fun entry => (snakeCase entry.1, snakeValue (snakeCase entry.1) entry.2))
      = payload := by
    refine Ordered.map_of_fixed fun entry hentry => ?_
    rw [snakeCase_of_not_mem (hhyphen entry.1 (List.mem_map_of_mem hentry)), hvalue entry hentry]
  rw [normalizeKeys_eq, hmap, Ordered.ofList_of_nodup hkeys]

/-! ## Spellings become the same -/

theorem SameOptions.same_snakeKeys {options options' : Toml.Entries} (h : SameOptions options options') :
    snakeKeys options' = snakeKeys options := by
  have hmap : options'.map (fun entry => (snakeCase entry.1, entry.2))
      = options.map fun entry => (snakeCase entry.1, entry.2) :=
    Ordered.map_eq_of_forall₂ h fun entry entry' hentry =>
      Prod.ext (sameKey_iff.mp hentry.1).symm hentry.2
  rw [snakeKeys_eq, snakeKeys_eq, hmap]

theorem AdapterSpelling.snakeAdapter_eq {entry entry' : Value}
    (h : AdapterSpelling SameOptions entry entry') : snakeAdapter entry' = snakeAdapter entry := by
  cases h with
  | refl => rfl
  | options h => exact congrArg Value.table h.same_snakeKeys

theorem ValueSpelling.snakeValue_eq {key : String} {value value' : Value}
    (h : ValueSpelling SameOptions key value value') :
    snakeValue (snakeCase key) value' = snakeValue (snakeCase key) value := by
  cases h with
  | refl => rfl
  | @adapters adapters adapters' hkey h =>
      have hmap : adapters'.map (fun adapter => (adapter.1, snakeAdapter adapter.2))
          = adapters.map fun adapter => (adapter.1, snakeAdapter adapter.2) :=
        Ordered.map_eq_of_forall₂ h fun adapter adapter' hadapter =>
          Prod.ext hadapter.1 hadapter.2.snakeAdapter_eq
      rw [snakeCase_eq_adapters.mpr hkey]
      exact congrArg Value.table hmap

/-- **Configurations that differ only in hyphens for low lines become the same.** -/
theorem Respelled.same_normalizeKeys {payload payload' : Toml.Entries} (h : Respelled payload payload') :
    normalizeKeys payload' = normalizeKeys payload := by
  have hmap : payload'.map (fun entry => (snakeCase entry.1, snakeValue (snakeCase entry.1) entry.2))
      = payload.map fun entry => (snakeCase entry.1, snakeValue (snakeCase entry.1) entry.2) := by
    refine Ordered.map_eq_of_forall₂ h fun entry entry' hentry => ?_
    obtain ⟨hkey, hvalue⟩ := hentry
    rw [← sameKey_iff.mp hkey, hvalue.snakeValue_eq]
  rw [normalizeKeys_eq, normalizeKeys_eq, hmap]

/-! ## What is left as it is -/

/-- Entries whose keys stay different are all kept under their keys with low lines. -/
theorem ofList_of_nodup_snake {entries : Toml.Entries} (h : ((Ordered.keys entries).map snakeCase).Nodup)
    (value : String × Value → Value) :
    Ordered.ofList (entries.map fun entry => (snakeCase entry.1, value entry))
      = entries.map fun entry => (snakeCase entry.1, value entry) := by
  refine Ordered.ofList_of_nodup ?_
  rw [Ordered.keys, List.map_map] at h ⊢
  exact h

theorem sameOptions_snakeKeys {options : Toml.Entries}
    (h : ((Ordered.keys options).map snakeCase).Nodup) : SameOptions options (snakeKeys options) := by
  rw [snakeKeys_eq, ofList_of_nodup_snake h, SameOptions, List.forall₂_map_right_iff, List.forall₂_same]
  exact fun entry _ => ⟨sameKey_snakeCase entry.1, rfl⟩

/-- **Nothing but hyphens in keys has changed**, if the keys stay different. -/
theorem respelled_normalizeKeys {payload : Toml.Entries} (h : StaysApart payload) :
    Respelled payload (normalizeKeys payload) := by
  rw [normalizeKeys_eq, ofList_of_nodup_snake (h payload .whole), Respelled, List.forall₂_map_right_iff,
    List.forall₂_same]
  rintro ⟨key, value⟩ hentry
  refine ⟨sameKey_snakeCase key, valueSpelling_snakeValue ?_⟩
  rintro adapters rfl rfl name options hmem
  exact sameOptions_snakeKeys (h options (.adapter hentry hmem))

theorem optionsFrom_snakeKeys (options : Toml.Entries) : OptionsFrom options (snakeKeys options) := by
  intro entry' hentry'
  obtain ⟨entry, hentry, rfl⟩ := List.mem_map.mp (Ordered.mem_of_mem_ofList hentry')
  exact ⟨entry, hentry, sameKey_snakeCase entry.1, rfl⟩

/-- **Every entry comes from one in which nothing but hyphens in keys has changed**, also if keys become the
same. -/
theorem entriesFrom_normalizeKeys (payload : Toml.Entries) :
    EntriesFrom payload (normalizeKeys payload) := by
  intro entry' hentry'
  rw [normalizeKeys_eq] at hentry'
  obtain ⟨entry, hentry, rfl⟩ := List.mem_map.mp (Ordered.mem_of_mem_ofList hentry')
  exact ⟨entry, hentry, sameKey_snakeCase entry.1,
    valueSpelling_snakeValue fun _ _ _ _ options _ => optionsFrom_snakeKeys options⟩

/-! ## Configurations -/

namespace Config

variable {dir dir' : Directory} {shown : Shown} {path : Path} {bytes bytes' : List UInt8}
  {payload payload' : Toml.Entries}

/-- Files whose configurations differ only in hyphens for low lines say the same. -/
theorem loadFile_of_respelled (hbytes : dir.file? path = some (.bytes bytes))
    (hread : readSection path (shown path) bytes = .ok payload)
    (hbytes' : dir'.file? path = some (.bytes bytes'))
    (hread' : readSection path (shown path) bytes' = .ok payload') (h : Respelled payload payload') :
    loadFile dir' shown path = loadFile dir shown path := by
  rw [loadFile_of_section hbytes hread, loadFile_of_section hbytes' hread', ofSection, ofSection,
    h.same_normalizeKeys]

end Config

/-- **Hyphens and low lines are the same in the keys of a configuration and of its adapters.** Bringing
them into one form changes nothing the second time, nor where there are no hyphens. Configurations that
differ only in such hyphens become the same, so that checking them gives the same configuration or the
same issues, the files that hold them say the same and the registries built from them are the same.
Adapters keep their names, and all values below the keys stay: the result differs from a configuration
whose keys stay different in hyphens only, and what is left of any other one does. -/
theorem normalizeKeys_spells :
    (∀ payload, normalizeKeys (normalizeKeys payload) = normalizeKeys payload) ∧
    (∀ payload, IsSnake payload → normalizeKeys payload = payload) ∧
    (∀ payload payload', Respelled payload payload' →
      normalizeKeys payload' = normalizeKeys payload ∧
        Config.check (.table (normalizeKeys payload')) = Config.check (.table (normalizeKeys payload)) ∧
        ∀ dir dir' shown path bytes bytes', dir.file? path = some (.bytes bytes) →
          Config.readSection path (shown path) bytes = .ok payload →
          dir'.file? path = some (.bytes bytes') →
          Config.readSection path (shown path) bytes' = .ok payload' →
          Config.loadFile dir' shown path = Config.loadFile dir shown path ∧
            ∀ base, (Config.loadFile dir' shown path >>= fun config => config.buildRegistry base)
              = Config.loadFile dir shown path >>= fun config => config.buildRegistry base) ∧
    (∀ payload, StaysApart payload → Respelled payload (normalizeKeys payload)) ∧
    ∀ payload, EntriesFrom payload (normalizeKeys payload) := by
  refine ⟨fun payload => normalizeKeys_of_isSnake (isSnake_normalizeKeys payload),
    fun payload => normalizeKeys_of_isSnake, fun payload payload' h => ⟨h.same_normalizeKeys, ?_, ?_⟩,
    fun payload => respelled_normalizeKeys, entriesFrom_normalizeKeys⟩
  · rw [h.same_normalizeKeys]
  · intro dir dir' shown path bytes bytes' hbytes hread hbytes' hread'
    have hload : Config.loadFile dir' shown path = Config.loadFile dir shown path :=
      Config.loadFile_of_respelled hbytes hread hbytes' hread' h
    exact ⟨hload, fun base => by rw [hload]⟩

/-- A configuration with its keys written with a sign; an adapter and its severity have hyphens. -/
def spelled (sign : String) : Toml.Entries :=
  [("on" ++ sign ++ "tool" ++ sign ++ "error", .string "skip"),
    ("adapters", .table [("my-lint", .table [("default" ++ sign ++ "severity", .string "x-y")])])]

theorem isSnake_spelled : IsSnake (spelled "_") := by
  intro options hoptions
  cases hoptions with
  | whole => decide
  | adapter entry mem =>
      simp only [spelled, List.mem_cons, Prod.mk.injEq, Value.table.injEq] at entry
      obtain ⟨h, -⟩ | ⟨-, rfl⟩ | h := entry
      · exact absurd h (by decide)
      · simp only [List.mem_cons, Prod.mk.injEq, Value.table.injEq] at mem
        obtain ⟨-, rfl⟩ | h := mem
        · decide
        · cases h
      · cases h

theorem respelled_spelled : Respelled (spelled "_") (spelled "-") := by
  refine .cons ⟨sameKey_iff.mpr (by decide), .refl _⟩
    (.cons ⟨sameKey_iff.mpr rfl, .adapters rfl (.cons ⟨rfl, .options ?_⟩ .nil)⟩ .nil)
  exact .cons ⟨sameKey_iff.mpr (by decide), rfl⟩ .nil

/-- Hyphens in the names of adapters stay, and a shared file says the same with hyphens as without. -/
theorem spelled_spells :
    normalizeKeys (spelled "_") = spelled "_" ∧ normalizeKeys (spelled "-") = spelled "_" ∧
      Config.loadFile (Config.sharing false "tool.diaglint.on-tool-error = 1") Path.text
          (Config.here.child Config.sharedName)
        = Config.loadFile (Config.sharing false "tool.diaglint.on_tool_error = 1") Path.text
          (Config.here.child Config.sharedName) := by
  obtain ⟨-, hsnake, hsame, -, -⟩ := normalizeKeys_spells
  have hstays := hsnake _ isSnake_spelled
  refine ⟨hstays, (hsame _ _ respelled_spelled).1.trans hstays, ?_⟩
  have hread : Config.readDocument (Path.text (Config.here.child Config.sharedName))
      (Config.written "tool.diaglint.on_tool_error = 1")
        = .ok [("tool", .table [("diaglint", .table [("on_tool_error", .int 1)])])] := by
    cbv
  have hread' : Config.readDocument (Path.text (Config.here.child Config.sharedName))
      (Config.written "tool.diaglint.on-tool-error = 1")
        = .ok [("tool", .table [("diaglint", .table [("on-tool-error", .int 1)])])] := by
    cbv
  have hkeys : Respelled [("on_tool_error", .int 1)] [("on-tool-error", .int 1)] :=
    .cons ⟨sameKey_iff.mpr (by decide), .refl _⟩ .nil
  exact ((hsame _ _ hkeys).2.2 _ _ Path.text _ _ _ (Config.file?_sharing_shared false _)
    (Config.readSection_shared hread) (Config.file?_sharing_shared false _)
    (Config.readSection_shared hread')).1

end LintRunner
