import LintRunner.Catalogue
import LintRunner.Proofs.Ordered
import LintRunner.Proofs.Results
import LintRunner.Proofs.Text.Case
import LintRunner.Registry

/-!
# Coherent registries

Every registry that is made, and merged any number of times after that, is coherent: each adapter is
found under its own name, language tags are in their normal form and occur once, and languages list known
adapters only (`Registry.Built.coherent`). That a tag is normalized twice on its way into a registry, and
once when it is looked up, does no harm, since normal forms stay (`normalizeLanguage_normalizeLanguage`).
-/

set_option autoImplicit false

namespace LintRunner

open Text

/-! ## Tags -/

/-- **The normal form of a tag is its own normal form.** -/
theorem normalizeLanguage_normalizeLanguage (tag : String) :
    normalizeLanguage (normalizeLanguage tag) = normalizeLanguage tag := by
  simp only [normalizeLanguage, String.toList_ofList, lower_trim_idempotent]

namespace Registry

/-! ## Adapters by name -/

def byName (adapters : List Adapter) : List (String × Adapter) :=
  adapters.map fun adapter => (adapter.name, adapter)

theorem keys_byName (adapters : List Adapter) :
    Ordered.keys (byName adapters) = adapters.map Adapter.name := by
  simp [Ordered.keys, byName]

theorem byName_putAdapter (adapters : List Adapter) (adapter : Adapter) :
    byName (putAdapter adapters adapter) = Ordered.put adapter.name adapter (byName adapters) := by
  induction adapters with
  | nil => rfl
  | cons first rest ih =>
      show byName (putAdapter (first :: rest) adapter)
        = Ordered.put adapter.name adapter ((first.name, first) :: byName rest)
      rw [putAdapter, Ordered.put]
      split
      · rename_i hsame
        rw [eq_of_beq hsame]
        rfl
      · rw [← ih]
        rfl

/-- Putting adapters among others is putting them into the table of names. -/
theorem byName_foldl (adapters new : List Adapter) :
    byName (new.foldl putAdapter adapters) = Ordered.putAll (byName adapters) (byName new) := by
  induction new generalizing adapters with
  | nil => rfl
  | cons adapter new ih =>
      rw [List.foldl_cons, ih, byName_putAdapter]
      rfl

/-- The first adapter of a name is what the table of names says. -/
theorem find?_eq_lookup (adapters : List Adapter) (name : String) :
    (adapters.find? fun adapter => adapter.name == name) = (byName adapters).lookup name := by
  induction adapters with
  | nil => rfl
  | cons first rest ih =>
      show _ = ((first.name, first) :: byName rest).lookup name
      rw [List.find?_cons, List.lookup_cons, ih, Bool.beq_comm]

theorem mem_putAdapter {adapters : List Adapter} {adapter other : Adapter}
    (h : other ∈ putAdapter adapters adapter) : other = adapter ∨ other ∈ adapters := by
  induction adapters with
  | nil => exact Or.inl (List.mem_singleton.mp h)
  | cons first rest ih =>
      rw [putAdapter] at h
      split at h
      · rcases List.mem_cons.mp h with h | h
        · exact Or.inl h
        · exact Or.inr (List.mem_cons_of_mem _ h)
      · rcases List.mem_cons.mp h with rfl | h
        · exact Or.inr List.mem_cons_self
        · exact (ih h).imp_right (List.mem_cons_of_mem _)

/-- Adapters that are put among others of different names keep the names different. -/
theorem nodup_foldl_putAdapter {adapters : List Adapter} (h : (adapters.map Adapter.name).Nodup)
    (new : List Adapter) : ((new.foldl putAdapter adapters).map Adapter.name).Nodup := by
  rw [← keys_byName, byName_foldl]
  exact Ordered.nodup_keys_putAll (by rwa [keys_byName]) _

/-- What holds of a list of adapters and of single adapters holds once these have been put among them. -/
theorem foldl_putAdapter {P : List Adapter → Prop} {new adapters : List Adapter}
    (hput : ∀ adapter ∈ new, ∀ others, P others → P (putAdapter others adapter)) (h : P adapters) :
    P (new.foldl putAdapter adapters) := by
  induction new generalizing adapters with
  | nil => exact h
  | cons adapter new ih =>
      rw [List.forall_mem_cons] at hput
      exact ih hput.2 (hput.1 adapters h)

/-! ## Making registries -/

/-- No name is found twice exactly if all names differ, from each other and from those before. -/
theorem repeatedName?_eq_none {seen names : List String} :
    repeatedName? seen names = none ↔ names.Nodup ∧ ∀ name ∈ names, name ∉ seen := by
  induction names generalizing seen with
  | nil => simp [repeatedName?]
  | cons name names ih =>
      rw [repeatedName?]
      by_cases hseen : name ∈ seen
      · simp [hseen]
      · rw [if_neg (by simpa using hseen), ih, List.nodup_cons]
        constructor
        · rintro ⟨hnodup, hnew⟩
          refine ⟨⟨fun hmem => hnew name hmem List.mem_cons_self, hnodup⟩, ?_⟩
          exact List.forall_mem_cons.mpr ⟨hseen, fun other hother hmem =>
            hnew other hother (List.mem_cons_of_mem _ hmem)⟩
        · rintro ⟨⟨hfirst, hnodup⟩, hnew⟩
          refine ⟨hnodup, fun other hother hmem => ?_⟩
          rcases List.mem_cons.mp hmem with rfl | hmem
          · exact hfirst hother
          · exact hnew other (List.mem_cons_of_mem _ hother) hmem

theorem unknownName?_eq_none {known : List String} {languages : Languages} :
    unknownName? known languages = none ↔
      ∀ entry ∈ languages, ∀ name ∈ entry.2, name ∈ known := by
  rw [unknownName?, List.find?_eq_none]
  simp only [List.mem_flatMap, Bool.not_eq_true', Bool.not_eq_false, List.contains_iff_mem]
  exact ⟨fun h entry hentry name hname => h name ⟨entry, hentry, hname⟩,
    fun h name ⟨entry, hentry, hname⟩ => h entry hentry name hname⟩

/-- Making a registry from adapters of different names can only fail for a name that a language
lists. -/
theorem make_of_nodup {adapters : List Adapter} (h : (adapters.map Adapter.name).Nodup)
    (languages : Languages) :
    make adapters languages
      = match unknownName? (adapters.map Adapter.name) languages with
        | some name => .error (.unknownAdapter name)
        | none => .ok { adapters, languages := normalizeLanguages languages } := by
  have hdistinct : repeatedName? [] (adapters.map Adapter.name) = none :=
    repeatedName?_eq_none.mpr ⟨h, fun _ _ => List.not_mem_nil⟩
  cases hunknown : unknownName? (adapters.map Adapter.name) languages <;>
    simp only [make, hdistinct, hunknown]

theorem make_eq_ok {adapters : List Adapter} {languages : Languages} {registry : Registry}
    (h : make adapters languages = .ok registry) :
    registry = { adapters, languages := normalizeLanguages languages } ∧
      (adapters.map Adapter.name).Nodup ∧
      ∀ entry ∈ languages, ∀ name ∈ entry.2, name ∈ adapters.map Adapter.name := by
  have hnodup : (adapters.map Adapter.name).Nodup := by
    rw [make] at h
    split at h
    · cases h
    · rename_i hrepeated
      exact (repeatedName?_eq_none.mp hrepeated).1
  rw [make_of_nodup hnodup] at h
  split at h
  · cases h
  · rename_i hunknown
    exact ⟨(Except.ok.inj h).symm, hnodup, unknownName?_eq_none.mp hunknown⟩

/-- Adapters of different names are refused only for a language that lists another name. -/
theorem make_eq_error {adapters : List Adapter} {languages : Languages} {failure : Failure}
    (hnodup : (adapters.map Adapter.name).Nodup) (h : make adapters languages = .error failure) :
    ∃ name, failure = .unknownAdapter name := by
  rw [make_of_nodup hnodup] at h
  split at h
  · rename_i name _
    exact ⟨name, (Except.error.inj h).symm⟩
  · cases h

/-! ## Looking adapters up -/

/-- A known name has an adapter of that name. -/
theorem exists_get {registry : Registry} {name : String} (h : name ∈ registry.names) :
    ∃ adapter ∈ registry.adapters, registry.get name = .ok adapter ∧ adapter.name = name := by
  obtain ⟨known, hknown, rfl⟩ := List.mem_map.mp h
  rw [get, get?]
  cases hfind : registry.adapters.find? fun adapter => adapter.name == known.name with
  | none =>
      rw [List.find?_eq_none] at hfind
      exact absurd BEq.rfl (hfind known hknown)
  | some adapter =>
      have hname := List.find?_some hfind
      exact ⟨adapter, List.mem_of_find?_eq_some hfind, rfl, eq_of_beq hname⟩

/-- A list of known names has one adapter for each of them, in their order. -/
theorem exists_mapM_get {registry : Registry} {names : List String}
    (h : ∀ name ∈ names, name ∈ registry.names) :
    ∃ adapters, names.mapM registry.get = .ok adapters ∧ adapters.map Adapter.name = names ∧
      ∀ adapter ∈ adapters, adapter ∈ registry.adapters := by
  induction names with
  | nil => exact ⟨[], rfl, rfl, fun adapter hadapter => (by cases hadapter)⟩
  | cons name names ih =>
      rw [List.forall_mem_cons] at h
      obtain ⟨adapter, hadapter, hget, hname⟩ := exists_get h.1
      obtain ⟨adapters, hadapters, hnames, hmem⟩ := ih h.2
      refine ⟨adapter :: adapters, ?_, by rw [List.map_cons, hname, hnames],
        List.forall_mem_cons.mpr ⟨hadapter, hmem⟩⟩
      rw [List.mapM_cons, hget, hadapters]
      rfl

/-- If languages list known adapters only, a tag is refused as such or has the adapters that its language
lists. -/
theorem adaptersFor_cases {registry : Registry}
    (hlisted : ∀ entry ∈ registry.languages, ∀ name ∈ entry.2, name ∈ registry.names) (tag : String) :
    (registry.languages.lookup (normalizeLanguage tag) = none ∧
      registry.adaptersFor tag = .error (.unsupportedLanguage tag)) ∨
    ∃ names adapters, registry.languages.lookup (normalizeLanguage tag) = some names ∧
      registry.adaptersFor tag = .ok adapters ∧ adapters.map Adapter.name = names ∧
      ∀ adapter ∈ adapters, adapter ∈ registry.adapters := by
  rw [adaptersFor]
  cases hlookup : registry.languages.lookup (normalizeLanguage tag) with
  | none => exact Or.inl ⟨rfl, rfl⟩
  | some names =>
      obtain ⟨adapters, hadapters, hnames, hmem⟩ :=
        exists_mapM_get (hlisted _ (Ordered.mem_of_lookup hlookup))
      exact Or.inr ⟨names, adapters, rfl, hadapters, hnames, hmem⟩

/-- A language that is supported is refused for an adapter that is not known. -/
theorem adaptersFor_error_of_supports {registry : Registry} {tag : String} {failure : Failure}
    (hsupports : registry.supports tag = true) (h : registry.adaptersFor tag = .error failure) :
    ∃ name, failure = .unknownAdapter name := by
  rw [adaptersFor] at h
  rw [supports, Option.isSome_iff_exists] at hsupports
  obtain ⟨names, hlookup⟩ := hsupports
  rw [hlookup] at h
  obtain ⟨name, -, hget⟩ := mapM_error h
  rw [get] at hget
  split at hget
  · cases hget
  · exact ⟨name, (Except.error.inj hget).symm⟩

/-! ## Coherence -/

/-- A registry that was made, and then merged any number of times. -/
inductive Built : Registry → Prop
  | made {adapters : List Adapter} {languages : Languages} {registry : Registry}
      (h : make adapters languages = .ok registry) : Built registry
  | merged {registry merged : Registry} {adapters : List Adapter} {languages : Languages}
      (before : Built registry) (h : registry.merge adapters languages = .ok merged) : Built merged

/-- A registry whose adapters have different names and whose language tags are different normal forms, and
whose languages list known adapters only. -/
structure Coherent (registry : Registry) : Prop where
  distinct : registry.names.Nodup
  normal : ∀ tag ∈ Ordered.keys registry.languages, normalizeLanguage tag = tag
  unique : (Ordered.keys registry.languages).Nodup
  listed : ∀ entry ∈ registry.languages, ∀ name ∈ entry.2, name ∈ registry.names

theorem coherent_of_make {adapters : List Adapter} {languages : Languages} {registry : Registry}
    (h : make adapters languages = .ok registry) : registry.Coherent := by
  obtain ⟨rfl, hdistinct, hlisted⟩ := make_eq_ok h
  have hnone : (Ordered.keys ([] : Languages)).Nodup := List.nodup_nil
  refine ⟨hdistinct, fun tag htag => ?_, Ordered.nodup_keys_putAll hnone _, ?_⟩
  · rcases Ordered.mem_keys_putAll.mp htag with htag | htag
    · cases htag
    · have hkeys := Ordered.keys_rename normalizeLanguage languages
      obtain ⟨given, -, rfl⟩ := List.mem_map.mp (hkeys ▸ htag)
      exact normalizeLanguage_normalizeLanguage given
  · exact Ordered.forall_mem_ofList
      (P := fun names => ∀ name ∈ names, name ∈ adapters.map Adapter.name)
      (List.forall_mem_map.mpr hlisted)

/-- **Every registry is coherent.** -/
theorem Built.coherent {registry : Registry} (h : registry.Built) : registry.Coherent := by
  cases h with
  | made h => exact coherent_of_make h
  | merged before h => exact coherent_of_make h

theorem Coherent.get?_name {registry : Registry} (h : registry.Coherent) {adapter : Adapter}
    (hadapter : adapter ∈ registry.adapters) : registry.get? adapter.name = some adapter := by
  rw [get?, find?_eq_lookup]
  exact Ordered.lookup_of_mem (by rw [keys_byName]; exact h.distinct) (List.mem_map_of_mem hadapter)

/-- **Every tag is resolved.** Whatever was merged into a registry, each of its adapters is found under its
own name, its tags are normal forms, and each name that a language lists has an adapter. So a tag is
refused, as the tag that it is, exactly if it is not supported; otherwise it has one registered adapter for
each name of its list, in order. Tags of one normal form are not told apart, and a tag has the same normal
form as its normal form. -/
theorem Built.tags_resolve {registry : Registry} (h : registry.Built) :
    ((∀ adapter ∈ registry.adapters, registry.get? adapter.name = some adapter) ∧
      (∀ tag ∈ Ordered.keys registry.languages, normalizeLanguage tag = tag) ∧
      ∀ entry ∈ registry.languages, ∀ name ∈ entry.2, name ∈ registry.names) ∧
    (∀ tag,
      (registry.supports tag = false ∧
        registry.adaptersFor tag = .error (.unsupportedLanguage tag)) ∨
      (registry.supports tag = true ∧
        ∃ names adapters, registry.languages.lookup (normalizeLanguage tag) = some names ∧
          registry.adaptersFor tag = .ok adapters ∧ adapters.map Adapter.name = names ∧
          ∀ adapter ∈ adapters, adapter ∈ registry.adapters)) ∧
    (∀ tag tag', normalizeLanguage tag = normalizeLanguage tag' →
      registry.supports tag = registry.supports tag' ∧
        (registry.adaptersFor tag).toOption = (registry.adaptersFor tag').toOption) ∧
    ∀ tag, normalizeLanguage (normalizeLanguage tag) = normalizeLanguage tag := by
  have hcoherent := h.coherent
  refine ⟨⟨fun adapter => hcoherent.get?_name, hcoherent.normal, hcoherent.listed⟩, fun tag => ?_,
    fun tag tag' hsame => ?_, normalizeLanguage_normalizeLanguage⟩
  · rcases adaptersFor_cases hcoherent.listed tag with
      ⟨hlookup, herror⟩ | ⟨names, adapters, hlookup, hok, hnames, hmem⟩
    · exact Or.inl ⟨by rw [supports, hlookup]; rfl, herror⟩
    · exact Or.inr ⟨by rw [supports, hlookup]; rfl, names, adapters, hlookup, hok, hnames, hmem⟩
  · refine ⟨by rw [supports, supports, hsame], ?_⟩
    rw [adaptersFor, adaptersFor, hsame]
    split <;> rfl

end Registry

/-! ## Built-in adapters -/

theorem Catalogue.built_registry : Catalogue.registry.Built :=
  .made (show Registry.make Catalogue.adapters Catalogue.languages = .ok Catalogue.registry by
    decide +kernel)

/-- The built-in registry with a language whose tag ends with a sigma, which has two lower-case forms. -/
def sigmaRegistry : Registry where
  adapters := Catalogue.adapters
  languages := Catalogue.languages ++ [("οδος", ["mypy", "ruff"])]

theorem sigmaRegistry_resolves :
    sigmaRegistry.Built ∧
    (∃ adapters, sigmaRegistry.adaptersFor "\tΟΔΟΣ" = .ok adapters ∧
      adapters.map Adapter.name = ["mypy", "ruff"]) ∧
    sigmaRegistry.adaptersFor "οδοσ" = .error (.unsupportedLanguage "οδοσ") := by
  have hbuilt : sigmaRegistry.Built :=
    .merged Catalogue.built_registry
      (show Catalogue.registry.merge [] [("ΟΔΟΣ ", ["mypy", "ruff"])] = .ok sigmaRegistry by
        decide +kernel)
  obtain ⟨-, hresolve, -⟩ := hbuilt.tags_resolve
  refine ⟨hbuilt, ?_, ?_⟩
  · rcases hresolve "\tΟΔΟΣ" with ⟨hunsupported, -⟩ | ⟨-, names, adapters, hlookup, hok, hnames, -⟩
    · exact absurd hunsupported (by decide +kernel)
    · have hlisted : sigmaRegistry.languages.lookup (normalizeLanguage "\tΟΔΟΣ")
          = some ["mypy", "ruff"] := by
        decide +kernel
      rw [hlisted] at hlookup
      exact ⟨adapters, hok, hnames.trans (Option.some.inj hlookup).symm⟩
  · rcases hresolve "οδοσ" with ⟨-, herror⟩ | ⟨hsupported, -⟩
    · exact herror
    · exact absurd hsupported (by decide +kernel)

end LintRunner
