import LintRunner.Proofs.Registry.Coherence

/-!
# Overlays

What merging further adapters and languages into a registry comes to (`Registry.Overlays`): the last
adapter of a name and the last list for a tag win, what was there keeps its place, and what is new
follows. A merge fails for nothing but a name in the resulting table that no adapter has, and two merges in
a row are one (`Registry.Built.merge_overlays`).
-/

set_option autoImplicit false

namespace LintRunner

open Text

/-- What the last entry for a normal form says, of all entries whose tags have that normal form. -/
def Languages.last? (languages : Languages) (tag : String) : Option (List String) :=
  (languages.reverse.find? fun entry => normalizeLanguage entry.1 == tag).map Prod.snd

theorem Languages.map_keys (languages : Languages) :
    (Ordered.keys languages).map normalizeLanguage
      = languages.map fun entry => normalizeLanguage entry.1 :=
  List.map_map

/-- Looking a tag up in normalized entries, from the last one on, gives the last entry for it. -/
theorem Languages.lookup_reverse_rename (languages : Languages) (tag : String) :
    (Ordered.rename normalizeLanguage languages).reverse.lookup tag = languages.last? tag := by
  rw [Languages.last?, Ordered.rename, ← List.map_reverse]
  induction languages.reverse with
  | nil => rfl
  | cons entry entries ih =>
      rw [List.map_cons, List.lookup_cons, List.find?_cons, ih, Bool.beq_comm]
      cases normalizeLanguage entry.1 == tag <;> rfl

namespace Registry

section

variable (registry : Registry) (adapters : List Adapter) (languages : Languages)

/-- A name that is listed once the last entries have won over earlier ones and over the table, and that no
adapter has. -/
def Dangling (name : String) : Prop :=
  (∃ tag names, (languages.last? tag).or (registry.languages.lookup tag) = some names ∧
    name ∈ names) ∧
  name ∉ registry.names ∧ name ∉ adapters.map Adapter.name

/-- A registry lies over another one: a name has the last of the further adapters of that name or else the
one it had, a tag has the last of the further lists for it or else the one it had; names and tags come in
the order they had, and new ones follow as they first come. -/
structure Overlays (merged : Registry) : Prop where
  get? : ∀ name, merged.get? name =
    (adapters.reverse.find? fun adapter => adapter.name == name).or (registry.get? name)
  names : merged.names = registry.names ++
    ((adapters.map Adapter.name).filter fun name => !registry.names.contains name).eraseDups
  lookup : ∀ tag, merged.languages.lookup tag =
    (languages.last? tag).or (registry.languages.lookup tag)
  tags : Ordered.keys merged.languages = Ordered.keys registry.languages ++
    ((languages.map fun entry => normalizeLanguage entry.1).filter fun tag =>
      !(Ordered.keys registry.languages).contains tag).eraseDups

/-- The registry with further adapters and languages, whatever the languages list. -/
def overlay : Registry where
  adapters := adapters.foldl putAdapter registry.adapters
  languages := Ordered.putAll registry.languages (Ordered.rename normalizeLanguage languages)

end

variable {registry : Registry} {adapters : List Adapter} {languages : Languages}

theorem overlays_overlay (registry : Registry) (adapters : List Adapter) (languages : Languages) :
    registry.Overlays adapters languages (registry.overlay adapters languages) where
  get? name := by
    have hreverse : (byName adapters).reverse = byName adapters.reverse := (List.map_reverse).symm
    rw [Registry.get?, Registry.get?, find?_eq_lookup, find?_eq_lookup, find?_eq_lookup, overlay,
      byName_foldl, Ordered.lookup_putAll, hreverse]
  names := by
    have hkeys := Ordered.keys_putAll (byName registry.adapters) (byName adapters)
    rw [← byName_foldl, keys_byName, keys_byName, keys_byName] at hkeys
    exact hkeys
  lookup tag := by
    rw [overlay, Ordered.lookup_putAll, Languages.lookup_reverse_rename]
  tags := by
    have hkeys := Ordered.keys_putAll registry.languages (Ordered.rename normalizeLanguage languages)
    rw [Ordered.keys_rename, Languages.map_keys] at hkeys
    exact hkeys

theorem Coherent.nodup_overlay (h : registry.Coherent) (adapters : List Adapter)
    (languages : Languages) :
    (registry.overlay adapters languages).names.Nodup :=
  nodup_foldl_putAdapter h.distinct adapters

theorem Coherent.normalizeLanguages_overlay (h : registry.Coherent) :
    normalizeLanguages (registry.overlay adapters languages).languages
      = (registry.overlay adapters languages).languages := by
  have hfixed : ∀ tag ∈ Ordered.keys (registry.overlay adapters languages).languages,
      normalizeLanguage tag = tag := by
    intro tag htag
    rcases Ordered.mem_keys_putAll.mp htag with htag | htag
    · exact h.normal tag htag
    · rw [Ordered.keys_rename] at htag
      obtain ⟨given, -, rfl⟩ := List.mem_map.mp htag
      exact normalizeLanguage_normalizeLanguage given
  show Ordered.ofList (Ordered.rename normalizeLanguage _) = _
  rw [Ordered.rename_of_fixed hfixed]
  exact Ordered.ofList_of_nodup (Ordered.nodup_keys_putAll h.unique _)

/-- **A merge is the overlay, unless that lists an unknown name.** Normalizing the tags once more changes
nothing. -/
theorem Coherent.merge_eq (h : registry.Coherent) (adapters : List Adapter) (languages : Languages) :
    registry.merge adapters languages
      = match unknownName? (registry.overlay adapters languages).names
          (registry.overlay adapters languages).languages with
        | some name => .error (.unknownAdapter name)
        | none => .ok (registry.overlay adapters languages) := by
  have hmake := make_of_nodup (h.nodup_overlay adapters languages)
    (registry.overlay adapters languages).languages
  rw [h.normalizeLanguages_overlay] at hmake
  exact hmake

theorem Coherent.merge_eq_ok (h : registry.Coherent) {merged : Registry}
    (hmerge : registry.merge adapters languages = .ok merged) :
    merged = registry.overlay adapters languages := by
  rw [h.merge_eq] at hmerge
  split at hmerge
  · cases hmerge
  · exact (Except.ok.inj hmerge).symm

/-- No tag gets lost in a merge, whatever tags are written. -/
theorem Coherent.supports_of_merge (h : registry.Coherent) {merged : Registry} {tag : String}
    (hmerge : registry.merge adapters languages = .ok merged) (htag : registry.supports tag = true) :
    merged.supports tag = true := by
  obtain rfl := h.merge_eq_ok hmerge
  rw [supports] at htag ⊢
  rw [(overlays_overlay registry adapters languages).lookup, Option.isSome_or, htag, Bool.or_true]

/-- The names that an overlay lists without an adapter are those that dangle. -/
theorem Coherent.dangling_iff (h : registry.Coherent) {name : String} :
    registry.Dangling adapters languages name ↔
      (∃ entry ∈ (registry.overlay adapters languages).languages, name ∈ entry.2) ∧
        name ∉ (registry.overlay adapters languages).names := by
  have hoverlays := overlays_overlay registry adapters languages
  have hnames : name ∉ (registry.overlay adapters languages).names ↔
      name ∉ registry.names ∧ name ∉ adapters.map Adapter.name := by
    have hkeys : (registry.overlay adapters languages).names
        = Ordered.keys (Ordered.putAll (byName registry.adapters) (byName adapters)) := by
      rw [← byName_foldl, keys_byName]
      rfl
    rw [hkeys, Ordered.mem_keys_putAll, keys_byName, keys_byName, not_or]
    rfl
  rw [Dangling, hnames]
  refine and_congr ⟨?_, ?_⟩ Iff.rfl
  · rintro ⟨tag, names, hlookup, hname⟩
    rw [← hoverlays.lookup] at hlookup
    exact ⟨(tag, names), Ordered.mem_of_lookup hlookup, hname⟩
  · rintro ⟨⟨tag, names⟩, hentry, hname⟩
    refine ⟨tag, names, ?_, hname⟩
    rw [← hoverlays.lookup]
    exact Ordered.lookup_of_mem (Ordered.nodup_keys_putAll h.unique _) hentry

/-- **A merge fails exactly if a name dangles**, and then for such a name. -/
theorem Coherent.merge_eq_error (h : registry.Coherent) :
    ((∃ failure, registry.merge adapters languages = .error failure) ↔
      ∃ name, registry.Dangling adapters languages name) ∧
    ∀ failure, registry.merge adapters languages = .error failure →
      ∃ name, failure = .unknownAdapter name ∧ registry.Dangling adapters languages name := by
  simp only [h.dangling_iff]
  rw [h.merge_eq]
  cases hunknown : unknownName? (registry.overlay adapters languages).names
      (registry.overlay adapters languages).languages with
  | none =>
      rw [unknownName?_eq_none] at hunknown
      refine ⟨⟨fun ⟨failure, hfailure⟩ => (by cases hfailure), ?_⟩, fun failure hfailure => (by cases hfailure)⟩
      rintro ⟨name, ⟨entry, hentry, hname⟩, hnone⟩
      exact absurd (hunknown entry hentry name hname) hnone
  | some name =>
      have hdangling : (∃ entry ∈ (registry.overlay adapters languages).languages, name ∈ entry.2) ∧
          name ∉ (registry.overlay adapters languages).names := by
        rw [unknownName?] at hunknown
        have hnone := List.find?_some hunknown
        exact ⟨List.mem_flatMap.mp (List.mem_of_find?_eq_some hunknown), by simpa using hnone⟩
      refine ⟨⟨fun _ => ⟨name, hdangling⟩, fun _ => ⟨_, rfl⟩⟩, fun failure hfailure => ?_⟩
      exact ⟨name, (Except.error.inj hfailure).symm, hdangling⟩

/-- **Two overlays are one.** The languages of both may be put together under the tags that they are given
with, if the tags of each have different normal forms. -/
theorem overlay_overlay (registry : Registry) (adapters further : List Adapter)
    {languages more : Languages}
    (hlanguages : (languages.map fun entry => normalizeLanguage entry.1).Nodup)
    (hmore : (more.map fun entry => normalizeLanguage entry.1).Nodup) :
    registry.overlay (adapters ++ further) (Ordered.putAll languages more)
      = (registry.overlay adapters languages).overlay further more := by
  rw [overlay, overlay, overlay, List.foldl_append,
    Ordered.putAll_rename (by rwa [Languages.map_keys]) (by rwa [Languages.map_keys])]

/-- **The law of overlays.** A merge into a registry fails exactly if a list of the resulting table, in
which the last entries win, holds a name that no adapter has, old or new; it never fails otherwise. If it
succeeds its result lies over the registry, of which no name and no tag gets lost. Two merges in a row, the
tags of each of which have different normal forms, are one merge of all their adapters and of the languages
of the first, updated with those of the second. -/
theorem Built.merge_overlays {registry : Registry} (h : registry.Built) (adapters : List Adapter)
    (languages : Languages) :
    (((∃ failure, registry.merge adapters languages = .error failure) ↔
        ∃ name, registry.Dangling adapters languages name) ∧
      ∀ failure, registry.merge adapters languages = .error failure →
        ∃ name, failure = .unknownAdapter name ∧ registry.Dangling adapters languages name) ∧
    (∀ merged, registry.merge adapters languages = .ok merged →
      registry.Overlays adapters languages merged ∧
        (∀ name ∈ registry.names, name ∈ merged.names) ∧
        ∀ tag, registry.supports tag = true → merged.supports tag = true) ∧
    ∀ merged further more merged', registry.merge adapters languages = .ok merged →
      merged.merge further more = .ok merged' →
      (languages.map fun entry => normalizeLanguage entry.1).Nodup →
      (more.map fun entry => normalizeLanguage entry.1).Nodup →
      registry.merge (adapters ++ further) (Ordered.putAll languages more) = .ok merged' := by
  have hcoherent := h.coherent
  refine ⟨hcoherent.merge_eq_error, fun merged hmerge => ?_, ?_⟩
  · obtain rfl := hcoherent.merge_eq_ok hmerge
    have hoverlays := overlays_overlay registry adapters languages
    refine ⟨hoverlays, fun name hname => ?_, fun tag htag => ?_⟩
    · rw [hoverlays.names]
      exact List.mem_append_left _ hname
    · rw [supports] at htag ⊢
      rw [hoverlays.lookup, Option.isSome_or, htag, Bool.or_true]
  · intro merged further more merged' hmerge hmerge' hlanguages hmore
    have hmerged := (h.merged hmerge).coherent
    obtain rfl := hcoherent.merge_eq_ok hmerge
    have hoverlay := overlay_overlay registry adapters further hlanguages hmore
    -- what the merge of all checks is what the second merge has checked
    rw [hcoherent.merge_eq, hoverlay]
    rwa [hmerged.merge_eq] at hmerge'

end Registry

/-! ## The built-in registry, extended -/

def proseAdapter : Adapter where
  name := "vale"
  command := ["vale", "--output=line", "%f"]
  format := Catalogue.gccFormat
  name_ne := by decide
  command_ne := by decide

def wrappedAdapter : Adapter :=
  { proseAdapter with command := ["uv", "run", "vale", "--output=line", "%f"], command_ne := by decide }

theorem catalogue_overlaid :
    (∃ name, Catalogue.registry.Dangling [] [("prose", ["vale"])] name) ∧
    ∃ merged merged',
      Catalogue.registry.merge [proseAdapter] [("Prose ", ["vale"]), (" PYTHON", ["ruff"])]
        = .ok merged ∧
      Catalogue.registry.Overlays [proseAdapter] [("Prose ", ["vale"]), (" PYTHON", ["ruff"])]
        merged ∧
      merged.merge [wrappedAdapter] [("python", ["vale", "ruff"])] = .ok merged' ∧
      Catalogue.registry.merge [proseAdapter, wrappedAdapter]
        [("Prose ", ["vale"]), (" PYTHON", ["ruff"]), ("python", ["vale", "ruff"])] = .ok merged' := by
  obtain ⟨⟨hfails, -⟩, -, -⟩ := Catalogue.built_registry.merge_overlays [] [("prose", ["vale"])]
  obtain ⟨-, hoverlays, htwice⟩ := Catalogue.built_registry.merge_overlays [proseAdapter]
    [("Prose ", ["vale"]), (" PYTHON", ["ruff"])]
  have hfailure : Catalogue.registry.merge [] [("prose", ["vale"])] = .error (.unknownAdapter "vale") := by
    decide +kernel
  have hmerge : Catalogue.registry.merge [proseAdapter] [("Prose ", ["vale"]), (" PYTHON", ["ruff"])]
      = .ok (Catalogue.registry.overlay [proseAdapter]
          [("Prose ", ["vale"]), (" PYTHON", ["ruff"])]) := by
    decide +kernel
  have hmerge' : (Catalogue.registry.overlay [proseAdapter]
        [("Prose ", ["vale"]), (" PYTHON", ["ruff"])]).merge [wrappedAdapter]
          [("python", ["vale", "ruff"])]
      = .ok ((Catalogue.registry.overlay [proseAdapter]
          [("Prose ", ["vale"]), (" PYTHON", ["ruff"])]).overlay [wrappedAdapter]
          [("python", ["vale", "ruff"])]) := by
    decide +kernel
  exact ⟨hfails.mp ⟨_, hfailure⟩, _, _, hmerge, (hoverlays _ hmerge).1, hmerge',
    htwice _ _ _ _ hmerge hmerge' (by decide +kernel) (by decide +kernel)⟩

end LintRunner
