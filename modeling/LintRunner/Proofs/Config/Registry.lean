import LintRunner.Config.Notation
import LintRunner.Proofs.Catalogue.Reading
import LintRunner.Proofs.Registry.Coherence
import LintRunner.Proofs.Results

/-!
# Registries of configurations

What holds of every registry that a configuration builds (`Config.wellFormed_of_buildRegistry`): the names
of its adapters differ, its languages list only these names, and all its formats can be compiled. So a
language has its adapters unless it is not listed at all. The registry of the built-in tools is one of
them, and its matchers have an answer for every line.
-/

set_option autoImplicit false

namespace LintRunner

namespace Registry

/-- A registry whose adapters have different names and formats that can be compiled, and whose languages
list none but these adapters. -/
structure WellFormed (registry : Registry) : Prop where
  distinct : registry.names.Nodup
  listed : ∀ entry ∈ registry.languages, ∀ name ∈ entry.2, name ∈ registry.names
  compiled : ∀ adapter ∈ registry.adapters, ∃ matcher, adapter.format.compile = .ok matcher

namespace WellFormed

variable {registry : Registry}

/-- The adapters of a language are found unless the language is not listed. -/
theorem adaptersFor_error (h : registry.WellFormed) {tag : String} {failure : Failure}
    (herror : registry.adaptersFor tag = .error failure) : failure = .unsupportedLanguage tag := by
  rcases adaptersFor_cases h.listed tag with ⟨-, herror'⟩ | ⟨_, _, -, hok, -⟩
  · exact (Except.error.inj (herror'.symm.trans herror)).symm
  · cases hok.symm.trans herror

end WellFormed

end Registry

/-! ## Building registries -/

/-- A format that a configuration writes can be compiled. -/
theorem Notation.compile_of_readFormat {classifier : Classifier} {fallback : Level}
    {items : List FormatItem} {format : Format} (h : readFormat classifier fallback items = .ok format) :
    ∃ matcher, format.compile = .ok matcher := by
  rw [readFormat] at h
  split at h
  · cases h
  · split at h
    · cases h
    · split at h
      · cases h
      · rename_i matcher hcompile
        obtain rfl := Except.ok.inj h
        exact ⟨matcher, hcompile⟩

theorem Adapter.make_eq_ok {name description : String} {command : Command} {format : Format}
    {adapter : Adapter} (h : Adapter.make name command (some format) description = .ok adapter) :
    adapter.format = format := by
  rw [Adapter.make] at h
  split at h
  · cases h
  · simp only at h
    split at h
    · cases h
    · split at h
      · cases h
      · obtain rfl := Except.ok.inj h
        rfl

theorem AdapterEntry.compile_of_toAdapter {name : String} {entry : AdapterEntry} {adapter : Adapter}
    (h : entry.toAdapter name = .ok adapter) : ∃ matcher, adapter.format.compile = .ok matcher := by
  obtain ⟨format, hformat, hmake⟩ := bind_eq_ok.mp h
  split at hmake
  · rename_i made hmade
    obtain rfl := Except.ok.inj hmake
    rw [Adapter.make_eq_ok hmade]
    exact Notation.compile_of_readFormat hformat
  · cases hmake

/-- A configuration builds registries by a merge of its adapters and its languages. -/
theorem Config.exists_merge_of_buildRegistry {config : Config} {base registry : Registry}
    (h : config.buildRegistry base = .ok registry) :
    ∃ adapters, (config.adapters.mapM fun entry => entry.2.toAdapter entry.1) = .ok adapters ∧
      base.merge adapters config.languages = .ok registry := by
  obtain ⟨adapters, hadapters, hmerge⟩ := bind_eq_ok.mp h
  refine ⟨adapters, hadapters, ?_⟩
  split at hmerge
  · cases hmerge
  · exact hmerge

/-- **A configuration builds well-formed registries from well-formed ones.** -/
theorem Config.wellFormed_of_buildRegistry {config : Config} {base registry : Registry}
    (hbase : base.WellFormed) (h : config.buildRegistry base = .ok registry) : registry.WellFormed := by
  obtain ⟨adapters, hadapters, hmake⟩ := Config.exists_merge_of_buildRegistry h
  have hcoherent := Registry.coherent_of_make hmake
  obtain ⟨rfl, -⟩ := Registry.make_eq_ok hmake
  refine ⟨hcoherent.distinct, hcoherent.listed, ?_⟩
  refine Registry.foldl_putAdapter
    (P := fun adapters => ∀ adapter ∈ adapters, ∃ matcher, adapter.format.compile = .ok matcher)
    (fun adapter hadapter others hothers other hother => ?_) hbase.compiled
  rcases Registry.mem_putAdapter hother with rfl | hother
  · obtain ⟨⟨name, entry⟩, -, hentry⟩ := mem_of_mapM hadapters other hadapter
    exact AdapterEntry.compile_of_toAdapter hentry
  · exact hothers other hother

/-! ## Built-in tools -/

/-- The formats of the built-in adapters are built-in formats. -/
theorem Catalogue.exists_format_name : ∀ adapter ∈ Catalogue.registry.adapters, ∃ name,
    (name, adapter.format) ∈ Catalogue.formats := by
  have hformats : ∀ adapter ∈ Catalogue.adapters, ∃ entry ∈ Catalogue.formats,
      entry.2 = adapter.format := by
    decide +kernel
  intro adapter hadapter
  obtain ⟨⟨name, format⟩, hentry, rfl⟩ := hformats adapter hadapter
  exact ⟨name, hentry⟩

theorem Catalogue.wellFormed_registry : Catalogue.registry.WellFormed where
  distinct := by decide +kernel
  listed := by decide +kernel
  compiled := fun adapter hadapter => by
    obtain ⟨name, hname⟩ := Catalogue.exists_format_name adapter hadapter
    obtain ⟨pattern, hcompile, -⟩ := Catalogue.exists_greatestBy hname
    exact ⟨_, hcompile⟩

/-- The matchers of a registry have an answer for every line. -/
def Registry.Readable (registry : Registry) : Prop :=
  ∀ adapter ∈ registry.adapters, ∀ matcher, adapter.format.compile = .ok matcher →
    ∀ line, ∃ found, matcher.apply line = .ok found

theorem Catalogue.readable_registry : Catalogue.registry.Readable := by
  intro adapter hadapter matcher hcompile line
  obtain ⟨name, hname⟩ := Catalogue.exists_format_name adapter hadapter
  exact Catalogue.exists_answer hname hcompile line

end LintRunner
