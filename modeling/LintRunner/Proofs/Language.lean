import LintRunner.Language
import LintRunner.Proofs.Config.Registry
import LintRunner.Proofs.Path
import LintRunner.Proofs.Registry.Overlay
import LintRunner.Proofs.Text.Ascii
import Mathlib.Data.List.Find

/-!
# Detected languages

The language of a path depends on its name in lower case alone (`Language.detect?_of_lowerCase_name`). The
suffix is cut off before it is put in lower case, which could matter, as a sigma at the end of a word looks
at what stands before it; but the suffixes that are known are in ASCII, and what becomes ASCII in lower case
holds no sigma (`Language.lower_suffixOf_iff`). A language that is detected is one of the built-in registry,
and no configuration can take it away (`Language.supports_of_detect?`).
-/

set_option autoImplicit false

namespace LintRunner.Language

open Text

variable {table : List (String × List String)} {a b tag : String} {p q : Path}

/-! ## Suffixes in lower case -/

theorem isUnlettered_dot : IsUnlettered (· == '.') := by
  intro c hc
  obtain rfl := beq_iff_eq.mp hc
  decide

/-- The lower-case form of what begins with a dot begins with a dot. -/
theorem lowerAfter_dot (before tail : List Char) :
    lowerAfter before ('.' :: tail) = '.' :: lowerAfter ('.' :: before) tail := by
  rw [lowerAfter, isUnlettered_dot.lowerBetween_eq (by decide)]
  rfl

theorem lowerAfter_eq_nil_iff {before cs : List Char} : lowerAfter before cs = [] ↔ cs = [] := by
  cases cs with
  | nil => exact ⟨fun _ => rfl, fun _ => rfl⟩
  | cons c cs => simp [lowerAfter, lowerBetween_ne_nil]

/-- **A suffix in ASCII may be cut off before a name is put in lower case or after that.** -/
theorem lower_suffixOf_iff {name tail : List Char} (hascii : ∀ c ∈ tail, c.toNat < 128) :
    lower (Path.suffixOf name) = '.' :: tail ↔ Path.suffixOf (lower name) = '.' :: tail := by
  have hmem : ∀ before cs, '.' ∈ lowerAfter before cs ↔ '.' ∈ cs :=
    isUnlettered_dot.mem_lowerAfter_iff (by decide)
  by_cases hdot : '.' ∈ name
  · obtain ⟨stem, last, rfl, hlast⟩ := Path.exists_last_dot hdot
    obtain ⟨lowered, hlowered, hempty⟩ := exists_lowerAfter_append [] stem ('.' :: last)
    have hwhole : lower (stem ++ '.' :: last)
        = lowered ++ '.' :: lowerAfter ('.' :: (stem.reverse ++ [])) last := by
      rw [lower, hlowered, lowerAfter_dot]
    have hlast' : '.' ∉ lowerAfter ('.' :: (stem.reverse ++ [])) last := mt (hmem _ _).mp hlast
    have hcut : (lowered = [] ∨ lowerAfter ('.' :: (stem.reverse ++ [])) last = []) ↔
        stem = [] ∨ last = [] := or_congr hempty lowerAfter_eq_nil_iff
    rw [hwhole, Path.suffixOf_append hlast, Path.suffixOf_append hlast']
    by_cases hnone : stem = [] ∨ last = []
    · rw [if_pos hnone, if_pos (hcut.mpr hnone)]
      rfl
    · rw [if_neg hnone, if_neg (mt hcut.mp hnone), lower, lowerAfter_dot, List.cons.injEq,
        List.cons.injEq]
      -- whichever of the two is in ASCII, it is the other one
      refine and_congr_right fun _ => ⟨fun h => ?_, fun h => ?_⟩
      · have hplain : ∀ c ∈ lowerAfter ['.'] last, c.toNat < 128 := by rwa [h]
        rw [lowerAfter_of_ascii hplain, h]
      · have hplain : ∀ c ∈ lowerAfter ('.' :: (stem.reverse ++ [])) last, c.toNat < 128 := by rwa [h]
        rw [lowerAfter_of_ascii hplain, h]
  · have hlower : '.' ∉ lower name := mt (hmem [] name).mp hdot
    rw [Path.suffixOf_of_not_mem hdot, Path.suffixOf_of_not_mem hlower]
    rfl

/-! ## Tables -/

def isDotted (text : List Char) : Bool :=
  match text with
  | '.' :: tail => tail.all fun c => decide (c.toNat < 128)
  | _ => false

theorem isDotted_suffixes : ∀ entry ∈ suffixes, ∀ text ∈ entry.2, isDotted text.toList = true := by
  decide

/-- A table tells two texts apart only if one of them is in it. -/
theorem lookup?_congr (h : ∀ entry ∈ table, ∀ text ∈ entry.2, text = a ↔ text = b) :
    lookup? table a = lookup? table b := by
  have hcontains : ∀ entry ∈ table, entry.2.contains a = entry.2.contains b := by
    intro entry hentry
    rw [Bool.eq_iff_iff, List.contains_iff_mem, List.contains_iff_mem]
    exact ⟨fun ha => (h entry hentry a ha).mp rfl ▸ ha, fun hb => (h entry hentry b hb).mpr rfl ▸ hb⟩
  rw [lookup?, lookup?, List.find?_congr hcontains]

theorem exists_of_lookup? (h : lookup? table a = some tag) : ∃ entry ∈ table, entry.1 = tag := by
  obtain ⟨entry, hfind, htag⟩ := Option.map_eq_some_iff.mp h
  exact ⟨entry, List.mem_of_find?_eq_some hfind, htag⟩

/-- The suffix of a path decides on a language as the suffix of its name in lower case does. -/
theorem lookup?_suffix (p : Path) : lookup? suffixes (lowerCase p.suffix)
    = lookup? suffixes (String.ofList (Path.suffixOf (lowerCase p.name).toList)) := by
  refine lookup?_congr fun entry hentry text htext => ?_
  have hdotted := isDotted_suffixes entry hentry text htext
  obtain ⟨tail, htail, hascii⟩ : ∃ tail, text.toList = '.' :: tail ∧ ∀ c ∈ tail, c.toNat < 128 := by
    unfold isDotted at hdotted
    split at hdotted
    · rename_i tail heq
      exact ⟨tail, heq, by simpa using hdotted⟩
    · cases hdotted
  rw [← String.toList_inj, ← String.toList_inj, htail, lowerCase, lowerCase, Path.suffix]
  simp only [String.toList_ofList]
  exact eq_comm.trans ((lower_suffixOf_iff hascii).trans eq_comm)

/-! ## Detection -/

/-- **The language of a path depends on its name in lower case alone.** -/
theorem detect?_of_lowerCase_name (h : lowerCase p.name = lowerCase q.name) : detect? p = detect? q := by
  rw [detect?, detect?, lookup?_suffix, lookup?_suffix, h]

/-- The languages that are detected have built-in adapters. -/
theorem supports_builtin : ∀ entry ∈ filenames ++ suffixes,
    Catalogue.registry.supports entry.1 = true := by
  decide +kernel

/-- **A configuration takes no language away that is detected.** -/
theorem supports_of_detect? (h : detect? p = some tag) {config : Config} {registry : Registry}
    (hbuild : config.buildRegistry Catalogue.registry = .ok registry) : registry.supports tag = true := by
  have hbuiltin : Catalogue.registry.supports tag = true := by
    rw [detect?, Option.or_eq_some_iff] at h
    rcases h with hname | ⟨-, hsuffix⟩
    · obtain ⟨entry, hentry, rfl⟩ := exists_of_lookup? hname
      exact supports_builtin entry (List.mem_append_left _ hentry)
    · obtain ⟨entry, hentry, rfl⟩ := exists_of_lookup? hsuffix
      exact supports_builtin entry (List.mem_append_right _ hentry)
  obtain ⟨adapters, -, hmerge⟩ := Config.exists_merge_of_buildRegistry hbuild
  exact Catalogue.built_registry.coherent.supports_of_merge hmerge hbuiltin

end LintRunner.Language
