import LintRunner.Cli.Session
import LintRunner.Proofs.Config.Registry
import LintRunner.Proofs.Config.Sources
import LintRunner.Proofs.Format.Acceptance

/-!
# How configurations fail

Whatever is wrong with a configuration is reported as a problem of the configuration, but for what no
stage looks out for: a place that cannot be examined, a file that is no text (`Illegible.undecodable`), a
number with too many digits, and a pattern that repeats too often (`AdapterEntry.Exceeds`). These are all the
failures there are (`Surroundings.registry_failures`).
-/

set_option autoImplicit false

namespace LintRunner

open Regex Text

def Failure.IsConfig (failure : Failure) : Prop := ∃ problem, failure = .config problem

/-! ## Tokens -/

namespace Notation

variable {classifier : Classifier} {failure : Failure}

theorem isSeverity_of_simpleToken? {kind : String} {token : Token} (h : simpleToken? kind = some token) :
    token.isSeverity = false := by
  have hall : ∀ entry ∈ [("filename", Token.filename), ("line", .line), ("column", .column),
      ("code", .code "" false), ("spaces", .whitespace)], entry.2.isSeverity = false := by decide
  exact hall (kind, token) (Ordered.mem_of_lookup h)

theorem severityToken_eq_ok {argument : Option (Char × List Char)} {token : Token}
    (h : severityToken classifier argument = .ok token) :
    (∃ source, token = .severityFromMessage source classifier) ∨
      ∃ severity, token = .severityFixed (.known severity) := by
  unfold severityToken at h
  split at h
  · exact Or.inl ⟨none, (Except.ok.inj h).symm⟩
  · split at h
    · exact Or.inl ⟨_, (Except.ok.inj h).symm⟩
    · split at h
      · exact Or.inr ⟨_, (Except.ok.inj h).symm⟩
      · cases h

/-- The levels that a configuration writes are severities. -/
theorem level_of_tokenOfText {s : String} {word : String}
    (h : tokenOfText classifier s = .ok (.severityFixed (.unknown word))) : False := by
  rw [tokenOfText] at h
  split at h
  · cases h
  · split at h
    · have hmessage := Except.ok.inj h
      unfold messageToken at hmessage
      split at hmessage <;> cases hmessage
    · obtain ⟨source, h⟩ | ⟨severity, h⟩ := severityToken_eq_ok h <;> cases h
    · split at h
      · rename_i token htoken
        have hplain := isSeverity_of_simpleToken? htoken
        rw [Except.ok.inj h] at hplain
        cases hplain
      · cases h
    · cases h

theorem level_of_tokenOfTable {entries : List (String × Value)} {word : String}
    (h : tokenOfTable classifier entries = .ok (.severityFixed (.unknown word))) : False := by
  have hlabelled : ∀ {pattern : Value} {entries : List (String × Value)},
      patternToken.labelled classifier pattern entries ≠ .ok (.severityFixed (.unknown word)) := by
    intro pattern entries h
    rw [patternToken.labelled] at h
    split at h
    · cases hlabels : labelsOf entries with
      | error problem => rw [hlabels] at h; cases h
      | ok labels => rw [hlabels] at h; cases h
    · cases h
  rw [tokenOfTable] at h
  split at h
  · cases h
  · unfold codeToken at h
    split at h
    · split at h <;> cases h
    · cases h
  · unfold patternToken at h
    split at h
    · exact hlabelled h
    · exact hlabelled h
    · cases h
  · cases h

theorem readItem_error {item : FormatItem} (h : readItem classifier item = .error failure) :
    failure.IsConfig ∨ isTooLong item = true ∧ failure = .digitLimit none := by
  rw [readItem] at h
  split at h
  · rename_i hlong
    exact Or.inr ⟨hlong, (Except.error.inj h).symm⟩
  · split at h
    · exact Or.inl ⟨_, (Except.error.inj h).symm⟩
    · cases h

theorem level_of_readItem {item : FormatItem} {word : String}
    (h : readItem classifier item = .ok (.severityFixed (.unknown word))) : False := by
  rw [readItem] at h
  split at h
  · cases h
  · split at h
    · cases h
    · rename_i token htoken
      obtain rfl := Except.ok.inj h
      cases item with
      | text s => exact level_of_tokenOfText htoken
      | table entries => exact level_of_tokenOfTable htoken

end Notation

/-! ## Entries -/

/-- An adapter of the user's own writes a format: its items are the tokens of the format. -/
def AdapterEntry.Writes (entry : AdapterEntry) (format : Format) : Prop :=
  entry.format.mapM (Notation.readItem entry.skip.classifier) = .ok format.tokens

/-- What an adapter of the user's own may exceed, with the failure that it causes: how many digits can be
written, how often a pattern can repeat, and how many digits of a pattern can be read. -/
inductive AdapterEntry.Exceeds (entry : AdapterEntry) : Failure → Prop
  | value {item : FormatItem} (mem : item ∈ entry.format) (long : Notation.isTooLong item = true) :
      Exceeds entry (.digitLimit none)
  | count {format : Format} (writes : entry.Writes format)
      (read : Pattern.read format.source = .error .countTooLarge) : Exceeds entry .countTooLarge
  | digits {format : Format} {n : Nat} (writes : entry.Writes format)
      (read : Pattern.read format.source = .error (.digitLimit n)) :
      Exceeds entry (.digitLimit (some n))

theorem AdapterEntry.readFormat_error {entry : AdapterEntry} {failure : Failure}
    (h : Notation.readFormat entry.skip.classifier (.known entry.fallback) entry.format = .error failure) :
    failure.IsConfig ∨ entry.Exceeds failure := by
  rw [Notation.readFormat] at h
  split at h
  · rename_i hitems
    obtain rfl := Except.error.inj h
    obtain ⟨item, hitem, hread⟩ := mapM_error hitems
    obtain hconfig | ⟨hlong, rfl⟩ := Notation.readItem_error hread
    · exact Or.inl hconfig
    · exact Or.inr (.value hitem hlong)
  · rename_i tokens htokens
    split at h
    · rename_i hmake
      obtain ⟨problem, rfl⟩ := Format.make_error hmake
      exact Or.inl ⟨_, (Except.error.inj h).symm⟩
    · rename_i format hmake
      have hmade := (Format.make_eq_ok hmake).1
      rw [tokensOfParts_token] at hmade
      have hwrites : entry.Writes format := by rw [Writes, htokens, Except.ok.inj hmade]
      split at h
      · rename_i hcompile
        obtain rfl := Except.error.inj h
        obtain ⟨word, hword, rfl⟩ | rfl | ⟨hread, rfl⟩ | ⟨n, hread, rfl⟩ :=
          Format.compile_eq_error hcompile
        · -- no item writes a level that is no severity
          obtain ⟨item, -, hitem⟩ := mem_of_mapM hwrites _ hword
          exact (Notation.level_of_readItem hitem).elim
        · exact Or.inl ⟨_, rfl⟩
        · exact Or.inr (.count hwrites hread)
        · exact Or.inr (.digits hwrites hread)
      · cases h

theorem AdapterEntry.toAdapter_error {name : String} {entry : AdapterEntry} {failure : Failure}
    (h : entry.toAdapter name = .error failure) : failure.IsConfig ∨ entry.Exceeds failure := by
  rcases bind_error h with h | ⟨format, -, h⟩
  · exact entry.readFormat_error h
  · split at h
    · cases h
    · exact Or.inl ⟨_, (Except.error.inj h).symm⟩

/-- A registry is built, or there is a problem with the configuration, or one of its adapters exceeds
what can be read or written. -/
theorem Config.buildRegistry_error {config : Config} {base : Registry} {failure : Failure}
    (hbase : base.WellFormed) (h : config.buildRegistry base = .error failure) :
    failure.IsConfig ∨ ∃ entry ∈ config.adapters, entry.2.Exceeds failure := by
  rcases bind_error h with h | ⟨adapters, -, h⟩
  · obtain ⟨⟨name, entry⟩, hentry, hfailure⟩ := mapM_error h
    exact (entry.toAdapter_error hfailure).imp_right fun hexceeds => ⟨_, hentry, hexceeds⟩
  · left
    split at h
    · exact ⟨_, (Except.error.inj h).symm⟩
    · rename_i hother
      have hnodup : ((adapters.foldl Registry.putAdapter base.adapters).map Adapter.name).Nodup :=
        Registry.nodup_foldl_putAdapter hbase.distinct adapters
      obtain ⟨name, rfl⟩ := Registry.make_eq_error hnodup h
      exact absurd h (hother name)

/-! ## Files -/

/-- What no file may hold, with the failure that it causes. -/
inductive Illegible (bytes : List UInt8) : Failure → Prop
  | undecodable (decode : Utf8.decode? bytes = none) : Illegible bytes .undecodable
  | digits {text : List Char} {n : Nat} (decode : Utf8.decode? bytes = some text)
      (read : Toml.read text = .error (.digitLimit n)) : Illegible bytes (.digitLimit (some n))

/-- What is wrong with the place that a configuration is read from, with the failure that it causes: it
cannot be examined, or the file there holds what no file may hold. -/
inductive Misplaced : Except PlaceProblem (Option Contents) → Failure → Prop
  | unexamined (problem : PlaceProblem) : Misplaced (.error problem) (.unexamined problem)
  | illegible {bytes : List UInt8} {failure : Failure} (illegible : Illegible bytes failure) :
      Misplaced (.ok (some (.bytes bytes))) failure

namespace Config

variable {bytes : List UInt8} {failure : Failure} {dir : Directory} {shown : Shown} {path root : Path}
  {problem : PlaceProblem} {contents : Contents}

theorem readDocument_error {name : String} (h : readDocument name bytes = .error failure) :
    failure.IsConfig ∨ Illegible bytes failure := by
  rw [readDocument] at h
  split at h
  · rename_i hdecode
    exact Or.inr (Except.error.inj h ▸ .undecodable hdecode)
  · rename_i text hdecode
    split at h
    · cases h
    · exact Or.inl ⟨_, (Except.error.inj h).symm⟩
    · rename_i n hread
      exact Or.inr (Except.error.inj h ▸ .digits hdecode hread)

theorem readDocument_of_illegible (name : String) (h : Illegible bytes failure) :
    readDocument name bytes = .error failure := by
  cases h with
  | undecodable hdecode => rw [readDocument, hdecode]
  | digits hdecode hread => simp only [readDocument, hdecode, hread]

theorem readContents_error {name : String} (h : readContents path name contents = .error failure) :
    failure.IsConfig ∨ Misplaced (.ok (some contents)) failure := by
  cases contents with
  | unreadable reason => exact Or.inl ⟨_, (Except.error.inj h).symm⟩
  | bytes bytes =>
      rcases bind_error h with h | ⟨document, -, h⟩
      · exact (readDocument_error h).imp_right .illegible
      · cases h

theorem readContents_of_misplaced (path : Path) (name : String)
    (h : Misplaced (.ok (some contents)) failure) : readContents path name contents = .error failure := by
  cases h with
  | illegible h =>
      rw [readContents, readSection, readDocument_of_illegible name h]
      rfl

theorem lookFor_of_error (h : dir.fileAt path = .error problem) :
    lookFor dir path = .error (.unexamined problem) := by
  rw [lookFor, h]
  rfl

/-- A file that is there is read, and its section is checked. -/
theorem loadFile_of_fileAt (h : dir.fileAt path = .ok (some contents)) : loadFile dir shown path =
    readContents path (shown path) contents >>= ofSection (shown path) := by
  simp only [loadFile, lookFor_of_fileAt h, bind, Except.bind]
  cases readContents path (shown path) contents with
  | error failure => rfl
  | ok entries =>
      simp only [ofSection]
      cases Config.check (.table (normalizeKeys entries)) <;> rfl

/-! ### Searches -/

/-- What is found where a directory is searched for a configuration: the file of the own name, or else the
shared one. -/
def found (dir : Directory) (root : Path) : Except PlaceProblem (Option Contents) :=
  match dir.fileAt (root.child ownName) with
  | .ok none => dir.fileAt (root.child sharedName)
  | own => own

theorem load_of_found_error (h : found dir root = .error problem) :
    load dir shown root = .error (.unexamined problem) := by
  rw [found] at h
  split at h
  · rename_i hown
    simp only [load, find, bind, Except.bind, lookFor_of_fileAt hown, lookFor_of_error h,
      Option.isSome_none, Bool.false_eq_true, if_false]
  · simp only [load, find, lookFor_of_error h]
    rfl

theorem load_of_found_none (h : found dir root = .ok none) : load dir shown root = .ok {} := by
  rw [found] at h
  split at h
  · rename_i hown
    rw [load, find_of_none hown h]
    rfl
  · rename_i hother
    exact absurd h hother

/-- A file that is found is read, and its section is checked; an empty section is one without faults. -/
theorem load_of_found (h : found dir root = .ok (some contents)) : ∃ path,
    load dir shown root = readContents path (shown path) contents >>= ofSection (shown path) := by
  rw [found] at h
  split at h
  · rename_i hown
    refine ⟨root.child sharedName, ?_⟩
    have hfind : find dir shown root = _ := find_of_shared hown (Directory.file?_of_fileAt h)
    cases hread : readContents (root.child sharedName) (shown (root.child sharedName)) contents with
    | error failure =>
        rw [load, hfind, hread]
        rfl
    | ok entries =>
        rw [hread, Except.map] at hfind
        by_cases hempty : entries.isEmpty = true
        · rw [load, hfind, if_pos hempty, List.isEmpty_iff.mp hempty]
          rfl
        · rw [if_neg hempty] at hfind
          rw [load_of_find hfind, loadFile_of_fileAt h, hread]
  · refine ⟨root.child ownName, ?_⟩
    rw [load_of_find (find_of_own (Directory.file?_of_fileAt h)), loadFile_of_fileAt h]

end Config

/-! ## Sessions -/

namespace Cli.Surroundings

/-- What is found where a configuration is read from: at the path that is named, or in the directory. -/
def source (s : Surroundings) : Option Path → Except PlaceProblem (Option Contents)
  | some path => s.directory.fileAt path
  | none => Config.found s.directory { root := .relative, parts := [] }

/-- What is reported otherwise than as a problem of the configuration: the place that it is read from, and
what one of its adapters exceeds. -/
inductive Breaks (s : Surroundings) (path : Option Path) : Failure → Prop
  | source {failure : Failure} (misplaced : Misplaced (s.source path) failure) : Breaks s path failure
  | entry {config : Config} {name : String} {entry : AdapterEntry} {failure : Failure}
      (load : s.config path = .ok config) (mem : (name, entry) ∈ config.adapters)
      (exceeds : entry.Exceeds failure) : Breaks s path failure

variable {s : Surroundings} {path : Option Path} {failure : Failure}

theorem config_of_source_error {problem : PlaceProblem} (h : s.source path = .error problem) :
    s.config path = .error (.unexamined problem) := by
  cases path with
  | none => exact Config.load_of_found_error h
  | some path =>
      simp only [config, Config.loadFile, Config.lookFor_of_error h]
      rfl

theorem config_of_no_source (h : s.source path = .ok none) : s.config path =
    match path with
    | none => .ok {}
    | some named => .error (.config (.noFile named.text)) := by
  cases path with
  | none => exact Config.load_of_found_none h
  | some path =>
      simp only [config, Config.loadFile, Config.lookFor_of_fileAt h]
      rfl

theorem config_of_source {contents : Contents} (h : s.source path = .ok (some contents)) :
    ∃ place name, s.config path =
      Config.readContents place name contents >>= Config.ofSection name := by
  cases path with
  | none =>
      obtain ⟨place, hload⟩ := Config.load_of_found h
      exact ⟨place, _, hload⟩
  | some path => exact ⟨path, _, Config.loadFile_of_fileAt h⟩

/-- **All failures to load a configuration.** -/
theorem config_error (h : s.config path = .error failure) :
    failure.IsConfig ∨ Misplaced (s.source path) failure := by
  cases hsource : s.source path with
  | error problem =>
      rw [config_of_source_error hsource] at h
      obtain rfl := Except.error.inj h
      exact Or.inr (.unexamined problem)
  | ok found =>
      cases found with
      | none =>
          rw [config_of_no_source hsource] at h
          cases path with
          | none => cases h
          | some named => exact Or.inl ⟨_, (Except.error.inj h).symm⟩
      | some contents =>
          obtain ⟨place, name, hconfig⟩ := config_of_source hsource
          rw [hconfig] at h
          rcases bind_error h with h | ⟨entries, -, h⟩
          · exact Config.readContents_error h
          · obtain ⟨config, hchecked⟩ | ⟨issues, hchecked⟩ := Config.ofSection_cases name entries
            · rw [hchecked] at h
              cases h
            · rw [hchecked] at h
              exact Or.inl ⟨_, (Except.error.inj h).symm⟩

theorem config_of_misplaced (h : Misplaced (s.source path) failure) : s.config path = .error failure := by
  cases hsource : s.source path with
  | error problem =>
      rw [hsource] at h
      cases h
      exact config_of_source_error hsource
  | ok found =>
      rw [hsource] at h
      cases found with
      | none => cases h
      | some contents =>
          obtain ⟨place, name, hconfig⟩ := config_of_source hsource
          rw [hconfig, Config.readContents_of_misplaced place name h]
          rfl

theorem registry_of_config_error (h : s.config path = .error failure) :
    s.registry path = .error failure := by
  rw [registry, h]
  rfl

/-- **All failures of configurations.** A registry is built, or a problem of the configuration is
reported, or the configuration breaks what no stage looks out for. A place that cannot be examined, and a file
that is no text, always do; a file that is missing or cannot be read is a problem of the configuration. -/
theorem registry_failures (s : Surroundings) (path : Option Path) :
    (∀ failure, s.registry path = .error failure → failure.IsConfig ∨ s.Breaks path failure) ∧
    (∀ failure, Misplaced (s.source path) failure → s.registry path = .error failure) ∧
    (∀ reason, s.source path = .ok (some (.unreadable reason)) →
      ∃ name, s.registry path = .error (.config (.unreadable name reason))) ∧
    ∀ named, path = some named → s.source path = .ok none →
      s.registry path = .error (.config (.noFile named.text)) := by
  refine ⟨fun failure h => ?_, fun failure h => registry_of_config_error (config_of_misplaced h),
    fun reason h => ?_, ?_⟩
  · rcases bind_error h with h | ⟨config, hconfig, h⟩
    · exact (config_error h).imp_right .source
    · exact (Config.buildRegistry_error Catalogue.wellFormed_registry h).imp_right
        fun ⟨⟨name, entry⟩, hentry, hexceeds⟩ => .entry hconfig hentry hexceeds
  · obtain ⟨place, name, hconfig⟩ := config_of_source h
    exact ⟨name, registry_of_config_error hconfig⟩
  · rintro named rfl h
    exact registry_of_config_error (config_of_no_source h)

def faulty : Surroundings where
  directory := { files := [([Config.ownName], .bytes [0xFF])] }
  location := "/work"
  runner := fun _ words => .notStarted (words.headD "") "no tools"

theorem faulty_misplaced : Misplaced (faulty.source none) .undecodable := by
  have hsource : faulty.source none = .ok (some (.bytes [0xFF])) := by decide +kernel
  rw [hsource]
  exact .illegible (.undecodable (by decide +kernel))

def longPath : Path := { root := .relative, parts := [String.ofList (List.replicate 300 'a')] }

theorem faulty_breaks :
    Misplaced (faulty.source none) .undecodable ∧ faulty.registry none = .error .undecodable ∧
      (Failure.undecodable.IsConfig ∨ faulty.Breaks none .undecodable) ∧
      faulty.registry (some longPath) = .error (.unexamined .nameTooLong) ∧
      faulty.registry (some Config.here) = .error (.config (.noFile ".")) := by
  obtain ⟨hall, hmisplaced, -, -⟩ := registry_failures faulty none
  have hregistry := hmisplaced _ faulty_misplaced
  have hlong : faulty.source (some longPath) = .error .nameTooLong := by decide +kernel
  have hnone : faulty.source (some Config.here) = .ok none := by decide +kernel
  exact ⟨faulty_misplaced, hregistry, hall _ hregistry,
    (registry_failures faulty (some longPath)).2.1 _ (hlong ▸ .unexamined .nameTooLong),
    (registry_failures faulty (some Config.here)).2.2.2 _ rfl hnone⟩

/-- Not every failure of a configuration is reported as one. -/
theorem failures_not_isConfig :
    ¬ ∀ (s : Surroundings) (path : Option Path) (failure : Failure),
      s.registry path = .error failure → failure.IsConfig := by
  intro h
  obtain ⟨problem, hproblem⟩ :=
    h faulty none _ (registry_of_config_error (config_of_misplaced faulty_misplaced))
  cases hproblem

end Cli.Surroundings

end LintRunner
