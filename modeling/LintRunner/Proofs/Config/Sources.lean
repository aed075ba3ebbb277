import Mathlib
import LintRunner.Config.Source
import LintRunner.Proofs.Ordered

/-!
# Sources of configurations

The configuration of a directory comes from one place: the file of its own name, or else the section of
the file that is shared with other programs. What the shared file holds does not matter beside a file of
the own name, and what else it holds does not matter beside its section (`Config.load_isolated`).
-/

set_option autoImplicit false

namespace LintRunner

/-! ## Directories -/

namespace Directory

variable {dir dir' : Directory} {name last last' : String} {place : List String} {path : Path}
  {contents : Contents} {problem : PlaceProblem}

theorem file?_eq_some : dir.file? path = some contents ↔ dir.fileAt path = .ok (some contents) := by
  unfold file?
  cases dir.fileAt path <;> simp

theorem file?_of_fileAt {found : Option Contents} (h : dir.fileAt path = .ok found) :
    dir.file? path = found := by
  rw [file?, h]

/-! ### Walks -/

/-- Whether a place is a directory, closed or not. -/
def IsDirectory (dir : Directory) (place : List String) : Prop :=
  dir.entry? place = some .directory ∨ dir.entry? place = some .closed

/-- A walk goes no further where there is no directory. -/
theorem walk_cons_of_not_isDirectory (h : ¬ dir.IsDirectory place) (part : String) (rest : List String) :
    dir.walk place (part :: rest) = .ok none := by
  unfold walk
  split
  · rename_i hdirectory
    exact absurd (Or.inl hdirectory) h
  · rename_i hclosed
    exact absurd (Or.inr hclosed) h
  · rfl

theorem walk_cons_of_closed (h : dir.entry? place = some .closed) (part : String) (rest : List String) :
    dir.walk place (part :: rest) = .error .accessDenied := by
  rw [walk, h]

theorem walk_cons_of_directory (h : dir.entry? place = some .directory) (part : String)
    (rest : List String) : dir.walk place (part :: rest) =
      if part == ".." then (if place.isEmpty then .ok none else dir.walk place.dropLast rest)
      else if maxName < part.utf8ByteSize then .error .nameTooLong
      else dir.walk (place ++ [part]) rest := by
  rw [walk, h]

/-- Which name of an entry it is that a path ends in does not decide on whether it can be examined. -/
theorem walk_concat_error (hdots : last ≠ "..") (hdots' : last' ≠ "..")
    (hshort : last.utf8ByteSize ≤ maxName) (hshort' : last'.utf8ByteSize ≤ maxName)
    (parts place : List String) : dir.walk place (parts ++ [last]) = .error problem ↔
      dir.walk place (parts ++ [last']) = .error problem := by
  induction parts generalizing place with
  | nil =>
      simp only [List.nil_append]
      by_cases hplace : dir.IsDirectory place
      · rcases hplace with hplace | hplace
        · rw [walk_cons_of_directory hplace, walk_cons_of_directory hplace]
          simp [hdots, hdots', walk, Nat.not_lt.mpr hshort, Nat.not_lt.mpr hshort']
        · rw [walk_cons_of_closed hplace, walk_cons_of_closed hplace]
      · rw [walk_cons_of_not_isDirectory hplace, walk_cons_of_not_isDirectory hplace]
  | cons part parts ih =>
      simp only [List.cons_append]
      by_cases hplace : dir.IsDirectory place
      · rcases hplace with hplace | hplace
        · rw [walk_cons_of_directory hplace, walk_cons_of_directory hplace]
          split_ifs <;> simp only [ih]
        · rw [walk_cons_of_closed hplace, walk_cons_of_closed hplace]
      · rw [walk_cons_of_not_isDirectory hplace, walk_cons_of_not_isDirectory hplace]

/-- The text of the path of an entry ends in its name. -/
theorem exists_text_child (root : Path) : ∃ front, ∀ last, (root.child last).text = front ++ last := by
  have hparts : ∀ parts : List String,
      ∃ front, ∀ last, String.intercalate "/" (parts ++ [last]) = front ++ last := by
    intro parts
    induction parts with
    | nil => exact ⟨"", fun last => by simp⟩
    | cons part parts ih =>
        obtain ⟨front, hfront⟩ := ih
        refine ⟨part ++ "/" ++ front, fun last => ?_⟩
        have hne : parts ++ [last] ≠ [] := by simp
        obtain ⟨next, rest, hrest⟩ := List.exists_cons_of_ne_nil hne
        rw [List.cons_append, hrest, String.intercalate_cons_cons, ← hrest, hfront]
        simp only [String.append_assoc]
  obtain ⟨front, hfront⟩ := hparts root.parts
  refine ⟨Path.rootText root.root ++ front, fun last => ?_⟩
  have hsome : (root.child last).parts.isEmpty = false := by simp [Path.child]
  rw [Path.text, hsome, Bool.and_false, if_neg Bool.false_ne_true, Path.child, hfront,
    String.append_assoc]

/-- So whether an entry of a directory can be examined does not depend on which of two names it has, if they
are equally long. -/
theorem fileAt_child_error (hdots : last ≠ "..") (hdots' : last' ≠ "..")
    (hshort : last.utf8ByteSize ≤ maxName) (hsize : last'.utf8ByteSize = last.utf8ByteSize)
    (hnul : '\x00' ∉ last.toList) (hnul' : '\x00' ∉ last'.toList) (root : Path)
    (h : dir.fileAt (root.child last) = .error problem) :
    dir.fileAt (root.child last') = .error problem := by
  have hexamine : ∀ {path : Path}, dir.fileAt path = .error problem ↔ dir.examine path = .error problem := by
    intro path
    rw [fileAt]
    cases dir.examine path <;> simp [Except.map]
  obtain ⟨front, hfront⟩ := exists_text_child root
  have habsolute : (root.child last').isAbsolute = (root.child last).isAbsolute := rfl
  have hwalks : ∀ dir : Directory, dir.walk [] (root.child last).parts = .error problem →
      dir.walk [] (root.child last').parts = .error problem := fun _ =>
    (walk_concat_error hdots hdots' hshort (hsize ▸ hshort) root.parts []).mp
  rw [hexamine, examine] at h ⊢
  simp only [hfront, String.toList_append, List.contains_eq_mem, List.mem_append, hnul, hnul', or_false,
    String.utf8ByteSize_append, hsize, habsolute] at h ⊢
  split_ifs at h ⊢
  · exact h
  · exact hwalks _ h
  · exact hwalks _ h

/-! ### Entries that differ -/

/-- Whether directories hold the same but for files of one name: these may differ in their contents, and
they may be missing. -/
def SameBut (name : String) (dir dir' : Directory) : Prop :=
  ∀ place, dir'.entry? place = dir.entry? place ∨
    place.getLast? = some name ∧ ¬ dir.IsDirectory place ∧ ¬ dir'.IsDirectory place

theorem SameBut.isDirectory_iff (h : dir.SameBut name dir') (place : List String) :
    dir'.IsDirectory place ↔ dir.IsDirectory place := by
  rcases h place with hsame | ⟨-, hdir, hdir'⟩
  · rw [IsDirectory, IsDirectory, hsame]
  · exact iff_of_false hdir' hdir

theorem SameBut.entry?_eq (h : dir.SameBut name dir') (hplace : dir.IsDirectory place) :
    dir'.entry? place = dir.entry? place := by
  rcases h place with hsame | ⟨-, hdir, -⟩
  · exact hsame
  · exact absurd hplace hdir

/-- Paths that end in another name lead to the same. -/
theorem SameBut.walk_eq (h : dir.SameBut name dir') (hlast : last ≠ name) (hdots : last ≠ "..")
    (parts place : List String) : dir'.walk place (parts ++ [last]) = dir.walk place (parts ++ [last]) := by
  induction parts generalizing place with
  | nil =>
      rw [List.nil_append]
      by_cases hplace : dir.IsDirectory place
      · -- the walk ends at a place of another name, where both hold the same
        have hend : dir'.entry? (place ++ [last]) = dir.entry? (place ++ [last]) := by
          rcases h (place ++ [last]) with hsame | ⟨hname, -⟩
          · exact hsame
          · rw [List.getLast?_concat] at hname
            exact absurd (Option.some.inj hname) hlast
        unfold walk
        simp [h.entry?_eq hplace, hdots, walk, hend]
      · rw [walk_cons_of_not_isDirectory hplace,
          walk_cons_of_not_isDirectory (mt (h.isDirectory_iff place).mp hplace)]
  | cons part parts ih =>
      rw [List.cons_append]
      by_cases hplace : dir.IsDirectory place
      · unfold walk
        simp only [h.entry?_eq hplace, ih]
      · rw [walk_cons_of_not_isDirectory hplace,
          walk_cons_of_not_isDirectory (mt (h.isDirectory_iff place).mp hplace)]

theorem SameBut.fileAt_child (h : dir.SameBut name dir') (hlast : last ≠ name) (hdots : last ≠ "..")
    (root : Path) : dir'.fileAt (root.child last) = dir.fileAt (root.child last) := by
  have hwalk : dir'.walk [] (root.child last).parts = dir.walk [] (root.child last).parts :=
    h.walk_eq hlast hdots root.parts []
  rw [fileAt, fileAt, examine, examine, hwalk]

/-! ### Files that are rewritten -/

def Rewritten (name : String) (files files' : List (List String × Contents)) : Prop :=
  List.Forall₂ (fun file file' => file'.1 = file.1 ∧
    (file'.2 = file.2 ∨ file.1.getLast? = some name)) files files'

section

variable {files files' : List (List String × Contents)}

theorem Rewritten.paths_eq (h : Rewritten name files files') :
    files'.map Prod.fst = files.map Prod.fst :=
  Ordered.map_eq_of_forall₂ h fun _ _ hfile => hfile.1

/-- A file lies at a place both before and after or at neither time. -/
theorem Rewritten.find?_cases (h : Rewritten name files files') (place : List String) :
    files'.find? (fun file => file.1 == place) = none ∧
        files.find? (fun file => file.1 == place) = none ∨
      ∃ file file', files'.find? (fun file => file.1 == place) = some file' ∧
        files.find? (fun file => file.1 == place) = some file ∧
        (file'.2 = file.2 ∨ place.getLast? = some name) := by
  induction h with
  | nil => exact Or.inl ⟨rfl, rfl⟩
  | @cons file file' files files' hfile _ ih =>
      obtain ⟨hpath, hcontents⟩ := hfile
      by_cases hplace : file.1 = place
      · subst hplace
        exact Or.inr ⟨file, file', List.find?_cons_of_pos (by simpa using hpath),
          List.find?_cons_of_pos (by simp), hcontents⟩
      · rw [List.find?_cons_of_neg (by simpa [hpath] using hplace),
          List.find?_cons_of_neg (by simpa using hplace)]
        exact ih

end

/-- Changing the contents of the files of a name leaves everything else as it is. -/
theorem sameBut_of_rewritten (hdirectories : dir'.directories = dir.directories)
    (hclosed : dir'.closed = dir.closed) (hfiles : Rewritten name dir.files dir'.files) :
    dir.SameBut name dir' := by
  intro place
  have hprefix : (dir'.files.any fun file => place.isPrefixOf file.1)
      = dir.files.any fun file => place.isPrefixOf file.1 := by
    have hany := congrArg (List.any · place.isPrefixOf) hfiles.paths_eq
    simpa [List.any_map, Function.comp_def] using hany
  obtain ⟨hnone', hnone⟩ | ⟨file, file', hsome', hsome, hcontents⟩ := hfiles.find?_cases place
  · left
    unfold entry?
    rw [hnone', hnone, hdirectories, hclosed, hprefix]
  · have hentry' : dir'.entry? place = some (.file file'.2) := by
      unfold entry?
      rw [hsome']
    have hentry : dir.entry? place = some (.file file.2) := by
      unfold entry?
      rw [hsome]
    rcases hcontents with hcontents | hname
    · left
      rw [hentry', hentry, hcontents]
    · right
      unfold IsDirectory
      rw [hentry', hentry]
      exact ⟨hname, by simp, by simp⟩

end Directory

namespace Config

variable {dir dir' : Directory} {shown : Shown} {root path : Path} {bytes : List UInt8}
  {contents : Contents} {document document' entries : Toml.Entries}

/-! ## Sections -/

/-- Whether a table is the section for this program in a shared document. -/
def HasSection (document table : Toml.Entries) : Prop :=
  ∃ tools, document.lookup "tool" = some (.table tools) ∧ tools.lookup "diaglint" = some (.table table)

theorem sharedSection_of_hasSection {table : Toml.Entries} (h : HasSection document table) :
    sharedSection document = table := by
  obtain ⟨tools, htools, htable⟩ := h
  simp only [sharedSection, htools, htable]

theorem sharedSection_of_not_hasSection (h : ∀ table, ¬ HasSection document table) :
    sharedSection document = [] := by
  unfold sharedSection
  split
  · rename_i tools htools
    split
    · rename_i table htable
      exact absurd ⟨tools, htools, htable⟩ (h table)
    · rfl
  · rfl

/-- A document with an empty section is like one without any. -/
theorem sharedSection_eq_nil (h : ∀ table, HasSection document table → table = []) :
    sharedSection document = [] := by
  by_cases hsection : ∃ table, HasSection document table
  · obtain ⟨table, htable⟩ := hsection
    rw [sharedSection_of_hasSection htable, h table htable]
  · exact sharedSection_of_not_hasSection (not_exists.mp hsection)

theorem sharedSection_congr (h : ∀ table, HasSection document table ↔ HasSection document' table) :
    sharedSection document' = sharedSection document := by
  by_cases hsection : ∃ table, HasSection document table
  · obtain ⟨table, htable⟩ := hsection
    rw [sharedSection_of_hasSection htable, sharedSection_of_hasSection ((h table).mp htable)]
  · have hnone := not_exists.mp hsection
    rw [sharedSection_of_not_hasSection hnone,
      sharedSection_of_not_hasSection fun table htable => hnone table ((h table).mpr htable)]

/-! ## Files -/

def ofSection (shownPath : String) (entries : Toml.Entries) : Except Failure Config :=
  match Config.check (.table (normalizeKeys entries)) with
  | .ok config => .ok config
  | .bad issues => .error (.config (.badDocument shownPath issues))

theorem ofSection_cases (shownPath : String) (entries : Toml.Entries) :
    (∃ config, ofSection shownPath entries = .ok config) ∨
      ∃ issues, ofSection shownPath entries = .error (.config (.badDocument shownPath issues)) := by
  unfold ofSection
  split
  · exact Or.inl ⟨_, rfl⟩
  · exact Or.inr ⟨_, rfl⟩

theorem lookFor_of_fileAt {found : Option Contents} (h : dir.fileAt path = .ok found) :
    lookFor dir path = .ok found := by
  rw [lookFor, h]
  rfl

theorem lookFor_of_file? (h : dir.file? path = some contents) : lookFor dir path = .ok (some contents) :=
  lookFor_of_fileAt (Directory.file?_eq_some.mp h)

theorem loadFile_of_section (hfile : dir.file? path = some (.bytes bytes))
    (hread : readSection path (shown path) bytes = .ok entries) :
    loadFile dir shown path = ofSection (shown path) entries := by
  have hcontents : readContents path (shown path) (.bytes bytes) = .ok entries := hread
  rw [loadFile, lookFor_of_file? hfile]
  simp only [bind, Except.bind, hcontents]
  rw [ofSection]
  cases Config.check (.table (normalizeKeys entries)) <;> rfl

/-- What a file says depends on its contents only. -/
theorem loadFile_congr (h : dir'.fileAt path = dir.fileAt path) :
    loadFile dir' shown path = loadFile dir shown path := by
  rw [loadFile, loadFile, lookFor, lookFor, h]

theorem name_child (root : Path) (name : String) : (root.child name).name = name := by
  simp [Path.child, Path.name]

theorem readSection_shared {shownPath : String} (h : readDocument shownPath bytes = .ok document) :
    readSection (root.child sharedName) shownPath bytes = .ok (sharedSection document) := by
  rw [readSection, h, name_child]
  rfl

/-! ## Directories -/

theorem find_of_own (h : dir.file? (root.child ownName) = some contents) :
    find dir shown root = .ok (some (root.child ownName)) := by
  rw [find, lookFor_of_file? h]
  rfl

/-- Where the shared file is found, the place of the own one can be examined. -/
theorem fileAt_own (hown : dir.file? (root.child ownName) = none)
    (h : dir.file? (root.child sharedName) = some contents) :
    dir.fileAt (root.child ownName) = .ok none := by
  cases hfound : dir.fileAt (root.child ownName) with
  | ok found => rw [← Directory.file?_of_fileAt hfound, hown]
  | error problem =>
      have hshared : dir.fileAt (root.child sharedName) = .error problem :=
        Directory.fileAt_child_error (by decide) (by decide) (by decide) (by decide) (by decide)
          (by decide) root hfound
      rw [Directory.file?_eq_some.mp h] at hshared
      cases hshared

theorem find_of_shared (hown : dir.fileAt (root.child ownName) = .ok none)
    (h : dir.file? (root.child sharedName) = some contents) :
    find dir shown root =
      (readContents (root.child sharedName) (shown (root.child sharedName)) contents).map
        fun entries => if entries.isEmpty then none else some (root.child sharedName) := by
  simp only [find, bind, Except.bind, lookFor_of_fileAt hown, lookFor_of_file? h, Option.isSome_none,
    Bool.false_eq_true, if_false]
  cases readContents (root.child sharedName) (shown (root.child sharedName)) contents with
  | error failure => rfl
  | ok entries =>
      simp only [Except.map]
      split <;> rfl

theorem find_of_none (hown : dir.fileAt (root.child ownName) = .ok none)
    (hshared : dir.fileAt (root.child sharedName) = .ok none) : find dir shown root = .ok none := by
  simp only [find, bind, Except.bind, lookFor_of_fileAt hown, lookFor_of_fileAt hshared,
    Option.isSome_none, Bool.false_eq_true, if_false]
  rfl

/-- The configuration of a directory is that of the file that is found in it. -/
theorem load_of_find (h : find dir shown root = .ok (some path)) :
    load dir shown root = loadFile dir shown path := by
  rw [load, h]
  rfl

/-- Without a file of the own name the section of the shared one counts, unless it is empty. -/
theorem load_of_shared (hown : dir.file? (root.child ownName) = none)
    (hshared : dir.file? (root.child sharedName) = some (.bytes bytes))
    (hread : readDocument (shown (root.child sharedName)) bytes = .ok document) :
    load dir shown root = if (sharedSection document).isEmpty then .ok {}
      else ofSection (shown (root.child sharedName)) (sharedSection document) := by
  have hsection : readSection (root.child sharedName) (shown (root.child sharedName)) bytes
      = .ok (sharedSection document) := readSection_shared hread
  have hfind : find dir shown root = .ok (if (sharedSection document).isEmpty then none
      else some (root.child sharedName)) := by
    rw [find_of_shared (fileAt_own hown hshared) hshared, readContents, hsection]
    rfl
  by_cases hempty : (sharedSection document).isEmpty = true
  · rw [if_pos hempty] at hfind ⊢
    rw [load, hfind]
    rfl
  · rw [if_neg hempty] at hfind ⊢
    rw [load_of_find hfind, loadFile_of_section hshared hsection]

/-- **The sources of a configuration are kept apart.** A file of the own name is found whatever the shared
file holds, and the configuration is the same whatever the shared file holds. Otherwise, if the shared
file is a document, the configuration or what is wrong with it depends only on the section for this
program, and it is the default one if there is no such section or an empty one. A file that is found says
the same if it is named. -/
theorem load_isolated (dir : Directory) (shown : Shown) (root : Path) :
    (∀ contents, dir.file? (root.child ownName) = some contents →
      find dir shown root = .ok (some (root.child ownName)) ∧
        ∀ dir', dir.SameBut sharedName dir' → load dir' shown root = load dir shown root) ∧
    (∀ bytes document, dir.file? (root.child ownName) = none →
      dir.file? (root.child sharedName) = some (.bytes bytes) →
      readDocument (shown (root.child sharedName)) bytes = .ok document →
      (∀ dir' bytes' document', dir.SameBut sharedName dir' →
        dir'.file? (root.child sharedName) = some (.bytes bytes') →
        readDocument (shown (root.child sharedName)) bytes' = .ok document' →
        (∀ table, HasSection document table ↔ HasSection document' table) →
        load dir' shown root = load dir shown root) ∧
      ((∃ config, load dir shown root = .ok config) ∨ ∃ issues, load dir shown root
        = .error (.config (.badDocument (shown (root.child sharedName)) issues))) ∧
      ((∀ table, HasSection document table → table = []) → load dir shown root = .ok {})) ∧
    ∀ path, find dir shown root = .ok (some path) →
      load dir shown root = loadFile dir shown path := by
  have hown : ∀ {dir'}, dir.SameBut sharedName dir' →
      dir'.fileAt (root.child ownName) = dir.fileAt (root.child ownName) := fun hsame =>
    hsame.fileAt_child (by decide) (by decide) root
  have hfile : ∀ {dir'}, dir.SameBut sharedName dir' →
      dir'.file? (root.child ownName) = dir.file? (root.child ownName) := by
    intro dir' hsame
    rw [Directory.file?, Directory.file?, hown hsame]
  refine ⟨fun contents hcontents => ⟨find_of_own hcontents, fun dir' hsame => ?_⟩,
    fun bytes document hnone hshared hread => ⟨?_, ?_, fun hempty => ?_⟩, fun path => load_of_find⟩
  · have hcontents' := (hfile hsame).trans hcontents
    rw [load_of_find (find_of_own hcontents), load_of_find (find_of_own hcontents'),
      loadFile_congr (hown hsame)]
  · intro dir' bytes' document' hsame hshared' hread' hsections
    rw [load_of_shared hnone hshared hread, load_of_shared ((hfile hsame).trans hnone) hshared' hread',
      sharedSection_congr hsections]
  · rw [load_of_shared hnone hshared hread]
    split
    · exact Or.inl ⟨_, rfl⟩
    · exact ofSection_cases _ _
  · rw [load_of_shared hnone hshared hread, sharedSection_eq_nil hempty]
    rfl

def here : Path := { root := .relative, parts := [] }

def written (text : String) : List UInt8 := text.toList.map fun c => UInt8.ofNat c.toNat

/-- A directory with a shared file, and with an empty file of the own name if so desired. -/
def sharing (own : Bool) (text : String) : Directory where
  files := (if own then [([ownName], .bytes [])] else []) ++ [([sharedName], .bytes (written text))]

theorem sameBut_sharing (own : Bool) (text text' : String) :
    (sharing own text).SameBut sharedName (sharing own text') := by
  refine Directory.sameBut_of_rewritten rfl rfl ?_
  cases own with
  | false => exact .cons ⟨rfl, Or.inr rfl⟩ .nil
  | true => exact .cons ⟨rfl, Or.inl rfl⟩ (.cons ⟨rfl, Or.inr rfl⟩ .nil)

theorem file?_sharing_own (text : String) :
    (sharing true text).file? (here.child ownName) = some (.bytes []) ∧
      (sharing false text).file? (here.child ownName) = none := by
  constructor <;> rfl

theorem file?_sharing_shared (own : Bool) (text : String) :
    (sharing own text).file? (here.child sharedName) = some (.bytes (written text)) := by
  cases own <;> rfl

/-- Shared files with an open list, with another table in front of the section, and without a table. -/
theorem sharing_isolated :
    find (sharing true "tool = [") Path.text here = .ok (some (here.child ownName)) ∧
      load (sharing true "tool.diaglint.x = 1") Path.text here
        = load (sharing true "tool = [") Path.text here ∧
      load (sharing false "[x]\n[tool]\ndiaglint.languages.c = []") Path.text here
        = load (sharing false "tool.diaglint.languages.c = []") Path.text here ∧
      load (sharing false "tool.diaglint = 1") Path.text here = .ok {} ∧
      load (sharing false "tool.diaglint.languages.c = []") Path.text here
        = loadFile (sharing false "tool.diaglint.languages.c = []") Path.text (here.child sharedName) := by
  obtain ⟨hfound, hsame⟩ :=
    (load_isolated (sharing true "tool = [") Path.text here).1 _ (file?_sharing_own _).1
  have hread : readDocument (Path.text (here.child sharedName))
      (written "tool.diaglint.languages.c = []")
        = .ok [("tool", .table [("diaglint", .table [("languages", .table [("c", .list [])])])])] := by
    cbv
  refine ⟨hfound, hsame _ (sameBut_sharing true _ _), ?_, ?_, ?_⟩
  · have hread' : readDocument (Path.text (here.child sharedName))
        (written "[x]\n[tool]\ndiaglint.languages.c = []")
          = .ok [("x", .table []),
            ("tool", .table [("diaglint", .table [("languages", .table [("c", .list [])])])])] := by
      cbv
    refine ((load_isolated _ Path.text here).2.1 _ _ (file?_sharing_own _).2
      (file?_sharing_shared false _) hread).1 _ _ _ (sameBut_sharing false _ _)
      (file?_sharing_shared false _) hread' fun table => ?_
    simp [HasSection, List.lookup_cons]
  · have hread' : readDocument (Path.text (here.child sharedName))
        (written "tool.diaglint = 1")
          = .ok [("tool", .table [("diaglint", .int 1)])] := by
      cbv
    refine ((load_isolated _ Path.text here).2.1 _ _ (file?_sharing_own _).2
      (file?_sharing_shared false _) hread').2.2 ?_
    simp [HasSection]
  · refine (load_isolated _ Path.text here).2.2 _ ?_
    have hown : (sharing false "tool.diaglint.languages.c = []").fileAt (here.child ownName) = .ok none :=
      fileAt_own (file?_sharing_own _).2 (file?_sharing_shared false _)
    rw [find_of_shared hown (file?_sharing_shared false _), readContents, readSection_shared hread]
    have hsection : HasSection
        [("tool", .table [("diaglint", .table [("languages", .table [("c", .list [])])])])]
        [("languages", .table [("c", .list [])])] := by
      simp [HasSection]
    rw [sharedSection_of_hasSection hsection]
    rfl

end Config

end LintRunner
