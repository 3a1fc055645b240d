import Registrar.Generator
import Registrar.Proofs.Writing

/-!
# What is read of a source directory

Of a source directory only the files right in it are read. A tree that keeps the directories of
another, and the files in a source directory, is therefore parsed alike there.
-/

namespace Registrar

open Text.Utf8 (Bytes)

/-- Lists with the same names are sorted to the same list. -/
theorem sortNames_eq_of_mem_iff {l l' : List String} (h : ∀ name, name ∈ l ↔ name ∈ l') :
    sortNames l = sortNames l' := by
  apply NameMap.keys_eq_of_mem_iff
  simpa using h

/-- A tree keeps the sources of a directory: the directory stays where it is, with the files that
are right in it. -/
structure FileTree.KeepsSources (tree' tree : FileTree) (directory : String) : Prop where
  sound : tree.IsSound
  sound' : tree'.IsSound
  keeps : tree'.Keeps tree
  files : ∀ names, tree.IsDirAt directory names → ∀ name content,
    tree'.kindAt? (names ++ [name]) = some (.file content) ↔
      tree.kindAt? (names ++ [name]) = some (.file content)

namespace Go

variable {read : TreeReader} {tree tree' : FileTree} {directory : String} {names : List String}

/-- A directory is not read, whatever it is called. -/
theorem isEligible_dir (name : String) : isEligible (name, true) = false := by
  simp [isEligible, isGoFile]

/-- The paths of the eligible files of a directory. -/
theorem exists_listGoFiles (htree : tree.IsSound) (h : tree.IsDirAt directory names) :
    ∃ paths, listGoFiles tree directory = .ok (sortNames paths) ∧ ∀ path, path ∈ paths ↔
      ∃ name content, isEligible (name, false) = true ∧
        tree.kindAt? (names ++ [name]) = some (.file content) ∧ path = joinPath directory name := by
  obtain ⟨listed, hlist, hmem⟩ := h.exists_list htree
  refine ⟨(listed.filter isEligible).map fun e => joinPath directory e.1, ?_, ?_⟩
  · rw [listGoFiles, hlist]
    rfl
  · intro path
    simp only [List.mem_map, List.mem_filter, Prod.exists, hmem]
    constructor
    · rintro ⟨name, isDir, ⟨⟨kind, hkind, rfl⟩, heligible⟩, rfl⟩
      cases kind with
      | dir => simp [isEligible_dir] at heligible
      | file content => exact ⟨name, content, by simpa using heligible, hkind, rfl⟩
    · rintro ⟨name, content, heligible, hkind, rfl⟩
      exact ⟨name, false, ⟨⟨_, hkind, by simp⟩, heligible⟩, rfl⟩

/-- A file with the same contents in both trees is parsed alike. -/
theorem parseFile_joinPath_eq {names' : List String} (htree : tree.IsSound)
    (hdir : tree.IsDirAt directory names) (hdir' : tree'.IsDirAt directory names') {name : String}
    {content : Bytes} (hkind : tree.kindAt? (names ++ [name]) = some (.file content))
    (hkind' : tree'.kindAt? (names' ++ [name]) = some (.file content)) :
    parseFile read tree' (joinPath directory name) =
      parseFile read tree (joinPath directory name) := by
  have hname : IsName name := htree.isName_of_mem (by rw [hkind]; simp) name (by simp)
  have hslash := endsWith_joinPath directory hname.1
  rw [parseFile, parseFile, (hdir.asksFor_joinPath hname).read_eq hslash hkind,
    (hdir'.asksFor_joinPath hname).read_eq hslash hkind']

/-- A directory whose sources are kept is parsed alike. -/
theorem parseFiles_eq_of_keepsSources (h : tree'.KeepsSources tree directory)
    (hisDir : tree.isDir directory = true) :
    parseFiles read tree' directory = parseFiles read tree directory := by
  obtain ⟨names, hdir⟩ := (FileTree.isDir_iff _ _).mp hisDir
  have hdir' := h.keeps.isDirAt hdir
  have hfiles := h.files names hdir
  obtain ⟨paths, hlist, hmem⟩ := exists_listGoFiles h.sound hdir
  obtain ⟨paths', hlist', hmem'⟩ := exists_listGoFiles h.sound' hdir'
  have hpaths : sortNames paths' = sortNames paths := by
    apply sortNames_eq_of_mem_iff
    intro path
    simp only [hmem, hmem', hfiles]
  rw [parseFiles, parseFiles, hlist, hlist', hpaths]
  apply Except.mapM_congr
  intro path hpath
  rw [sortNames, NameSet.mem_keys_ofList, hmem] at hpath
  obtain ⟨name, content, -, hkind, rfl⟩ := hpath
  exact parseFile_joinPath_eq h.sound hdir hdir' hkind ((hfiles name content).mpr hkind)

/-- A directory is listed where it is. -/
theorem isDir_of_listGoFiles {paths : List String} (h : listGoFiles tree directory = .ok paths) :
    tree.isDir directory = true := by
  obtain ⟨listed, hlist, -⟩ := (Except.bind_eq_ok_iff _ _ _).mp h
  obtain ⟨e, hentry, hlist⟩ := (Except.bind_eq_ok_iff _ _ _).mp hlist
  rw [FileTree.isDir, hentry]
  cases e with
  | file content => cases hlist
  | dir children => rfl

/-- What is parsed is a directory. -/
theorem isDir_of_parseFiles {sources : List SourceFile}
    (h : parseFiles read tree directory = .ok sources) : tree.isDir directory = true := by
  obtain ⟨paths, hpaths, -⟩ := (Except.bind_eq_ok_iff _ _ _).mp h
  exact isDir_of_listGoFiles ((Except.mapError_eq_ok_iff _ _ _).mp hpaths)

/-- What was parsed is parsed where the sources are kept. -/
theorem parseFiles_of_keepsSources (h : tree'.KeepsSources tree directory)
    {sources : List SourceFile} (hparse : parseFiles read tree directory = .ok sources) :
    parseFiles read tree' directory = .ok sources :=
  (parseFiles_eq_of_keepsSources h (isDir_of_parseFiles hparse)).trans hparse

/-- Only a failure that the system did not report stays a failure of a path. -/
theorem ReadError.eq_zeroInPath_of_ofFile {path : String}
    {reason : FileError → ParseError.Reason} {e e' : FileError}
    (h : ofFile path reason e = .path e') : e = .zeroInPath := by
  rw [ofFile] at h
  split at h
  · cases h
  · rename_i hsystem
    simpa [FileError.isSystem] using hsystem

/-- A directory is no path at all exactly if its text holds the character zero: the names of its
files do not. -/
theorem parseFiles_eq_path_error_iff (htree : tree.IsSound) :
    (∃ e, parseFiles read tree directory = .error (.path e)) ↔ '\x00' ∈ directory.toList := by
  constructor
  · rintro ⟨e, h⟩
    rcases (Except.bind_eq_error_iff _ _ _).mp h with h | ⟨paths, hpaths, h⟩
    · obtain ⟨e', hlist, he⟩ := (Except.mapError_eq_error_iff _ _ _).mp h
      obtain rfl := ReadError.eq_zeroInPath_of_ofFile he
      rcases (Except.bind_eq_error_iff _ _ _).mp hlist with hlist | ⟨listed, -, hlist⟩
      · exact (FileTree.list_eq_error_zeroInPath_iff _ _).mp hlist
      · cases hlist
    · rw [Except.mapError_eq_ok_iff] at hpaths
      obtain ⟨names, hdir⟩ := (FileTree.isDir_iff _ _).mp (isDir_of_listGoFiles hpaths)
      obtain ⟨paths', hlist, hmem⟩ := exists_listGoFiles htree hdir
      obtain rfl : paths = sortNames paths' := Except.ok.inj (hpaths.symm.trans hlist)
      obtain ⟨path, hpath, hparse⟩ := Except.exists_mem_of_mapM_eq_error h
      rw [sortNames, NameSet.mem_keys_ofList, hmem] at hpath
      obtain ⟨name, content, -, hkind, rfl⟩ := hpath
      have hname : IsName name := htree.isName_of_mem (by rw [hkind]; simp) name (by simp)
      have hzero : '\x00' ∉ (joinPath directory name).toList := by
        rw [joinPath_of_isPart directory hname.1]
        split <;> simp [hdir.notMem_zero, hname.2.2.2]
      rcases (Except.bind_eq_error_iff _ _ _).mp hparse with hread | ⟨source, -, hparse⟩
      · obtain ⟨e', hread, he⟩ := (Except.mapError_eq_error_iff _ _ _).mp hread
        obtain rfl := ReadError.eq_zeroInPath_of_ofFile he
        rw [(hdir.asksFor_joinPath hname).read_eq (endsWith_joinPath _ hname.1) hkind] at hread
        rcases (Except.bind_eq_error_iff _ _ _).mp hread with hcheck | ⟨_, -, hlong⟩
        · exact absurd (FileTree.mem_zero_of_checkText hcheck) hzero
        · split at hlong <;> cases hlong
      · obtain ⟨e', -, he⟩ := (Except.mapError_eq_error_iff _ _ _).mp hparse
        cases he
  · intro hzero
    refine ⟨.zeroInPath, ?_⟩
    rw [parseFiles, listGoFiles, (FileTree.list_eq_error_zeroInPath_iff _ _).mpr hzero]
    rfl

end Go

namespace FileTree

variable {tree tree' : FileTree} {out : List String}

/-- A tree that has more directories keeps all sources. -/
theorem Extends.keepsSources (h : tree'.Extends tree) (htree : tree.IsSound)
    (htree' : tree'.IsSound) (directory : String) : tree'.KeepsSources tree directory :=
  ⟨htree, htree', h.keeps, fun _ _ _ content => h.files _ content⟩

/-- A change in one directory keeps the sources of all others. -/
theorem ChangedIn.keepsSources (h : tree'.ChangedIn tree out) (htree : tree.IsSound)
    {directory : String} (hapart : ∀ names, tree.IsDirAt directory names → names ≠ out) :
    tree'.KeepsSources tree directory := by
  refine ⟨htree, h.sound, h.keeps, fun names hdir name content => ?_⟩
  rw [h.elsewhere _ fun name' heq => hapart names hdir (List.append_inj_left' heq rfl)]

/-- Undoing a change in one directory keeps the sources of all others. -/
theorem ChangedIn.keepsSources_symm (h : tree'.ChangedIn tree out) (htree : tree.IsSound)
    {directory : String} (hapart : ∀ names, tree.IsDirAt directory names → names ≠ out) :
    tree.KeepsSources tree' directory := by
  have hkeeps : tree.Keeps tree' := ⟨h.keeps.home.symm, h.dirs⟩
  exact ⟨h.sound, htree, hkeeps, fun names hdir name content =>
    ((h.keepsSources htree hapart).files names (hkeeps.isDirAt hdir) name content).symm⟩

end FileTree

end Registrar
