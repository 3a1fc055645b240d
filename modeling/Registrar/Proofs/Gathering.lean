import Registrar.Go.Reader
import Registrar.Proofs.Lookup
import Registrar.Proofs.SourceTree

/-!
# Gathering the files of a directory

The Go files that are listed in a directory are parsed in the order of their paths and gathered by
their package clauses. If all of them can be parsed, every file stands in one package, under its
path, and nothing else does. Otherwise the directory is rejected as a whole, with the failure of the
file whose path comes first. The order of the listing makes no difference, and neither does the
reader that the files are parsed with.
-/

namespace Registrar

/-! ## Files in a source tree -/

namespace SourceTree

/-- The file that stands under a path in the package of a name. -/
def fileAt? (tree : SourceTree) (name path : String) : Option SourceFile :=
  (tree.get? name).bind fun p => p.files.get? path

/-- An added file stands under its path in the package of its clause, and all other places keep what
they have. -/
theorem fileAt?_addFile (tree : SourceTree) (file : SourceFile) (name path : String) :
    (tree.addFile file).fileAt? name path =
      if name = file.package ∧ path = file.path then some file else tree.fileAt? name path := by
  rw [fileAt?, fileAt?, addFile, NameMap.get?_insert]
  by_cases hname : name = file.package
  · subst hname
    rw [if_pos rfl, Option.bind_some, Package.addFile, NameMap.get?_insert]
    cases tree.get? file.package with
    | none => simp [NameMap.get?, NameMap.empty]
    | some p => simp
  · rw [if_neg hname, if_neg fun h => hname h.1]

/-- Of some files that are added one after the other, the last one of a package and a path stands in
their place. -/
theorem fileAt?_foldl_addFile (files : List SourceFile) (tree : SourceTree) (name path : String) :
    (files.foldl addFile tree).fileAt? name path =
      (files.reverse.find? fun f => name = f.package ∧ path = f.path).or
        (tree.fileAt? name path) := by
  induction files generalizing tree with
  | nil => rfl
  | cons file rest ih =>
    rw [List.foldl_cons, ih, fileAt?_addFile, List.reverse_cons, List.find?_append,
      Option.or_assoc, List.find?_singleton]
    by_cases hplace : name = file.package ∧ path = file.path
    · rw [if_pos hplace, if_pos (decide_eq_true hplace), Option.some_or]
    · rw [if_neg hplace, if_neg (by simpa using hplace), Option.none_or]

/-- Files with different paths all have a place, and no other file has one. -/
theorem fileAt?_ofFiles_eq_some_iff {files : List SourceFile}
    (hpaths : (files.map SourceFile.path).Nodup) (name path : String) (file : SourceFile) :
    (ofFiles files).fileAt? name path = some file ↔
      file ∈ files ∧ file.package = name ∧ file.path = path := by
  have hunique : ∀ f ∈ files.reverse, ∀ g ∈ files.reverse,
      decide (name = f.package ∧ path = f.path) = true →
        decide (name = g.package ∧ path = g.path) = true → f = g := by
    intro f hf g hg hplace hplace'
    exact List.inj_on_of_nodup_map hpaths (List.mem_reverse.mp hf) (List.mem_reverse.mp hg)
      ((of_decide_eq_true hplace).2.symm.trans (of_decide_eq_true hplace').2)
  have hrun : (ofFiles files).fileAt? name path =
      files.reverse.find? fun f => name = f.package ∧ path = f.path := by
    rw [ofFiles, fileAt?_foldl_addFile]
    exact Option.or_none
  rw [hrun, find?_eq_some_iff_of_unique hunique, List.mem_reverse, decide_eq_true_eq,
    eq_comm (a := name), eq_comm (a := path)]

/-- The packages are those of the files' clauses. -/
theorem mem_keys_ofFiles_iff (files : List SourceFile) (name : String) :
    name ∈ (ofFiles files).keys ↔ ∃ file ∈ files, file.package = name := by
  have hrun : ∀ tree : SourceTree, name ∈ (files.foldl addFile tree).keys ↔
      (∃ file ∈ files, file.package = name) ∨ name ∈ tree.keys := by
    induction files with
    | nil => simp
    | cons file rest ih =>
      intro tree
      rw [List.foldl_cons, ih, addFile, NameMap.mem_keys_insert, List.exists_mem_cons_iff,
        eq_comm (a := name), ← or_assoc, or_comm (b := file.package = name)]
  rw [ofFiles, hrun, NameMap.keys_empty]
  simp

/-- A source tree holds the files of a relation between paths and files: its packages are those of
the files' clauses, each under its own name, and every path with a file stands in one package, that
of the file's clause, where it has this file. Nothing else stands there. -/
structure Holds (tree : SourceTree) (parsed : String → SourceFile → Prop) : Prop where
  mem_keys_iff : ∀ name, name ∈ tree.keys ↔ ∃ path file, parsed path file ∧ file.package = name
  name_eq : ∀ name p, tree.get? name = some p → p.name = name
  get?_iff : ∀ name p, tree.get? name = some p → ∀ path file,
    p.files.get? path = some file ↔ parsed path file ∧ file.package = name
  stands_once : ∀ path file, parsed path file →
    ∃! name, ∃ p, tree.get? name = some p ∧ path ∈ p.files.keys

/-- The source tree of files with different paths holds them. -/
theorem holds_ofFiles {files : List SourceFile} {parsed : String → SourceFile → Prop}
    (hpaths : (files.map SourceFile.path).Nodup)
    (hparsed : ∀ path file, parsed path file ↔ file ∈ files ∧ file.path = path) :
    (ofFiles files).Holds parsed := by
  have hget : ∀ name p, (ofFiles files).get? name = some p → ∀ path file,
      p.files.get? path = some file ↔ parsed path file ∧ file.package = name := by
    intro name p hp path file
    have hplace := fileAt?_ofFiles_eq_some_iff hpaths name path file
    rw [fileAt?, hp, Option.bind_some] at hplace
    rw [hplace, hparsed, and_assoc, and_comm (a := file.package = name)]
  refine ⟨fun name => ?_, fun name p hp => (isNamed_ofFiles files).name_eq hp, hget, ?_⟩
  · rw [mem_keys_ofFiles_iff]
    simp only [hparsed]
    constructor
    · rintro ⟨file, hfile, hname⟩
      exact ⟨file.path, file, ⟨hfile, rfl⟩, hname⟩
    · rintro ⟨path, file, ⟨hfile, -⟩, hname⟩
      exact ⟨file, hfile, hname⟩
  · intro path file hfile
    obtain ⟨hmem, hpath⟩ := (hparsed path file).mp hfile
    have hplace := (fileAt?_ofFiles_eq_some_iff hpaths file.package path file).mpr
      ⟨hmem, rfl, hpath⟩
    obtain ⟨p, hp, hat⟩ := Option.bind_eq_some_iff.mp hplace
    refine ⟨file.package, ⟨p, hp, ?_⟩, ?_⟩
    · exact (NameMap.mem_keys_iff _ _).mpr ⟨file, (NameMap.get?_eq_some_iff _ _ _).mp hat⟩
    · rintro name ⟨q, hq, hkey⟩
      obtain ⟨other, hother⟩ := (NameMap.mem_keys_iff _ _).mp hkey
      have hread := (hget name q hq path other).mp ((NameMap.get?_eq_some_iff _ _ _).mpr hother)
      obtain ⟨hmem', hpath'⟩ := (hparsed path other).mp hread.1
      rw [← hread.2, List.inj_on_of_nodup_map hpaths hmem' hmem (hpath'.trans hpath.symm)]

end SourceTree

namespace Go

variable {read : TreeReader} {tree : FileTree} {directory path : String}

/-! ## Files that are parsed or rejected -/

/-- A source is rejected at its own path. -/
theorem path_of_parseSource_error {source : Text.Utf8.Bytes} {e : ParseError}
    (h : parseSource read source path = .error e) : e.path = path := by
  rw [parseSource] at h
  split at h
  · exact (Except.error.inj h) ▸ rfl
  · rw [sourceFileOf] at h
    split at h
    · exact (Except.error.inj h) ▸ rfl
    · split at h
      · exact (Except.error.inj h) ▸ rfl
      · cases h

/-- A source that is parsed keeps its path. -/
theorem path_of_parseSource {source : Text.Utf8.Bytes} {file : SourceFile}
    (h : parseSource read source path = .ok file) : file.path = path := by
  rw [parseSource] at h
  split at h
  · cases h
  · rw [sourceFileOf] at h
    split at h
    · cases h
    · split at h
      · cases h
      · exact (Except.ok.inj h) ▸ rfl

theorem path_of_parseFile {file : SourceFile} (h : parseFile read tree path = .ok file) :
    file.path = path := by
  obtain ⟨source, -, h⟩ := (Except.bind_eq_ok_iff _ _ _).mp h
  exact path_of_parseSource ((Except.mapError_eq_ok_iff _ _ _).mp h)

/-- A file whose path does not hold the character zero is read and parsed, or it is rejected at its
own path. -/
theorem exists_parseError_of_parseFile (hzero : '\x00' ∉ path.toList) {e : ReadError}
    (h : parseFile read tree path = .error e) :
    ∃ rejected, e = .parse rejected ∧ rejected.path = path := by
  rcases (Except.bind_eq_error_iff _ _ _).mp h with hread | ⟨source, -, hparse⟩
  · obtain ⟨failure, hfailure, rfl⟩ := (Except.mapError_eq_error_iff _ _ _).mp hread
    have hsystem : failure.isSystem = true := by
      rw [FileError.isSystem, decide_eq_true_eq]
      rintro rfl
      exact hzero (FileTree.mem_zero_of_read hfailure)
    exact ⟨_, if_pos hsystem, rfl⟩
  · obtain ⟨rejected, hrejected, rfl⟩ := (Except.mapError_eq_error_iff _ _ _).mp hparse
    exact ⟨rejected, rfl, path_of_parseSource_error hrejected⟩

/-- Parsed files keep the paths from which they are read. -/
theorem map_path_of_mapM_parseFile {paths : List String} {files : List SourceFile}
    (h : paths.mapM (parseFile read tree) = .ok files) : files.map SourceFile.path = paths := by
  rw [Except.mapM_eq_ok_iff] at h
  induction h with
  | nil => rfl
  | cons hfile _ ih => rw [List.map_cons, path_of_parseFile hfile, ih]

/-! ## Directories -/

/-- The path of a Go file in a listing of a directory. -/
def IsListed (listing : List (String × Bool)) (directory path : String) : Prop :=
  ∃ e ∈ listing, isEligible e = true ∧ path = joinPath directory e.1

section Listing

variable {listing : List (String × Bool)} (hlist : tree.list directory = .ok listing)
include hlist

/-- The listed paths are parsed in increasing order, each once. -/
theorem exists_paths_of_list :
    ∃ paths : List String, paths.Pairwise (· < ·) ∧
      (∀ path, path ∈ paths ↔ IsListed listing directory path) ∧
        parseFiles read tree directory = paths.mapM (parseFile read tree) := by
  refine ⟨sortNames ((listing.filter isEligible).map fun e => joinPath directory e.1),
    NameMap.keys_ordered _, fun path => ?_, ?_⟩
  · rw [sortNames, NameSet.mem_keys_ofList, List.mem_map]
    simp only [List.mem_filter, IsListed, and_assoc]
    constructor
    · rintro ⟨e, he, heligible, rfl⟩
      exact ⟨e, he, heligible, rfl⟩
    · rintro ⟨e, he, heligible, rfl⟩
      exact ⟨e, he, heligible, rfl⟩
  · rw [parseFiles, listGoFiles, hlist]
    rfl

/-- The path of a listed file does not hold the character zero. -/
theorem IsListed.notMem_zero (hnames : ∀ e ∈ listing, IsName e.1)
    (h : IsListed listing directory path) : '\x00' ∉ path.toList := by
  obtain ⟨e, he, -, rfl⟩ := h
  have hdirectory : '\x00' ∉ directory.toList := by
    rw [← FileTree.list_eq_error_zeroInPath_iff tree, hlist]
    nofun
  rw [joinPath_of_isPart directory (hnames e he).1]
  split <;> simp [hdirectory, (hnames e he).2.2.2]

/-- A directory whose listed files can all be parsed gives a source tree that holds them. -/
theorem exists_holds_of_parseFile
    (hall : ∀ path, IsListed listing directory path → ∃ file, parseFile read tree path = .ok file) :
    ∃ packages, parseDir read tree directory = .ok packages ∧ packages.Holds fun path file =>
      IsListed listing directory path ∧ parseFile read tree path = .ok file := by
  obtain ⟨paths, hordered, hmem, hparse⟩ := exists_paths_of_list hlist
  obtain ⟨files, hfiles⟩ := Except.exists_mapM_eq_ok (parseFile read tree) paths
    fun path hpath => hall path ((hmem path).mp hpath)
  refine ⟨_, parseDir_of_parseFiles (hparse.trans hfiles), SourceTree.holds_ofFiles ?_ ?_⟩
  · rw [map_path_of_mapM_parseFile hfiles]
    exact hordered.imp String.ne_of_lt
  · obtain ⟨hparsed, hread⟩ := Except.mem_of_mapM_eq_ok hfiles
    intro path file
    rw [← hmem]
    constructor
    · rintro ⟨hpath, hfile⟩
      obtain ⟨file', hfile', hok⟩ := hparsed path hpath
      obtain rfl := Except.ok.inj (hok.symm.trans hfile)
      exact ⟨hfile', path_of_parseFile hfile⟩
    · rintro ⟨hfile, rfl⟩
      obtain ⟨path, hpath, hok⟩ := hread file hfile
      rw [path_of_parseFile hok]
      exact ⟨hpath, hok⟩

/-- A directory with a listed file that cannot be parsed fails like the one of these files that has
the smallest path. -/
theorem exists_least_of_parseFile_error
    (hsome : ∃ path e, IsListed listing directory path ∧ parseFile read tree path = .error e) :
    ∃ path e, IsListed listing directory path ∧ parseFile read tree path = .error e ∧
      parseFiles read tree directory = .error e ∧
      ∀ path' e', IsListed listing directory path' → parseFile read tree path' = .error e' →
        path ≤ path' := by
  obtain ⟨paths, hordered, hmem, hparse⟩ := exists_paths_of_list hlist
  obtain ⟨path, e, hpath, herror⟩ := hsome
  cases hfiles : paths.mapM (parseFile read tree) with
  | ok files =>
    obtain ⟨file, -, hok⟩ := (Except.mem_of_mapM_eq_ok hfiles).1 path ((hmem path).mpr hpath)
    rw [herror] at hok
    cases hok
  | error e =>
    obtain ⟨front, first, back, rfl, hfront, hfirst⟩ :=
      (Except.mapM_eq_error_iff _ _ _).mp hfiles
    have hlisted : IsListed listing directory first :=
      (hmem first).mp (List.mem_append_right front List.mem_cons_self)
    refine ⟨first, e, hlisted, hfirst, hparse.trans hfiles, fun path' e' hpath' herror' => ?_⟩
    rcases List.mem_append.mp ((hmem path').mpr hpath') with hbefore | hfrom
    · obtain ⟨file, hok⟩ := hfront path' hbefore
      rw [herror'] at hok
      cases hok
    · rcases List.mem_cons.mp hfrom with rfl | hbehind
      · exact String.le_refl _
      · have hback := (List.pairwise_cons.mp (List.pairwise_append.mp hordered).2.1).1
        exact String.not_lt.mp (String.lt_asymm (hback path' hbehind))

/-- The order of the listing makes no difference. -/
theorem parseFiles_eq_of_perm {tree' : FileTree} {listing' : List (String × Bool)}
    (hlist' : tree'.list directory = .ok listing') (hperm : listing'.Perm listing)
    (hsame : ∀ path, IsListed listing directory path →
      parseFile read tree' path = parseFile read tree path) :
    parseFiles read tree' directory = parseFiles read tree directory := by
  obtain ⟨paths, hordered, hmem, hparse⟩ := exists_paths_of_list hlist
  obtain ⟨paths', hordered', hmem', hparse'⟩ := exists_paths_of_list hlist'
  have hpaths : paths' = paths := by
    apply hordered'.eq_of_mem_iff hordered
    intro path
    rw [hmem, hmem']
    exact exists_congr fun e => and_congr_left fun _ => hperm.mem_iff
  rw [hparse, hparse', hpaths]
  exact Except.mapM_congr fun path hpath => hsame path ((hmem path).mp hpath)

/-- A directory is gathered as a whole or rejected as a whole. If all of its listed files can be
parsed, it gives a source tree that holds these; otherwise it is rejected like the one of them that
is rejected and has the smallest path. Another order of the listing gives the same. -/
theorem parseDir_gathers (hnames : ∀ e ∈ listing, IsName e.1) :
    ((∀ path, IsListed listing directory path → ∃ file, parseFile read tree path = .ok file) →
      ∃ packages, parseDir read tree directory = .ok packages ∧ packages.Holds fun path file =>
        IsListed listing directory path ∧ parseFile read tree path = .ok file) ∧
    ((∃ path e, IsListed listing directory path ∧ parseFile read tree path = .error e) →
      ∃ path e, IsListed listing directory path ∧ parseFile read tree path = .error (.parse e) ∧
        e.path = path ∧ parseDir read tree directory = .error (.parse e) ∧
        ∀ path' e', IsListed listing directory path' → parseFile read tree path' = .error e' →
          path ≤ path') ∧
    ∀ (tree' : FileTree) (listing' : List (String × Bool)), tree'.list directory = .ok listing' →
      listing'.Perm listing →
      (∀ path, IsListed listing directory path →
        parseFile read tree' path = parseFile read tree path) →
        parseDir read tree' directory = parseDir read tree directory := by
  refine ⟨exists_holds_of_parseFile hlist, fun hsome => ?_,
    fun tree' listing' hlist' hperm hsame => ?_⟩
  · obtain ⟨path, e, hpath, herror, hfiles, hleast⟩ := exists_least_of_parseFile_error hlist hsome
    obtain ⟨rejected, rfl, hat⟩ :=
      exists_parseError_of_parseFile (hpath.notMem_zero hlist hnames) herror
    refine ⟨path, rejected, hpath, herror, hat, ?_, hleast⟩
    rw [parseDir, hfiles]
    rfl
  · rw [parseDir, parseDir, parseFiles_eq_of_perm hlist hlist' hperm hsame]

end Listing

/-- Two directories that are not listed in order, one with files of two packages beside a broken
test, the other with two broken files. -/
def shuffledFiles : FileTree :=
  { root := .dir [
      ("q", .dir [("y.go", .ofText "package q\n"), ("y_test.go", .ofText "((("),
        ("x.go", .ofText "package p\n")]),
      ("p", .dir [("z.go", .ofText "((("), ("m.go", .ofText "package\n"),
        ("a.go", .ofText "package p\n")])]
    home := [] }

theorem parseDir_gathers_shuffledFiles :
    (∃ packages, parseDir readSource shuffledFiles "q" = .ok packages ∧
      ∃! name, ∃ p, packages.get? name = some p ∧ "q/x.go" ∈ p.files.keys) ∧
    ∃ e, parseDir readSource shuffledFiles "p" = .error (.parse e) ∧ e.path = "p/m.go" := by
  constructor
  · have hlist : (shuffledFiles.list "q").toOption =
        some [("y.go", false), ("y_test.go", false), ("x.go", false)] := by decide +kernel
    have hparsed : ∀ entry ∈ [("y.go", false), ("y_test.go", false), ("x.go", false)],
        isEligible entry = true →
          (parseFile readSource shuffledFiles (joinPath "q" entry.1)).toOption.isSome = true := by
      decide +kernel
    obtain ⟨hgathers, -, -⟩ :=
      parseDir_gathers ((Except.toOption_eq_some_iff _ _).mp hlist) (by decide +kernel)
    obtain ⟨packages, hok, hholds⟩ := hgathers <| by
      rintro path ⟨entry, hentry, heligible, rfl⟩
      obtain ⟨file, hfile⟩ := Option.isSome_iff_exists.mp (hparsed entry hentry heligible)
      exact ⟨file, (Except.toOption_eq_some_iff _ _).mp hfile⟩
    have hfile : ∃ file, file ∈ (parseFile readSource shuffledFiles "q/x.go").toOption :=
      Option.isSome_iff_exists.mp (by decide +kernel)
    obtain ⟨file, hfile⟩ := hfile
    exact ⟨packages, hok, hholds.stands_once "q/x.go" file
      ⟨⟨("x.go", false), by simp, by decide +kernel, by decide +kernel⟩,
        (Except.toOption_eq_some_iff _ _).mp hfile⟩⟩
  · have hlist : (shuffledFiles.list "p").toOption =
        some [("z.go", false), ("m.go", false), ("a.go", false)] := by decide +kernel
    have hfirst : ∀ entry ∈ [("z.go", false), ("m.go", false), ("a.go", false)],
        joinPath "p" entry.1 ≤ "p/m.go" → joinPath "p" entry.1 = "p/m.go" ∨
          (parseFile readSource shuffledFiles (joinPath "p" entry.1)).toOption.isSome = true := by
      decide +kernel
    have hbroken : (parseFile readSource shuffledFiles "p/m.go").toOption = none := by
      decide +kernel
    obtain ⟨-, hrejects, -⟩ :=
      parseDir_gathers ((Except.toOption_eq_some_iff _ _).mp hlist) (by decide +kernel)
    have hlisted : IsListed [("z.go", false), ("m.go", false), ("a.go", false)] "p" "p/m.go" :=
      ⟨("m.go", false), by simp, by decide +kernel, by decide +kernel⟩
    cases hparse : parseFile readSource shuffledFiles "p/m.go" with
    | ok file => simp [hparse, Except.toOption] at hbroken
    | error e =>
      obtain ⟨path, rejected, ⟨entry, hentry, -, rfl⟩, herror, hat, hdir, hleast⟩ :=
        hrejects ⟨"p/m.go", e, hlisted, hparse⟩
      refine ⟨rejected, hdir, hat.trans ?_⟩
      refine (hfirst entry hentry (hleast "p/m.go" e hlisted hparse)).resolve_right ?_
      simp [herror, Except.toOption]

end Go

end Registrar
