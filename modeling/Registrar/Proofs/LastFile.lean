import Mathlib.Data.List.Induction
import Registrar.Package
import Registrar.Proofs.NameMap

/-!
# Files that take the place of others

A package keeps the last file of each path. Its declarations are those of the files it keeps, in the
order of their paths, so they depend on nothing else in the sequence in which files are added: a file
that is replaced later leaves no trace.
-/

namespace Registrar

/-- The last of some files with a path. -/
def lastAt? (files : List SourceFile) (path : String) : Option SourceFile :=
  (files.filter fun f => f.path = path).getLast?

/-- An added file is the last one of its path and of no other path. -/
theorem lastAt?_append_singleton (files : List SourceFile) (file : SourceFile) (path : String) :
    lastAt? (files ++ [file]) path = if path = file.path then some file else lastAt? files path := by
  rw [lastAt?, List.filter_append]
  by_cases hpath : path = file.path
  · rw [if_pos hpath, List.filter_cons_of_pos (by simp [hpath]), List.filter_nil,
      List.getLast?_append, List.getLast?_singleton, Option.some_or]
  · rw [if_neg hpath, List.filter_cons_of_neg (by simpa using Ne.symm hpath), List.filter_nil,
      List.append_nil, lastAt?]

/-- The last file of a path is one of the files and has the path. -/
theorem mem_of_lastAt?_eq_some {files : List SourceFile} {path : String} {file : SourceFile}
    (h : lastAt? files path = some file) : file ∈ files ∧ file.path = path := by
  have hmem := List.mem_filter.mp (List.mem_of_getLast? h)
  exact ⟨hmem.1, of_decide_eq_true hmem.2⟩

/-- A path has a last file if it has one at all. -/
theorem exists_lastAt?_iff (files : List SourceFile) (path : String) :
    (∃ file, lastAt? files path = some file) ↔ ∃ file ∈ files, file.path = path := by
  constructor
  · rintro ⟨file, hlast⟩
    exact ⟨file, mem_of_lastAt?_eq_some hlast⟩
  · rintro ⟨file, hfile, hpath⟩
    have hmem : file ∈ files.filter fun f => f.path = path :=
      List.mem_filter.mpr ⟨hfile, decide_eq_true hpath⟩
    exact ⟨_, List.getLast?_eq_some_getLast (List.ne_nil_of_mem hmem)⟩

/-- A file that is replaced later can be left out. -/
theorem lastAt?_append_cons (before after : List SourceFile) {file : SourceFile}
    (h : ∃ later ∈ after, later.path = file.path) (path : String) :
    lastAt? (before ++ file :: after) path = lastAt? (before ++ after) path := by
  rw [lastAt?, lastAt?, List.filter_append, List.filter_append]
  by_cases hpath : file.path = path
  · obtain ⟨later, hlater, hsame⟩ := h
    have hmem : later ∈ after.filter fun f => f.path = path :=
      List.mem_filter.mpr ⟨hlater, decide_eq_true (hsame.trans hpath)⟩
    have hlast := List.getLast?_eq_some_getLast (List.ne_nil_of_mem hmem)
    have hfilter : (file :: after).filter (fun f => f.path = path) =
        file :: after.filter fun f => f.path = path :=
      List.filter_cons_of_pos (decide_eq_true hpath)
    rw [hfilter, List.getLast?_append, List.getLast?_append, List.getLast?_cons, hlast]
    rfl
  · rw [List.filter_cons_of_neg (by simpa using hpath)]

namespace Package

/-- The package of a name with some files, added one after the other. -/
def ofFiles (name : String) (files : List SourceFile) : Package :=
  files.foldl addFile { name }

/-- A package keeps the last file of each path under this path. -/
theorem mem_files_ofFiles_iff (name : String) (files : List SourceFile) (path : String)
    (file : SourceFile) :
    (path, file) ∈ (ofFiles name files).files.entries ↔ lastAt? files path = some file := by
  induction files using List.reverseRecOn with
  | nil => exact iff_of_false List.not_mem_nil (by simp [lastAt?])
  | append_singleton files added ih =>
    have hadd : (ofFiles name (files ++ [added])).files =
        (ofFiles name files).files.insert added.path added := by
      rw [ofFiles, List.foldl_append]
      rfl
    rw [hadd, NameMap.mem_entries_insert, ih, lastAt?_append_singleton]
    by_cases hpath : path = added.path
    · simp [hpath, eq_comm]
    · simp [hpath]

/-- The declarations depend on the last file of each path only. -/
theorem declarations_ofFiles_congr (name name' : String) {files files' : List SourceFile}
    (h : ∀ path, lastAt? files path = lastAt? files' path) :
    (ofFiles name files).declarations = (ofFiles name' files').declarations := by
  have hfiles : (ofFiles name files).files = (ofFiles name' files').files := by
    refine NameMap.ext_entries fun ⟨path, file⟩ => ?_
    rw [mem_files_ofFiles_iff, mem_files_ofFiles_iff, h path]
  rw [declarations, declarations, hfiles]

/-- The files that a package keeps stand in increasing order of their different paths, which are those
of the added files, and each is the last one of its path. -/
theorem exists_kept_ofFiles (name : String) (files : List SourceFile) :
    ∃ kept : List SourceFile, (kept.Pairwise fun f g => f.path < g.path) ∧
      (∀ path, path ∈ kept.map SourceFile.path ↔ ∃ file ∈ files, file.path = path) ∧
      (∀ file, file ∈ kept ↔ lastAt? files file.path = some file) ∧
      (ofFiles name files).declarations = kept.flatMap SourceFile.declarations := by
  have hkey : ∀ e ∈ (ofFiles name files).files.entries, e.2.path = e.1 := by
    intro e he
    exact (mem_of_lastAt?_eq_some ((mem_files_ofFiles_iff name files e.1 e.2).mp he)).2
  have hkept : ∀ file, file ∈ (ofFiles name files).files.values ↔
      lastAt? files file.path = some file := by
    intro file
    rw [NameMap.values, List.mem_map]
    constructor
    · rintro ⟨e, he, rfl⟩
      rw [hkey e he]
      exact (mem_files_ofFiles_iff name files e.1 e.2).mp he
    · intro hlast
      exact ⟨(file.path, file), (mem_files_ofFiles_iff name files _ _).mpr hlast, rfl⟩
  refine ⟨(ofFiles name files).files.values, ?_, fun path => ?_, hkept, rfl⟩
  · rw [NameMap.values, List.pairwise_map]
    refine (ofFiles name files).files.ordered.imp_of_mem fun {a b} ha hb hlt => ?_
    rwa [hkey a ha, hkey b hb]
  · rw [← exists_lastAt?_iff, List.mem_map]
    constructor
    · rintro ⟨file, hfile, rfl⟩
      exact ⟨file, (hkept file).mp hfile⟩
    · rintro ⟨file, hlast⟩
      obtain ⟨-, rfl⟩ := mem_of_lastAt?_eq_some hlast
      exact ⟨file, (hkept file).mpr hlast, rfl⟩

/-- A package of some files has the declarations of the last file of each path, file by file in the
order of the paths. Files that agree on the last one of each path give the same declarations, and a
file that is replaced later gives none. -/
theorem declarations_last_per_path (name : String) (files : List SourceFile) :
    (∃ kept : List SourceFile, (kept.Pairwise fun f g => f.path < g.path) ∧
      (∀ path, path ∈ kept.map SourceFile.path ↔ ∃ file ∈ files, file.path = path) ∧
      (∀ file, file ∈ kept ↔ lastAt? files file.path = some file) ∧
      (ofFiles name files).declarations = kept.flatMap SourceFile.declarations) ∧
    (∀ name' files', (∀ path, lastAt? files' path = lastAt? files path) →
      (ofFiles name' files').declarations = (ofFiles name files).declarations) ∧
    ∀ before file after, files = before ++ file :: after →
      (∃ later ∈ after, later.path = file.path) →
        (ofFiles name (before ++ after)).declarations = (ofFiles name files).declarations := by
  refine ⟨exists_kept_ofFiles name files, fun name' files' hsame => ?_, ?_⟩
  · exact declarations_ofFiles_congr name' name hsame
  · rintro before file after rfl hreplaced
    refine declarations_ofFiles_congr name name fun path => ?_
    exact (lastAt?_append_cons before after hreplaced path).symm

/-- Files of two paths, the first of which is replaced by one with other declarations. -/
def replacedFiles : List SourceFile :=
  [{ path := "p/b.go", package := "p", declarations := [{ body := .func "Old" false }] },
    { path := "p/a.go", package := "p", declarations := [{ body := .func "A" false }] },
    { path := "p/b.go", package := "p",
      declarations := [{ body := .func "D" false }, { body := .func "C" false }] }]

theorem declarations_last_per_path_replacedFiles :
    (ofFiles "p" replacedFiles).declarations =
        [{ body := .func "A" false }, { body := .func "D" false }, { body := .func "C" false }] ∧
      (∀ path, lastAt? (replacedFiles.drop 1).reverse path = lastAt? replacedFiles path) ∧
      (ofFiles "q" (replacedFiles.drop 1).reverse).declarations =
        (ofFiles "p" replacedFiles).declarations ∧
      (∃ later ∈ replacedFiles.drop 1, later.path = "p/b.go") ∧
      (ofFiles "p" (replacedFiles.drop 1)).declarations =
        (ofFiles "p" replacedFiles).declarations := by
  obtain ⟨-, hsame, hreplaced⟩ := declarations_last_per_path "p" replacedFiles
  have hagree : ∀ path, lastAt? (replacedFiles.drop 1).reverse path =
      lastAt? replacedFiles path := by
    intro path
    by_cases ha : "p/a.go" = path
    · subst ha
      rfl
    · by_cases hb : "p/b.go" = path
      · subst hb
        rfl
      · simp [lastAt?, replacedFiles, ha, hb]
  have hlater : ∃ later ∈ replacedFiles.drop 1, later.path = "p/b.go" :=
    ⟨_, List.mem_cons_of_mem _ List.mem_cons_self, rfl⟩
  exact ⟨by decide, hagree, hsame "q" _ hagree, hlater, hreplaced [] _ _ rfl hlater⟩

end Package

end Registrar
