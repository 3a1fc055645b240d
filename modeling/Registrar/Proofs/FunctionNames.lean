import Registrar.Proofs.Path
import Registrar.Proofs.Walk

/-!
# The names of registration functions

The files of a walk share one package clause, so their functions should have different names. By
default a function is called `init` with the path of its package in camel case behind it. The
walk compares the names of files, which tell more paths apart than camel case does: its functions
have different names exactly when the paths of the files that it writes differ in camel case, and
that is more than the comparison asks for.
-/

namespace Registrar

/-- A path in camel case: word breaks are left out, and a character that starts a word is put in
upper case. -/
def camelCase (startsWord : Bool) : List Char → List Char
  | [] => []
  | c :: rest =>
    if isWordBreak c then camelCase true rest
    else (if startsWord then Text.upper c else [c]) ++ camelCase false rest

/-- The words of a text that starts within a word, and of one that starts a word, in camel case. -/
theorem camelCase_eq_flatMap (path line : List Char) (lines : List (List Char))
    (h : Text.splitAt '/' (path.map fun c => if isWordBreak c then '/' else c) = line :: lines) :
    camelCase false path = line ++ (lines.filter fun word => !word.isEmpty).flatMap capitalize ∧
      camelCase true path =
        ((line :: lines).filter fun word => !word.isEmpty).flatMap capitalize := by
  induction path generalizing line lines with
  | nil =>
    cases h
    exact ⟨rfl, rfl⟩
  | cons c rest ih =>
    obtain ⟨line', lines', hrest⟩ := List.exists_cons_of_ne_nil
      (Text.splitAt_ne_nil '/' (rest.map fun c => if isWordBreak c then '/' else c))
    obtain ⟨hwithin, hstart⟩ := ih line' lines' hrest
    by_cases hc : isWordBreak c = true
    · rw [List.map_cons, if_pos hc, Text.splitAt_cons_self, hrest] at h
      cases h
      simp only [camelCase, if_pos hc, hstart]
      exact ⟨rfl, rfl⟩
    · have hslash : c ≠ '/' := by
        rintro rfl
        exact hc (by decide)
      rw [List.map_cons, if_neg hc, Text.splitAt_cons_of_ne hslash hrest] at h
      cases h
      simp only [camelCase, if_neg hc, hwithin]
      exact ⟨rfl, (List.append_assoc _ _ _).symm⟩

/-- The default suffix of a function is the path in camel case. -/
theorem initSuffixFor_eq_camelCase (path : String) :
    initSuffixFor path = String.ofList (camelCase true path.toList) := by
  obtain ⟨line, lines, h⟩ := List.exists_cons_of_ne_nil
    (Text.splitAt_ne_nil '/' (path.toList.map fun c => if isWordBreak c then '/' else c))
  rw [initSuffixFor, pathWords, h, (camelCase_eq_flatMap _ _ _ h).2]

/-- A Go file declares the function of its document behind the head. -/
theorem Document.exists_codeFile_eq (d : Document) (package : String) :
    ∃ body, d.codeFile package =
      d.fileHead package ++ ("\nfunc " ++ d.initName ++ "() \x7b\n") ++ body := by
  rw [codeFile, code]
  simp only [String.append_assoc]
  exact ⟨_, rfl⟩

namespace Walk.Plan

variable {w : Walk} {p : Plan}

/-- Unless a package says otherwise, its function has the default name. -/
theorem initName_of_mem_log {files : FileTree} {entries : List PackageEntry} {e : PackageEntry}
    {d : Document} (hinit : ∀ e ∈ entries, e.init = none) (h : (e, d) ∈ p.log w files entries) :
    d.initName = "init" ++ String.ofList (camelCase true e.path.toList) := by
  obtain ⟨he, files', hbuild⟩ := exists_build_of_mem_log h
  obtain ⟨tree, package, -, -, hdocument⟩ := Generator.exists_package_of_build hbuild
  rw [Document.initName, Document.initSuffix_of_build hdocument, PackageEntry.initSuffix,
    hinit e he, Option.getD_none, initSuffixFor_eq_camelCase]

/-- The functions of a log have different names exactly when its paths differ in camel case. -/
theorem nodup_map_initName_iff {files : FileTree} {entries : List PackageEntry}
    (hinit : ∀ e ∈ entries, e.init = none) :
    ((p.log w files entries).map fun x => x.2.initName).Nodup ↔
      ((p.log w files entries).map fun x => camelCase true x.1.path.toList).Nodup := by
  have hnames : (p.log w files entries).map (fun x => x.2.initName) =
      ((p.log w files entries).map fun x => camelCase true x.1.path.toList).map
        fun word => "init" ++ String.ofList word := by
    rw [List.map_map]
    apply List.map_congr_left
    rintro ⟨e, d⟩ hx
    exact initName_of_mem_log hinit hx
  have hinj : Function.Injective fun word : List Char => "init" ++ String.ofList word := by
    intro word word' h
    simpa [String.ext_iff] using h
  rw [hnames, List.nodup_map_iff hinj]

/-- A walk to Go files whose names do not collide and whose functions have their default names.
The files that it leaves are those it found with the documents of its log written to them. Each of
these declares the function of its document, named by the path in camel case, and the functions
have different names exactly when the paths of the log differ in camel case. -/
theorem nodup_initNames_iff (files : FileTree) (hformat : p.generator.format = .go)
    (hinit : ∀ e ∈ p.entries, e.init = none) (hnames : p.collision? [] p.entries = none) :
    p.replay files (p.log w files p.entries) = .ok (p.run w files).files ∧
      (∀ e d, (e, d) ∈ p.log w files p.entries →
        d.initName = "init" ++ String.ofList (camelCase true e.path.toList) ∧
          ∃ body, p.generator.format.renderFile d p.package =
            d.fileHead p.package ++ ("\nfunc " ++ d.initName ++ "() \x7b\n") ++ body) ∧
      (((p.log w files p.entries).map fun x => x.2.initName).Nodup ↔
        ((p.log w files p.entries).map fun x => camelCase true x.1.path.toList).Nodup) := by
  refine ⟨?_, ?_, nodup_map_initName_iff hinit⟩
  · rw [run_of_collision?_eq_none hnames]
    exact replay_log false files p.entries
  · intro e d h
    rw [hformat]
    exact ⟨initName_of_mem_log hinit h, d.exists_codeFile_eq p.package⟩

/-- Packages at `a/b`, `a-b` and `c`, and an empty directory to write to. -/
def namesakeFiles : FileTree :=
  { root := .dir [
      ("out", .dir []),
      ("src", .dir [
        ("a", .dir [("b", .dir [goFile "package b\n\nfunc F() \x7b\x7d\n"])]),
        ("a-b", .dir [goFile "package b\n\nfunc G() \x7b\x7d\n"]),
        ("c", .dir [goFile "package c\n\nvar H = 0\n"])])]
    home := [] }
where
  /-- A file of a package. -/
  goFile (text : String) : String × Entry := ("x.go", .file (Text.Utf8.encode text))

/-- The plan of the given paths. -/
def ofPaths (paths : List String) : Plan :=
  { generator := {}, out := Path.ofText "out", package := "packages"
    entries := paths.map fun path => { path } }

theorem nodup_initNames_iff_ofPaths :
    (ofPaths ["a/b", "c"]).collision? [] (ofPaths ["a/b", "c"]).entries = none ∧
      (((ofPaths ["a/b", "c"]).log { root := "src" } namesakeFiles
        (ofPaths ["a/b", "c"]).entries).map fun x => x.2.initName).Nodup := by
  have hnames : (ofPaths ["a/b", "c"]).collision? [] (ofPaths ["a/b", "c"]).entries = none := by
    decide
  refine ⟨hnames, ?_⟩
  apply (nodup_initNames_iff namesakeFiles rfl (by decide) hnames).2.2.mpr
  decide +kernel

/-- A walk over the packages that it finds can declare one function in two files. -/
theorem initNames_not_nodup :
    ∃ p : Plan, discover namesakeFiles "src" = .ok p.entries ∧ p.generator.format = .go ∧
      (∀ e ∈ p.entries, e.init = none) ∧ p.collision? [] p.entries = none ∧
      ¬ ((p.log { root := "src" } namesakeFiles p.entries).map fun x => x.2.initName).Nodup := by
  refine ⟨ofPaths ["a/b", "a-b", "c"], ?_, rfl, by decide, by decide, ?_⟩
  · decide +kernel
  · decide +kernel

end Walk.Plan

end Registrar
