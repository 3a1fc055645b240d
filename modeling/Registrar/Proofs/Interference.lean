import Registrar.Proofs.Attributes
import Registrar.Proofs.Exactness
import Registrar.Proofs.SourceDirectory

/-!
# Files that do not matter

What is generated for a directory depends on the files of its candidate packages and on the
failures of its Go files alone. Two states of a directory therefore give the same text or the same
failure if they agree on the Go files that are listed, up to files that can be parsed and whose
package is no candidate. Everything that is not listed, such as test files, directories and files
of other kinds, may differ as it likes, and so may what attributes show that the dialect does not
take.
-/

namespace Registrar

open Text.Utf8 (Bytes)

/-- A file whose package can be chosen. -/
def SourceFile.isCandidate (file : SourceFile) : Bool :=
  Registrar.isCandidate file.package

namespace SourceTree

/-- Two source trees with the same candidates, whatever their other packages. -/
def SameCandidates (tree tree' : SourceTree) : Prop :=
  ∀ name, isCandidate name = true → tree.get? name = tree'.get? name

variable {tree tree' : SourceTree}

/-- The same file is added on both sides. -/
theorem SameCandidates.addFile (h : tree.SameCandidates tree') (file : SourceFile) :
    (tree.addFile file).SameCandidates (tree'.addFile file) := by
  intro name hname
  rw [SourceTree.addFile, SourceTree.addFile, NameMap.get?_insert, NameMap.get?_insert]
  by_cases heq : name = file.package
  · subst heq
    rw [if_pos rfl, if_pos rfl, h _ hname]
  · rw [if_neg heq, if_neg heq, h name hname]

/-- A file of a package that is no candidate is added on one side. -/
theorem SameCandidates.addFile_left (h : tree.SameCandidates tree') {file : SourceFile}
    (hfile : file.isCandidate = false) : (tree.addFile file).SameCandidates tree' := by
  intro name hname
  have hne : name ≠ file.package := by
    rintro rfl
    exact Bool.false_ne_true (hfile.symm.trans hname)
  rw [SourceTree.addFile, NameMap.get?_insert, if_neg hne, h name hname]

/-- The candidates among the packages of some files come from the files that can be chosen. -/
theorem sameCandidates_ofFiles (files : List SourceFile) :
    (ofFiles files).SameCandidates (ofFiles (files.filter SourceFile.isCandidate)) := by
  have hrun : ∀ tree tree' : SourceTree, tree.SameCandidates tree' →
      (files.foldl addFile tree).SameCandidates
        ((files.filter SourceFile.isCandidate).foldl addFile tree') := by
    induction files with
    | nil => exact fun _ _ h => h
    | cons file rest ih =>
      intro tree tree' h
      cases hfile : file.isCandidate with
      | false =>
        rw [List.filter_cons_of_neg (by simp [hfile])]
        exact ih _ _ (h.addFile_left hfile)
      | true =>
        rw [List.filter_cons_of_pos hfile]
        exact ih _ _ (h.addFile file)
  exact hrun _ _ fun _ _ => rfl

/-- The same candidates are listed. -/
theorem SameCandidates.candidatePackages_eq (h : tree.SameCandidates tree') :
    candidatePackages tree = candidatePackages tree' := by
  apply (tree.keys_ordered.filter _).eq_of_mem_iff (tree'.keys_ordered.filter _)
  intro name
  simp only [List.mem_filter]
  refine and_congr_left fun hname => not_iff_not.mp ?_
  rw [← NameMap.get?_eq_none_iff, ← NameMap.get?_eq_none_iff, h name hname]

/-- A strategy chooses the same package. -/
theorem SameCandidates.select_eq (h : tree.SameCandidates tree') (s : Strategy) :
    s.select tree = s.select tree' := by
  rw [s.select_eq tree, s.select_eq tree', h.candidatePackages_eq]
  cases hchoose : s.choose (candidatePackages tree') with
  | error candidates => rfl
  | ok choice =>
    cases choice with
    | none => rfl
    | some name =>
      have hname := ((mem_candidatePackages_iff _ _).mp (Strategy.mem_of_choose hchoose)).2
      exact congrArg Except.ok (h name hname)

end SourceTree

namespace FileTree

/-- A file that is listed in the directory below some names, with its contents. -/
def HasGoFile (tree : FileTree) (names : List String) (name : String) (content : Bytes) : Prop :=
  Go.isEligible (name, false) = true ∧ tree.kindAt? (names ++ [name]) = some (.file content)

/-- A child of a directory that is listed, with its contents. -/
def goFile? : String × Entry → Option (String × Bytes)
  | (name, .file content) => if Go.isEligible (name, false) then some (name, content) else none
  | (_, .dir _) => none

/-- The files that are listed in the directory below some names. -/
def goFiles (tree : FileTree) (names : List String) : List (String × Bytes) :=
  match tree.root.at? names with
  | some (.dir children) => children.filterMap goFile?
  | _ => []

theorem goFile?_eq_some_iff (child : String × Entry) (name : String) (content : Bytes) :
    goFile? child = some (name, content) ↔
      Go.isEligible (name, false) = true ∧ child = (name, .file content) := by
  obtain ⟨name', e⟩ := child
  cases e with
  | dir children => simp [goFile?]
  | file content' =>
    rw [goFile?]
    constructor
    · intro h
      split at h
      · rename_i heligible
        cases h
        exact ⟨heligible, rfl⟩
      · cases h
    · rintro ⟨heligible, h⟩
      cases h
      rw [if_pos heligible]

/-- The listed files of a sound tree can be computed. -/
theorem IsSound.hasGoFile_iff {tree : FileTree} (htree : tree.IsSound) {names : List String}
    {text : String} (hdir : tree.IsDirAt text names) (name : String) (content : Bytes) :
    tree.HasGoFile names name content ↔ (name, content) ∈ tree.goFiles names := by
  obtain ⟨children, hat⟩ := (Entry.kindAt?_eq_dir_iff _ _).mp hdir.2
  have hsound := (htree.root.of_at? hat).2
  have hchild : tree.kindAt? (names ++ [name]) = some (.file content) ↔
      (name, Entry.file content) ∈ children := by
    rw [kindAt?, Entry.kindAt?_eq_file_iff, Entry.at?_append, hat, Option.bind_some,
      ← Entry.child?_eq_some_iff hsound, Entry.at?_cons]
    cases (Entry.dir children).child? name <;> simp [Entry.at?]
  rw [HasGoFile, hchild, goFiles, hat]
  simp only [List.mem_filterMap, goFile?_eq_some_iff]
  constructor
  · rintro ⟨heligible, hmem⟩
    exact ⟨_, hmem, heligible, rfl⟩
  · rintro ⟨_, hmem, heligible, rfl⟩
    exact ⟨heligible, hmem⟩

end FileTree

namespace Go

variable {read : TreeReader} {tree tree' : FileTree} {directory : String}
  {names names' : List String}

/-- A path that is parsed to a file whose package cannot be chosen. -/
def IsSetAside (read : TreeReader) (tree : FileTree) (path : String) : Prop :=
  ∃ file, parseFile read tree path = .ok file ∧ isCandidate file.package = false

instance (read : TreeReader) (tree : FileTree) (path : String) :
    Decidable (IsSetAside read tree path) :=
  decidable_of_iff
    (∃ file ∈ (parseFile read tree path).toOption, isCandidate file.package = false) <| by
    simp only [Option.mem_def, Except.toOption_eq_some_iff, IsSetAside]

/-- Of the files of a directory, those that are parsed to no candidate can be left out. -/
theorem map_parseFiles_eq (shared : String → Bool) (htree : tree.IsSound)
    (hdir : tree.IsDirAt directory names)
    (hrest : ∀ name content, tree.HasGoFile names name content →
      shared (joinPath directory name) = false → IsSetAside read tree (joinPath directory name)) :
    ∃ paths, (∀ path, path ∈ paths ↔
        ∃ name content, tree.HasGoFile names name content ∧ path = joinPath directory name) ∧
      (parseFiles read tree directory).map (List.filter SourceFile.isCandidate) =
        (((sortNames paths).filter shared).mapM (parseFile read tree)).map
          (List.filter SourceFile.isCandidate) := by
  obtain ⟨paths, hlist, hmem⟩ := exists_listGoFiles htree hdir
  refine ⟨paths, fun path => (hmem path).trans (by simp only [FileTree.HasGoFile, and_assoc]), ?_⟩
  rw [parseFiles, hlist, Except.mapM_filter_map_filter]
  · rfl
  · intro path hpath hshared
    rw [sortNames, NameSet.mem_keys_ofList, hmem] at hpath
    obtain ⟨name, content, heligible, hkind, rfl⟩ := hpath
    exact hrest name content ⟨heligible, hkind⟩ hshared

/-- Directories that agree on their listed files, up to files that are set aside, are parsed to
the same files of candidates or with the same failure. -/
theorem map_parseFiles_eq_of_agree (htree : tree.IsSound) (htree' : tree'.IsSound)
    (hdir : tree.IsDirAt directory names) (hdir' : tree'.IsDirAt directory names')
    (hleft : ∀ name content, tree.HasGoFile names name content →
      tree'.HasGoFile names' name content ∨ IsSetAside read tree (joinPath directory name))
    (hright : ∀ name content, tree'.HasGoFile names' name content →
      tree.HasGoFile names name content ∨ IsSetAside read tree' (joinPath directory name)) :
    (parseFiles read tree directory).map (List.filter SourceFile.isCandidate) =
      (parseFiles read tree' directory).map (List.filter SourceFile.isCandidate) := by
  classical
  let shared (path : String) : Bool := ∃ name content, path = joinPath directory name ∧
    tree.HasGoFile names name content ∧ tree'.HasGoFile names' name content
  obtain ⟨paths, hmem, hparse⟩ := map_parseFiles_eq shared htree hdir <| by
    intro name content hfile hshared
    refine (hleft name content hfile).resolve_left fun hfile' => ?_
    exact of_decide_eq_false hshared ⟨name, content, rfl, hfile, hfile'⟩
  obtain ⟨paths', hmem', hparse'⟩ := map_parseFiles_eq shared htree' hdir' <| by
    intro name content hfile' hshared
    refine (hright name content hfile').resolve_left fun hfile => ?_
    exact of_decide_eq_false hshared ⟨name, content, rfl, hfile, hfile'⟩
  have hpaths : (sortNames paths).filter shared = (sortNames paths').filter shared := by
    apply ((NameMap.keys_ordered _).filter _).eq_of_mem_iff ((NameMap.keys_ordered _).filter _)
    intro path
    simp only [List.mem_filter, NameSet.mem_keys_ofList, hmem, hmem']
    refine and_congr_left fun hshared => ?_
    obtain ⟨name, content, rfl, hfile, hfile'⟩ := of_decide_eq_true hshared
    exact iff_of_true ⟨name, content, hfile, rfl⟩ ⟨name, content, hfile', rfl⟩
  rw [hparse, hparse', hpaths]
  refine congrArg _ (Except.mapM_congr fun path hpath => ?_)
  obtain ⟨name, content, rfl, hfile, hfile'⟩ := of_decide_eq_true (List.mem_filter.mp hpath).2
  exact (parseFile_joinPath_eq htree hdir hdir' hfile.2 hfile'.2).symm

end Go

namespace Generator

/-- A document is built from the candidates alone. -/
theorem buildFrom_eq_of_sameCandidates (g : Generator) {t t' : SourceTree}
    (h : t.SameCandidates t') (directory path initSuffix : String) :
    g.buildFrom t directory path initSuffix = g.buildFrom t' directory path initSuffix := by
  rw [buildFrom, buildFrom, choose, choose, h.select_eq]

/-- A directory gives a document by its files of candidates, if all of its files can be parsed. -/
theorem build_eq_bind_map_parseFiles (g : Generator) (files : FileTree)
    (root path directory initSuffix : String) :
    g.build files root path directory initSuffix =
      (((Go.parseFiles g.readTree files (joinPath root directory)).map
        (List.filter SourceFile.isCandidate)).mapError .read >>= fun candidates =>
          g.buildFrom (SourceTree.ofFiles candidates) (joinPath root directory) path
            initSuffix) := by
  rw [build, Go.parseDir]
  cases Go.parseFiles g.readTree files (joinPath root directory) with
  | error e => rfl
  | ok sources =>
    exact g.buildFrom_eq_of_sameCandidates (SourceTree.sameCandidates_ofFiles sources) _ _ _

/-- Files that are not listed, and files of packages that are no candidates, do not interfere: two
states of a directory that agree on the names and contents of the listed files give the same text or
the same failure in any two runs that read the dialect alike, also if they agree only up to files
that are parsed to no candidate. -/
theorem generate_eq_of_agree (g : Generator) {attributes : Text.Template.Attributes}
    (halike : g.dialect.ReadsAlike g.attributes attributes) {tree tree' : FileTree}
    (root path directory initSuffix : String) {names names' : List String}
    (htree : tree.IsSound) (htree' : tree'.IsSound)
    (hdir : tree.IsDirAt (joinPath root directory) names)
    (hdir' : tree'.IsDirAt (joinPath root directory) names')
    (hleft : ∀ name content, tree.HasGoFile names name content →
      tree'.HasGoFile names' name content ∨
        Go.IsSetAside g.readTree tree (joinPath (joinPath root directory) name))
    (hright : ∀ name content, tree'.HasGoFile names' name content →
      tree.HasGoFile names name content ∨
        Go.IsSetAside g.readTree tree' (joinPath (joinPath root directory) name)) :
    g.generate tree root path directory initSuffix =
      (g.withAttributes attributes).generate tree' root path directory initSuffix := by
  have hbuild : g.build tree root path directory initSuffix =
      g.build tree' root path directory initSuffix := by
    rw [build_eq_bind_map_parseFiles, build_eq_bind_map_parseFiles,
      Go.map_parseFiles_eq_of_agree htree htree' hdir hdir' hleft hright]
  rw [generate_withAttributes halike, generate, generate, hbuild]

/-- A directory with one Go file that is listed, beside a broken test and a file of another kind. -/
def quietFiles : FileTree :=
  directoryOf [("README", "none"), ("a.go", "package p\n\nvar A = 0\n"), ("b_test.go", "(((")]

/-- The same listed file, beside files of packages that are no candidates, a broken example and a
directory with the name of a Go file. -/
def noisyFiles : FileTree :=
  { root := .dir [
      ("p", .dir [
        ("a.go", .ofText "package p\n\nvar A = 0\n"), ("d.go", .dir [("e.go", .ofText "(((")]),
        ("example_a.go", .ofText "((("), ("ext.go", .ofText "package p_test\n\nvar B = 1\n"),
        ("main.go", .ofText "package main\n\nfunc Main() \x7b\x7d\n")])]
    home := [] }

theorem generate_eq_of_agree_noisyFiles :
    generate {} quietFiles "." "p" "p" "P" =
      (withAttributes {} Text.Template.namedAttributes).generate noisyFiles "." "p" "p" "P" := by
  have hstates : quietFiles.IsSound ∧ noisyFiles.IsSound ∧
      quietFiles.IsDirAt (joinPath "." "p") ["p"] ∧ noisyFiles.IsDirAt (joinPath "." "p") ["p"] := by
    decide +kernel
  obtain ⟨hquiet, hnoisy, hdir, hdir'⟩ := hstates
  have hfiles : (∀ x ∈ quietFiles.goFiles ["p"], x ∈ noisyFiles.goFiles ["p"]) ∧
      ∀ x ∈ noisyFiles.goFiles ["p"], x ∈ quietFiles.goFiles ["p"] ∨
        Go.IsSetAside Go.readSource noisyFiles (joinPath (joinPath "." "p") x.1) := by
    decide +kernel
  apply generate_eq_of_agree {} (Dialect.readsAlike_default _ _) "." "p" "p" "P" hquiet hnoisy hdir
    hdir'
  · intro name content hfile
    rw [hquiet.hasGoFile_iff hdir] at hfile
    rw [hnoisy.hasGoFile_iff hdir']
    exact .inl (hfiles.1 _ hfile)
  · intro name content hfile
    rw [hnoisy.hasGoFile_iff hdir'] at hfile
    rw [hquiet.hasGoFile_iff hdir]
    exact hfiles.2 _ hfile

end Generator

end Registrar
