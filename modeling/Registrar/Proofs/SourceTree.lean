import Registrar.Go.Directory
import Registrar.Proofs.Except
import Registrar.Proofs.NameMap
import Registrar.Strategy

/-!
# Source trees and the choice of a package

The trees of parsed directories keep every package under its own name. A strategy chooses among the
candidates, which depend on the names of the packages alone.
-/

namespace Registrar

/-- The source tree of a directory is made of its parsed files. -/
theorem Go.parseDir_of_parseFiles {read : TreeReader} {files : FileTree} {directory : String}
    {sources : List SourceFile} (h : parseFiles read files directory = .ok sources) :
    parseDir read files directory = .ok (SourceTree.ofFiles sources) := by
  rw [parseDir, h]
  rfl

/-- Every package of a source tree carries the name under which it is kept. -/
def SourceTree.IsNamed (tree : SourceTree) : Prop :=
  ∀ e ∈ tree.entries, e.2.name = e.1

namespace SourceTree

/-- A package of a named tree has its key as name. -/
theorem IsNamed.name_eq {tree : SourceTree} (h : tree.IsNamed) {name : String} {p : Package}
    (hp : tree.get? name = some p) : p.name = name :=
  h _ ((NameMap.get?_eq_some_iff _ _ _).mp hp)

/-- Adding a file keeps the packages named. -/
theorem IsNamed.addFile {tree : SourceTree} (h : tree.IsNamed) (file : SourceFile) :
    (tree.addFile file).IsNamed := by
  intro e he
  rcases (NameMap.mem_entries_insert _ _ _ _).mp he with rfl | ⟨he, -⟩
  · cases hget : tree.get? file.package with
    | none => rfl
    | some p =>
      have hname : p.name = file.package := h.name_eq hget
      exact hname
  · exact h e he

/-- The source tree of a list of files is named. -/
theorem isNamed_ofFiles (files : List SourceFile) : (ofFiles files).IsNamed := by
  have hrun : ∀ (tree : SourceTree), tree.IsNamed → (files.foldl addFile tree).IsNamed := by
    induction files with
    | nil => exact fun _ h => h
    | cons file rest ih => exact fun tree h => ih _ (h.addFile file)
  exact hrun .empty (by simp [IsNamed, NameMap.empty])

/-- The source tree of a parsed directory is named. -/
theorem isNamed_of_parseDir {read : Go.TreeReader} {files : FileTree} {directory : String}
    {tree : SourceTree} (h : Go.parseDir read files directory = .ok tree) : tree.IsNamed := by
  obtain ⟨sources, _, h⟩ := (Except.bind_eq_ok_iff _ _ _).mp h
  cases h
  exact isNamed_ofFiles sources

end SourceTree

/-- The candidates are the packages that are neither `main` nor tests. -/
theorem mem_candidatePackages_iff (tree : SourceTree) (name : String) :
    name ∈ candidatePackages tree ↔ name ∈ tree.keys ∧ isCandidate name = true :=
  List.mem_filter

/-- Trees with the same package names have the same candidates. -/
theorem candidatePackages_eq_of_mem_keys_iff {t₁ t₂ : SourceTree}
    (h : ∀ name, name ∈ t₁.keys ↔ name ∈ t₂.keys) :
    candidatePackages t₁ = candidatePackages t₂ :=
  congrArg (List.filter isCandidate) (NameMap.keys_eq_of_mem_iff t₁ t₂ h)

namespace Strategy

/-- A strategy chooses one of the candidates. -/
theorem mem_of_choose {s : Strategy} {candidates : List String} {name : String}
    (h : s.choose candidates = .ok (some name)) : name ∈ candidates := by
  cases candidates with
  | nil => simp [choose] at h
  | cons first rest =>
    cases s with
    | first =>
      have hfirst : first = name := by simpa [choose] using h
      exact hfirst ▸ List.mem_cons_self
    | strict =>
      cases rest with
      | nil =>
        have hfirst : first = name := by simpa [choose] using h
        exact hfirst ▸ List.mem_cons_self
      | cons second rest => simp [choose] at h

/-- The chosen package is the one kept under the chosen name. -/
theorem select_eq (s : Strategy) (tree : SourceTree) :
    s.select tree =
      (s.choose (candidatePackages tree)).map fun choice => choice.bind tree.get? := by
  rw [select]
  cases s.choose (candidatePackages tree) with
  | error candidates => rfl
  | ok choice => cases choice <;> rfl

/-- A chosen name has a package. -/
theorem exists_get?_of_choose {s : Strategy} {tree : SourceTree} {name : String}
    (h : s.choose (candidatePackages tree) = .ok (some name)) :
    ∃ p, tree.get? name = some p := by
  have hkey := ((mem_candidatePackages_iff tree name).mp (mem_of_choose h)).1
  cases hget : tree.get? name with
  | none => exact absurd hkey ((NameMap.get?_eq_none_iff tree name).mp hget)
  | some p => exact ⟨p, rfl⟩

end Strategy

end Registrar
