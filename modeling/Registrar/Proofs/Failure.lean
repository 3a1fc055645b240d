import Registrar.Proofs.Exactness
import Registrar.Proofs.SourceDirectory

/-!
# How a generator fails

A generator reports what it cannot read and what it cannot choose between. Only two failures are
not reported: a directory whose text is no path, and a template of the dialect that has no
expression for a name which has to be listed.
-/

namespace Registrar

namespace Generator

variable {g : Generator} {files files' : FileTree} {root path directory initSuffix : String}

/-- The templates of a generator have an expression for all that it lists of a directory. -/
def Formats (g : Generator) (files : FileTree) (directory : String) : Prop :=
  ∀ tree package, Go.parseDir g.readTree files directory = .ok tree →
    g.strategy.select tree = .ok (some package) →
    g.dialect.Expresses g.attributes package.name (package.Survives g.excluded)

/-- The templates of the default dialect have an expression for everything. -/
theorem formats_of_dialect (h : g.dialect = {}) (directory : String) : g.Formats files directory := by
  intro tree package _ _
  rw [h]
  exact Dialect.expresses_default _ _ _

/-- A build that succeeds has parsed its directory. -/
theorem isDir_of_build {choice : Option Document}
    (h : g.build files root path directory initSuffix = .ok choice) :
    files.isDir (joinPath root directory) = true := by
  obtain ⟨tree, hparse, -⟩ := (Except.bind_eq_ok_iff _ _ _).mp h
  rw [Except.mapError_eq_ok_iff] at hparse
  obtain ⟨sources, hsources, -⟩ := (Except.bind_eq_ok_iff _ _ _).mp hparse
  exact Go.isDir_of_parseFiles hsources

/-- A directory whose sources are kept is built alike. -/
theorem build_eq_of_keepsSources (h : files'.KeepsSources files (joinPath root directory))
    (hdir : files.isDir (joinPath root directory) = true) :
    g.build files' root path directory initSuffix =
      g.build files root path directory initSuffix := by
  rw [build, build, Go.parseDir, Go.parseDir, Go.parseFiles_eq_of_keepsSources h hdir]

/-- What was built is built where the sources are kept. -/
theorem build_of_keepsSources (h : files'.KeepsSources files (joinPath root directory))
    {choice : Option Document}
    (hbuild : g.build files root path directory initSuffix = .ok choice) :
    g.build files' root path directory initSuffix = .ok choice :=
  (build_eq_of_keepsSources h (isDir_of_build hbuild)).trans hbuild

/-- Templates that have an expression for everything had one where the sources were kept from. -/
theorem Formats.of_keepsSources (h : files'.KeepsSources files directory)
    (hformats : g.Formats files' directory) : g.Formats files directory := by
  intro tree package hparse hselect
  obtain ⟨sources, hsources, htree⟩ := (Except.bind_eq_ok_iff _ _ _).mp hparse
  have hparse' : Go.parseDir g.readTree files' directory = .ok tree := by
    rw [Go.parseDir, Go.parseFiles_of_keepsSources h hsources]
    exact htree
  exact hformats tree package hparse' hselect

/-- A directory that is not parsed fails the build with the same failure. -/
theorem build_of_parseFiles_error {e : Go.ReadError}
    (h : Go.parseFiles g.readTree files (joinPath root directory) = .error e) :
    g.build files root path directory initSuffix = .error (.read e) := by
  rw [build, Go.parseDir, h]
  rfl

/-- Behind the parser a generator fails without a message exactly if a template has no expression
for a name that is to be listed. -/
theorem buildFrom_unreported_iff (tree : SourceTree) :
    (∃ f, g.buildFrom tree directory path initSuffix = .error f ∧ f.message? = none) ↔
      ∃ package, g.strategy.select tree = .ok (some package) ∧
        ¬ g.dialect.Expresses g.attributes package.name (package.Survives g.excluded) := by
  cases hselect : g.strategy.select tree with
  | error candidates =>
    rw [buildFrom_of_select_error g tree directory path initSuffix hselect]
    simp [Fault.ambiguity, Fault.message?]
  | ok choice =>
    cases choice with
    | none => simp [buildFrom_of_select_none g tree directory path initSuffix hselect]
    | some package =>
      rw [buildFrom_of_select_some g tree directory path initSuffix hselect]
      have hlisted : (fun c name => name ∈ (SymbolSet.ofPackage g.excluded package).sorted c) =
          package.Survives g.excluded := by
        funext c name
        exact propext (SymbolSet.mem_sorted_iff _ _ _ _)
      simp only [Except.ok.injEq, Option.some.injEq, exists_eq_left']
      split
      · rename_i hempty
        have hnone := (isEmpty_ofPackage_iff g.excluded package).mp hempty
        simp only [reduceCtorEq, false_and, exists_false, false_iff, not_not]
        intro c name hname
        exact absurd hname (hnone c name)
      · cases hbuild : Document.build g.attributes path package.name initSuffix
            (SymbolSet.ofPackage g.excluded package) g.dialect with
        | ok d =>
          have hexpresses := Document.expresses_of_build hbuild
          rw [hlisted] at hexpresses
          simp [Except.map, hexpresses]
        | error e =>
          have hnot : ¬ g.dialect.Expresses g.attributes package.name
              (package.Survives g.excluded) := by
            intro hexpresses
            rw [← hlisted] at hexpresses
            obtain ⟨d, hd⟩ := Document.exists_build_eq_ok path package.name initSuffix _ _ hexpresses
            cases hbuild.symm.trans hd
          simp [Except.map, Fault.message?, hnot]

/-- A generator fails without a message exactly if the directory is no path, or if a template has
no expression for a name that is to be listed. -/
theorem build_unreported_iff (hfiles : files.IsSound) :
    (∃ f, g.build files root path directory initSuffix = .error f ∧ f.message? = none) ↔
      '\x00' ∈ (joinPath root directory).toList ∨ ¬ g.Formats files (joinPath root directory) := by
  rw [← Go.parseFiles_eq_path_error_iff hfiles]
  cases hparse : Go.parseFiles g.readTree files (joinPath root directory) with
  | error e =>
    rw [build_of_parseFiles_error hparse]
    have hformats : g.Formats files (joinPath root directory) := by
      intro tree package htree
      rw [Go.parseDir, hparse] at htree
      cases htree
    cases e with
    | parse e => simp [Fault.message?, hformats]
    | path e => simp [Fault.message?]
  | ok sources =>
    have htree := Go.parseDir_of_parseFiles hparse
    rw [build_of_parseDir g _ directory path initSuffix htree, buildFrom_unreported_iff, Formats]
    simp only [htree, Except.ok.injEq, not_forall, reduceCtorEq, exists_false, false_or,
      exists_prop, exists_and_left, exists_eq_left']

end Generator

end Registrar
