import Registrar.Generator
import Registrar.Proofs.Document
import Registrar.Proofs.SourceTree

/-!
# A generator documents exactly the names that survive

Behind the parser a generator chooses a package, sorts its symbols and builds a document. Nothing
gets into the document that does not survive, and nothing that survives is lost: there is no
document when no package is chosen or none of its names survive, and otherwise the sections list
the surviving names of their categories.
-/

namespace Registrar

namespace Generator

variable (g : Generator) (tree : SourceTree) (directory path initSuffix : String)

/-- A directory that is parsed is built from its source tree. -/
theorem build_of_parseDir {files : FileTree} {root : String}
    (h : Go.parseDir g.readTree files (joinPath root directory) = .ok tree) :
    g.build files root path directory initSuffix =
      g.buildFrom tree (joinPath root directory) path initSuffix := by
  rw [build, h]
  rfl

/-- A choice that succeeds is the choice of the strategy. -/
theorem choose_eq_ok_iff (strategy : Strategy) (choice : Option Package) :
    choose strategy tree directory = .ok choice ↔ strategy.select tree = .ok choice :=
  Except.mapError_eq_ok_iff _ _ _

/-- A strategy that refuses to choose fails the generator with its candidates. -/
theorem buildFrom_of_select_error {candidates : List String}
    (h : g.strategy.select tree = .error candidates) :
    g.buildFrom tree directory path initSuffix =
      .error (Fault.ambiguity (if directory = "" then "<tree>" else directory) candidates) := by
  rw [buildFrom, choose, h]
  rfl

/-- Without a package to choose there is no document. -/
theorem buildFrom_of_select_none (h : g.strategy.select tree = .ok none) :
    g.buildFrom tree directory path initSuffix = .ok none := by
  rw [buildFrom, (choose_eq_ok_iff tree directory g.strategy none).mpr h]
  rfl

/-- The symbols of the chosen package decide whether there is a document. -/
theorem buildFrom_of_select_some {p : Package} (h : g.strategy.select tree = .ok (some p)) :
    g.buildFrom tree directory path initSuffix =
      if (SymbolSet.ofPackage g.excluded p).isEmpty then .ok none
      else ((Document.build g.attributes path p.name initSuffix (SymbolSet.ofPackage g.excluded p)
        g.dialect).mapError Fault.accessor).map some := by
  rw [buildFrom, (choose_eq_ok_iff tree directory g.strategy (some p)).mpr h]
  split
  · rename_i hempty
    simp only [Except.ok_bind, hempty]
    rfl
  · rename_i hempty
    simp only [Except.ok_bind, hempty]
    cases Document.build g.attributes path p.name initSuffix (SymbolSet.ofPackage g.excluded p)
      g.dialect <;> rfl

/-- A document of a directory is the document of the chosen one of its parsed packages. -/
theorem exists_package_of_build {g : Generator} {files : FileTree}
    {root path directory initSuffix : String} {d : Document}
    (h : g.build files root path directory initSuffix = .ok (some d)) :
    ∃ tree p, Go.parseDir g.readTree files (joinPath root directory) = .ok tree ∧
      g.strategy.select tree = .ok (some p) ∧
      Document.build g.attributes path p.name initSuffix (SymbolSet.ofPackage g.excluded p)
        g.dialect = .ok d := by
  obtain ⟨tree, hparse, h⟩ := (Except.bind_eq_ok_iff _ _ _).mp h
  rw [Except.mapError_eq_ok_iff] at hparse
  refine ⟨tree, ?_⟩
  cases hsel : g.strategy.select tree with
  | error candidates =>
    rw [buildFrom_of_select_error g tree _ path initSuffix hsel] at h
    cases h
  | ok choice =>
    cases choice with
    | none =>
      rw [buildFrom_of_select_none g tree _ path initSuffix hsel] at h
      cases h
    | some p =>
      rw [buildFrom_of_select_some g tree _ path initSuffix hsel] at h
      split at h
      · cases h
      · cases hbuild : Document.build g.attributes path p.name initSuffix
            (SymbolSet.ofPackage g.excluded p) g.dialect with
        | error e =>
          rw [hbuild] at h
          cases h
        | ok d' =>
          rw [hbuild] at h
          cases h
          exact ⟨p, hparse, rfl, hbuild⟩

/-- A package has no symbols exactly when no name survives. -/
theorem isEmpty_ofPackage_iff (excluded : NameSet) (p : Package) :
    (SymbolSet.ofPackage excluded p).isEmpty = true ↔ ∀ c name, ¬ p.Survives excluded c name := by
  simp only [SymbolSet.isEmpty_eq_true_iff, SymbolSet.mem_ofPackage_iff]

/-- There is no document exactly when no package is chosen or no name of the chosen one survives. -/
theorem buildFrom_eq_none_iff :
    g.buildFrom tree directory path initSuffix = .ok none ↔
      g.strategy.select tree = .ok none ∨
        ∃ p, g.strategy.select tree = .ok (some p) ∧ ∀ c name, ¬ p.Survives g.excluded c name := by
  cases hsel : g.strategy.select tree with
  | error candidates =>
    simp [buildFrom_of_select_error g tree directory path initSuffix hsel]
  | ok choice =>
    cases choice with
    | none => simp [buildFrom_of_select_none g tree directory path initSuffix hsel]
    | some p =>
      rw [buildFrom_of_select_some g tree directory path initSuffix hsel]
      simp only [Except.ok.injEq, reduceCtorEq, Option.some.injEq, false_or, exists_eq_left',
        ← isEmpty_ofPackage_iff]
      split
      · rename_i hempty
        simp [hempty]
      · rename_i hempty
        cases Document.build g.attributes path p.name initSuffix (SymbolSet.ofPackage g.excluded p)
          g.dialect <;> simp [hempty, Except.map]

/-- A package whose surviving names have expressions is documented by listing them. -/
theorem exists_buildFrom_eq_some {p : Package} (hsel : g.strategy.select tree = .ok (some p))
    (hsome : ∃ c name, p.Survives g.excluded c name)
    (hexp : g.dialect.Expresses g.attributes p.name (p.Survives g.excluded)) :
    ∃ d, g.buildFrom tree directory path initSuffix = .ok (some d) ∧
      d.Lists (p.Survives g.excluded) := by
  have hexp' : g.dialect.Expresses g.attributes p.name
      fun c name => name ∈ (SymbolSet.ofPackage g.excluded p).sorted c := by
    intro c name hname
    exact hexp c name ((SymbolSet.mem_sorted_iff _ _ _ _).mp hname)
  obtain ⟨d, hd⟩ := Document.exists_build_eq_ok path p.name initSuffix _ g.dialect hexp'
  have hne : ¬ (SymbolSet.ofPackage g.excluded p).isEmpty = true := by
    rw [isEmpty_ofPackage_iff]
    obtain ⟨c, name, hname⟩ := hsome
    exact fun hnone => hnone c name hname
  refine ⟨d, ?_, ?_⟩
  · rw [buildFrom_of_select_some g tree directory path initSuffix hsel, hd]
    simp [hne, Except.map]
  · simpa only [SymbolSet.mem_ofPackage_iff] using Document.lists_of_build hd

/-- Behind the parser a generator is exact. A parsed directory is built from its source tree;
there is no document exactly when the strategy chooses no package or no name of the chosen package
survives; and when the surviving names have expressions, the document lists exactly them. -/
theorem buildFrom_exact :
    (∀ files root below, Go.parseDir g.readTree files (joinPath root below) = .ok tree →
      g.build files root path below initSuffix =
        g.buildFrom tree (joinPath root below) path initSuffix) ∧
    (g.buildFrom tree directory path initSuffix = .ok none ↔
      g.strategy.select tree = .ok none ∨
        ∃ p, g.strategy.select tree = .ok (some p) ∧ ∀ c name, ¬ p.Survives g.excluded c name) ∧
    ∀ p, g.strategy.select tree = .ok (some p) →
      (∃ c name, p.Survives g.excluded c name) →
      g.dialect.Expresses g.attributes p.name (p.Survives g.excluded) →
      ∃ d, g.buildFrom tree directory path initSuffix = .ok (some d) ∧
        d.Lists (p.Survives g.excluded) := by
  refine ⟨?_, buildFrom_eq_none_iff g tree directory path initSuffix, ?_⟩
  · intro files root below hparse
    exact build_of_parseDir g tree below path initSuffix hparse
  · intro p hsel hsome hexp
    exact exists_buildFrom_eq_some g tree directory path initSuffix hsel hsome hexp

/-- A directory `p` of files with the given texts. -/
def directoryOf (texts : List (String × String)) : FileTree :=
  { root := .dir [("p", .dir (texts.map fun t => (t.1, .file (Text.Utf8.encode t.2))))]
    home := [] }

/-- A package in two files. `Old` is marked in one of them only, and `Skip` is a constant in one
and a function in the other. -/
def splitFiles : FileTree :=
  directoryOf [
    ("a_linux.go", "package p\n\nconst (\n\tLimit, hidden = 1, 2\n" ++
      "\t// Deprecated: gone.\n\tOld = 3\n)\n\nfunc Skip() \x7b\x7d\n"),
    ("a_windows.go", "package p\n\nconst Old, Skip = 4, 5\n\n// Deprecated.\nvar Lost = 6\n")]

/-- The package that is parsed from `splitFiles`. -/
def splitPackage : Package :=
  (Package.addFile { name := "p" } {
    path := "./p/a_linux.go", package := "p", declarations := [
      { path := "./p/a_linux.go", line := 3, body := .group .const [
          { names := ["Limit", "hidden"], line := 4 },
          { names := ["Old"], doc := some "Deprecated: gone.\n", line := 6 }] },
      { path := "./p/a_linux.go", line := 9, body := .func "Skip" false }] }).addFile {
    path := "./p/a_windows.go", package := "p", declarations := [
      { path := "./p/a_windows.go", line := 3, body := .group .const [
          { names := ["Old", "Skip"], line := 3 }] },
      { path := "./p/a_windows.go", line := 6, doc := some "Deprecated.\n", body := .group .var [
          { names := ["Lost"], line := 6 }] }] }

/-- The files of `splitFiles` are parsed to one package. -/
theorem parseDir_splitFiles :
    Go.parseDir Go.readSource splitFiles (joinPath "." "p") =
      .ok (NameMap.empty.insert "p" splitPackage) := by
  have hfiles : Go.parseFiles Go.readSource splitFiles (joinPath "." "p") =
      .ok splitPackage.files.values := by
    decide +kernel
  exact Go.parseDir_of_parseFiles hfiles

theorem buildFrom_exact_splitFiles :
    ∃ d, build { excluded := NameSet.ofList ["Skip"] } splitFiles "." "p" "p" "P" =
        .ok (some d) ∧
      d.Lists (splitPackage.Survives (NameSet.ofList ["Skip"])) := by
  have hsel : Strategy.select .strict (NameMap.empty.insert "p" splitPackage) =
      .ok (some splitPackage) := rfl
  obtain ⟨hparsed, -, hlists⟩ := buildFrom_exact { excluded := NameSet.ofList ["Skip"] }
    (NameMap.empty.insert "p" splitPackage) (joinPath "." "p") "p" "P"
  rw [hparsed splitFiles "." "p" parseDir_splitFiles]
  apply hlists splitPackage hsel
  · exact ⟨.consts, "Limit", (SymbolSet.mem_ofPackage_iff _ _ _ _).mp (by decide +kernel)⟩
  · exact Dialect.expresses_default _ _ _

end Generator

end Registrar
