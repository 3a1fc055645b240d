import Registrar.Proofs.Attributes
import Registrar.Proofs.Failure
import Registrar.Proofs.Gathering

/-!
# The first strategy extends the strict one

The strict strategy refuses a directory whose Go files declare several packages that could be
chosen. Everywhere else the two strategies choose alike, so that a generator gives the same text or
fails with the same failure under either, as long as its dialect is read alike. Among several
packages the first strategy takes the one with the smallest name.
-/

namespace Registrar

variable {candidates names : List String} {name : String} {tree : SourceTree}

/-! ## The candidates -/

/-- The candidates stand in increasing order, each once. -/
theorem candidatePackages_ordered (tree : SourceTree) :
    (candidatePackages tree).Pairwise (· < ·) :=
  (NameMap.keys_ordered tree).filter _

/-- Candidates in increasing order are reported as they are. -/
theorem Fault.ambiguity_of_ordered (h : candidates.Pairwise (· < ·)) (directory : String) :
    Fault.ambiguity directory candidates = .ambiguous directory candidates := by
  rw [ambiguity, List.mergeSort_of_pairwise (h.imp fun hlt => decide_eq_true (Std.le_of_lt hlt))]

/-- The head of an ordered list is the smallest of its names. -/
theorem head?_eq_some_iff_of_ordered (h : names.Pairwise (· < ·)) :
    names.head? = some name ↔ name ∈ names ∧ ∀ other ∈ names, name ≤ other := by
  cases names with
  | nil => simp
  | cons c rest =>
    obtain ⟨hsmallest, -⟩ := List.pairwise_cons.mp h
    rw [List.head?_cons, Option.some.injEq]
    constructor
    · rintro rfl
      refine ⟨List.mem_cons_self, fun other hother => ?_⟩
      rcases List.mem_cons.mp hother with rfl | hrest
      · exact Std.le_refl _
      · exact Std.le_of_lt (hsmallest other hrest)
    · rintro ⟨hmem, hleast⟩
      rcases List.mem_cons.mp hmem with rfl | hrest
      · rfl
      · exact absurd (hsmallest name hrest) (String.not_lt.mpr (hleast c List.mem_cons_self))

/-- An ordered list has two names or more exactly if it has different ones. -/
theorem two_le_length_iff (h : names.Pairwise (· < ·)) :
    2 ≤ names.length ↔ ∃ name ∈ names, ∃ other ∈ names, name ≠ other := by
  match names with
  | [] => simp
  | [c] => simp
  | c :: d :: rest =>
    have hlt : c < d := (List.pairwise_cons.mp h).1 d List.mem_cons_self
    simp only [List.length_cons, Nat.le_add_left, true_iff]
    exact ⟨c, by simp, d, by simp, Std.ne_of_lt hlt⟩

/-- What makes a name a candidate. -/
theorem isCandidate_eq_true_iff (name : String) :
    isCandidate name = true ↔ name ≠ "main" ∧ ¬ "_test".toList <:+ name.toList := by
  rw [isCandidate, Bool.and_eq_true, decide_eq_true_eq, Bool.not_eq_true',
    ← List.isSuffixOf_iff_suffix, Bool.not_eq_true]

namespace Strategy

/-- The strict strategy refuses to choose between two or more candidates, and names them all. -/
theorem choose_strict_eq_error_iff :
    strict.choose candidates = .error names ↔ names = candidates ∧ 2 ≤ candidates.length := by
  match candidates with
  | [] => simp [choose]
  | [c] => simp [choose]
  | c :: d :: rest => simp [choose, eq_comm]

/-- The first strategy always chooses, the head of the candidates if there is one. -/
theorem choose_first (candidates : List String) :
    first.choose candidates = .ok candidates.head? := by
  match candidates with
  | [] => rfl
  | [c] => rfl
  | c :: d :: rest => rfl

/-- Where the strict strategy chooses, the first strategy chooses the same. -/
theorem choose_first_of_strict {choice : Option String}
    (h : strict.choose candidates = .ok choice) : first.choose candidates = .ok choice := by
  match candidates with
  | [] => exact h
  | [c] => exact h
  | c :: d :: rest => cases h

theorem select_first_of_strict {choice : Option Package} (h : strict.select tree = .ok choice) :
    first.select tree = .ok choice := by
  rw [select_eq, Except.map_eq_ok_iff] at h ⊢
  obtain ⟨chosen, hchoose, hget⟩ := h
  exact ⟨chosen, choose_first_of_strict hchoose, hget⟩

theorem select_first_ne_error (tree : SourceTree) (names : List String) :
    first.select tree ≠ .error names := by
  rw [select_eq, choose_first]
  nofun

theorem select_strict_eq_error_iff :
    strict.select tree = .error names ↔
      names = candidatePackages tree ∧ 2 ≤ (candidatePackages tree).length := by
  rw [← choose_strict_eq_error_iff, select_eq]
  cases strict.choose (candidatePackages tree) <;> simp [Except.map]

end Strategy

/-! ## The packages that a directory offers -/

namespace Go

variable {read : TreeReader} {files : FileTree} {directory : String}

/-- All files that are listed in a directory can be parsed. -/
def Parses (read : TreeReader) (files : FileTree) (directory : String) : Prop :=
  ∃ listing, files.list directory = .ok listing ∧
    ∀ path, IsListed listing directory path → ∃ file, parseFile read files path = .ok file

/-- A directory offers the packages of its listed files, but for programs and external tests. -/
def Offers (read : TreeReader) (files : FileTree) (directory name : String) : Prop :=
  (∃ listing path file, files.list directory = .ok listing ∧ IsListed listing directory path ∧
    parseFile read files path = .ok file ∧ file.package = name) ∧
  name ≠ "main" ∧ ¬ "_test".toList <:+ name.toList

/-- A directory is parsed if all files that are listed in it are. -/
theorem exists_parseDir_eq_ok_iff :
    (∃ tree, parseDir read files directory = .ok tree) ↔ Parses read files directory := by
  constructor
  · rintro ⟨tree, h⟩
    obtain ⟨sources, hparse, -⟩ := (Except.bind_eq_ok_iff _ _ _).mp h
    obtain ⟨_, hlisted, -⟩ := (Except.bind_eq_ok_iff _ _ _).mp hparse
    rw [Except.mapError_eq_ok_iff] at hlisted
    obtain ⟨listing, hlist, -⟩ := (Except.bind_eq_ok_iff _ _ _).mp hlisted
    refine ⟨listing, hlist, fun path hpath => ?_⟩
    obtain ⟨paths, -, hmem, hpaths⟩ := exists_paths_of_list hlist
    rw [hpaths] at hparse
    obtain ⟨file, -, hfile⟩ := (Except.mem_of_mapM_eq_ok hparse).1 path ((hmem path).mpr hpath)
    exact ⟨file, hfile⟩
  · rintro ⟨listing, hlist, hall⟩
    obtain ⟨tree, htree, -⟩ := exists_holds_of_parseFile hlist hall
    exact ⟨tree, htree⟩

/-- The candidates of a parsed directory are the packages that it offers. -/
theorem mem_candidatePackages_iff_offers (h : parseDir read files directory = .ok tree) :
    name ∈ candidatePackages tree ↔ Offers read files directory name := by
  obtain ⟨listing, hlist, hall⟩ := exists_parseDir_eq_ok_iff.mp ⟨tree, h⟩
  obtain ⟨packages, hpackages, hholds⟩ := exists_holds_of_parseFile hlist hall
  obtain rfl : packages = tree := Except.ok.inj (hpackages.symm.trans h)
  rw [mem_candidatePackages_iff, isCandidate_eq_true_iff, hholds.mem_keys_iff, Offers]
  refine and_congr_left fun _ => ?_
  constructor
  · rintro ⟨path, file, ⟨hpath, hfile⟩, hname⟩
    exact ⟨listing, path, file, hlist, hpath, hfile, hname⟩
  · rintro ⟨listing', path, file, hlist', hpath, hfile, hname⟩
    obtain rfl : listing' = listing := Except.ok.inj (hlist'.symm.trans hlist)
    exact ⟨path, file, ⟨hpath, hfile⟩, hname⟩

/-- A listed file that can be parsed offers its package. -/
theorem offers_of_parseFile {listing : List (String × Bool)}
    (hlist : files.list directory = .ok listing) {entry : String × Bool} (hentry : entry ∈ listing)
    (heligible : isEligible entry = true)
    (hfile : (parseFile read files (joinPath directory entry.1)).toOption.map SourceFile.package =
      some name)
    (hname : isCandidate name = true) : Offers read files directory name := by
  obtain ⟨file, hread, rfl⟩ := Option.map_eq_some_iff.mp hfile
  exact ⟨⟨listing, _, file, hlist, ⟨entry, hentry, heligible, rfl⟩,
    (Except.toOption_eq_some_iff _ _).mp hread, rfl⟩, (isCandidate_eq_true_iff _).mp hname⟩

/-- A directory that is parsed has a path. -/
theorem ne_empty_of_parseDir (h : parseDir read files directory = .ok tree) : directory ≠ "" := by
  obtain ⟨sources, hparse, -⟩ := (Except.bind_eq_ok_iff _ _ _).mp h
  obtain ⟨_, hdir⟩ := (FileTree.isDir_iff _ _).mp (isDir_of_parseFiles hparse)
  exact hdir.ne_empty

end Go

/-! ## Choosing among them -/

namespace Strategy

/-- In a tree of named packages a strategy chooses the package that has the chosen name. -/
theorem select_eq_some_iff {s : Strategy} (hnamed : tree.IsNamed) {p : Package} :
    s.select tree = .ok (some p) ↔
      s.choose (candidatePackages tree) = .ok (some p.name) ∧ tree.get? p.name = some p := by
  rw [select_eq, Except.map_eq_ok_iff]
  constructor
  · rintro ⟨choice, hchoose, hget⟩
    obtain ⟨chosen, rfl, hget⟩ := Option.bind_eq_some_iff.mp hget
    obtain rfl := hnamed.name_eq hget
    exact ⟨hchoose, hget⟩
  · rintro ⟨hchoose, hget⟩
    exact ⟨some p.name, hchoose, hget⟩

/-- The first strategy chooses the package of the smallest candidate. -/
theorem exists_select_first_iff (hnamed : tree.IsNamed) (name : String) :
    (∃ p, first.select tree = .ok (some p) ∧ p.name = name) ↔
      name ∈ candidatePackages tree ∧ ∀ other ∈ candidatePackages tree, name ≤ other := by
  have hhead : first.choose (candidatePackages tree) = .ok (some name) ↔
      (candidatePackages tree).head? = some name := by
    rw [choose_first, Except.ok.injEq]
  rw [← head?_eq_some_iff_of_ordered (candidatePackages_ordered tree), ← hhead]
  constructor
  · rintro ⟨p, hselect, rfl⟩
    exact ((select_eq_some_iff hnamed).mp hselect).1
  · intro hchoose
    obtain ⟨p, hget⟩ := exists_get?_of_choose hchoose
    obtain rfl := hnamed.name_eq hget
    exact ⟨p, (select_eq_some_iff hnamed).mpr ⟨hchoose, hget⟩, rfl⟩

end Strategy

/-! ## The texts of the two strategies -/

namespace Generator

variable {g : Generator} {files : FileTree} {root path directory initSuffix place : String}

/-- A generator with another strategy. -/
def withStrategy (g : Generator) (s : Strategy) : Generator :=
  { g with strategy := s }

@[simp] theorem withStrategy_strategy (g : Generator) (s : Strategy) :
    (g.withStrategy s).strategy = s := rfl

@[simp] theorem withStrategy_readTree (g : Generator) (s : Strategy) :
    (g.withStrategy s).readTree = g.readTree := rfl

/-- A text fails to be generated where the document fails to be built. -/
theorem generate_eq_error_iff {f : Fault} :
    g.generate files root path directory initSuffix = .error f ↔
      g.build files root path directory initSuffix = .error f := by
  rw [generate]
  cases g.build files root path directory initSuffix with
  | error e => simp
  | ok choice => cases choice <;> simp [pure, Except.pure]

/-- Behind the choice of a package only a template can fail. -/
theorem exists_accessor_of_buildFrom_error {choice : Option Package}
    (hselect : g.strategy.select tree = .ok choice) {f : Fault}
    (h : g.buildFrom tree directory path initSuffix = .error f) : ∃ e, f = .accessor e := by
  cases choice with
  | none =>
    rw [buildFrom_of_select_none g tree directory path initSuffix hselect] at h
    cases h
  | some p =>
    rw [buildFrom_of_select_some g tree directory path initSuffix hselect] at h
    split at h
    · cases h
    · cases hbuild : Document.build g.attributes path p.name initSuffix
          (SymbolSet.ofPackage g.excluded p) g.dialect with
      | ok d =>
        rw [hbuild] at h
        cases h
      | error e =>
        rw [hbuild] at h
        cases h
        exact ⟨e, rfl⟩

/-- A generator fails for several packages exactly if its strategy refuses to choose between
them. -/
theorem generate_eq_ambiguous_iff :
    g.generate files root path directory initSuffix = .error (.ambiguous place names) ↔
      ∃ tree, Go.parseDir g.readTree files (joinPath root directory) = .ok tree ∧
        ∃ candidates, g.strategy.select tree = .error candidates ∧
          Fault.ambiguity (joinPath root directory) candidates = .ambiguous place names := by
  rw [generate_eq_error_iff]
  cases hparse : Go.parseFiles g.readTree files (joinPath root directory) with
  | error e =>
    rw [build_of_parseFiles_error hparse, Go.parseDir, hparse]
    simp
  | ok sources =>
    have htree := Go.parseDir_of_parseFiles hparse
    rw [build_of_parseDir g _ directory path initSuffix htree]
    simp only [htree, Except.ok.injEq, exists_eq_left']
    cases hselect : g.strategy.select (SourceTree.ofFiles sources) with
    | error candidates =>
      rw [buildFrom_of_select_error g _ _ path initSuffix hselect,
        if_neg (Go.ne_empty_of_parseDir htree)]
      simp
    | ok choice =>
      simp only [reduceCtorEq, false_and, exists_false, iff_false]
      intro hbuild
      obtain ⟨e, he⟩ := exists_accessor_of_buildFrom_error hselect hbuild
      cases he

/-- The strict strategy refuses a directory exactly if it is parsed and has two candidates or more;
the failure names them in increasing order. -/
theorem generate_strict_eq_ambiguous_iff :
    (g.withStrategy .strict).generate files root path directory initSuffix =
        .error (.ambiguous place names) ↔
      ∃ tree, Go.parseDir g.readTree files (joinPath root directory) = .ok tree ∧
        place = joinPath root directory ∧ names = candidatePackages tree ∧ 2 ≤ names.length := by
  rw [generate_eq_ambiguous_iff]
  refine exists_congr fun tree => ?_
  constructor
  · rintro ⟨htree, candidates, hselect, hfault⟩
    obtain ⟨rfl, htwo⟩ := Strategy.select_strict_eq_error_iff.mp hselect
    rw [Fault.ambiguity_of_ordered (candidatePackages_ordered tree)] at hfault
    cases hfault
    exact ⟨htree, rfl, rfl, htwo⟩
  · rintro ⟨htree, rfl, rfl, htwo⟩
    exact ⟨htree, candidatePackages tree, Strategy.select_strict_eq_error_iff.mpr ⟨rfl, htwo⟩,
      Fault.ambiguity_of_ordered (candidatePackages_ordered tree) _⟩

/-- The first strategy refuses no directory. -/
theorem generate_first_ne_ambiguous (place : String) (names : List String) :
    (g.withStrategy .first).generate files root path directory initSuffix ≠
      .error (.ambiguous place names) := by
  rw [Ne, generate_eq_ambiguous_iff]
  rintro ⟨tree, -, candidates, hselect, -⟩
  exact Strategy.select_first_ne_error tree candidates hselect

/-- Strategies that choose alike in a directory give the same there. -/
theorem generate_eq_of_select_eq {s s' : Strategy}
    (h : ∀ tree, Go.parseDir g.readTree files (joinPath root directory) = .ok tree →
      s.select tree = s'.select tree) :
    (g.withStrategy s).generate files root path directory initSuffix =
      (g.withStrategy s').generate files root path directory initSuffix := by
  have hbuild : (g.withStrategy s).build files root path directory initSuffix =
      (g.withStrategy s').build files root path directory initSuffix := by
    rw [build, build, withStrategy_readTree, withStrategy_readTree]
    cases hparse : Go.parseDir g.readTree files (joinPath root directory) with
    | error e => rfl
    | ok tree =>
      simp only [Except.mapError_ok, Except.ok_bind]
      rw [buildFrom, buildFrom, withStrategy_strategy, withStrategy_strategy, choose, choose,
        h tree hparse]
      rfl
  rw [generate, generate, hbuild]
  rfl

/-- Where the strict strategy does not refuse a directory, the first strategy gives the same, also
in another run that reads the dialect alike. -/
theorem generate_strict_eq_first {attributes : Text.Template.Attributes}
    (halike : g.dialect.ReadsAlike g.attributes attributes)
    (h : ∀ place names, (g.withStrategy .strict).generate files root path directory initSuffix ≠
      .error (.ambiguous place names)) :
    (g.withStrategy .strict).generate files root path directory initSuffix =
      ((g.withStrategy .first).withAttributes attributes).generate files root path directory
        initSuffix := by
  have halike' : (g.withStrategy .first).dialect.ReadsAlike (g.withStrategy .first).attributes
      attributes := halike
  rw [generate_withAttributes halike']
  refine generate_eq_of_select_eq fun tree htree => ?_
  cases hselect : Strategy.strict.select tree with
  | error candidates =>
    obtain ⟨rfl, htwo⟩ := Strategy.select_strict_eq_error_iff.mp hselect
    exact absurd (generate_strict_eq_ambiguous_iff.mpr ⟨tree, htree, rfl, rfl, htwo⟩) (h _ _)
  | ok choice => exact (Strategy.select_first_of_strict hselect).symm

/-- With templates that can be written the first strategy gives a text, or the directory cannot be
parsed. -/
theorem exists_generate_first (hfiles : files.IsSound)
    (hzero : '\x00' ∉ (joinPath root directory).toList)
    (hformats : (g.withStrategy .first).Formats files (joinPath root directory)) :
    (∃ text, (g.withStrategy .first).generate files root path directory initSuffix = .ok text) ∨
      ∃ e, (g.withStrategy .first).generate files root path directory initSuffix =
        .error (.read (.parse e)) := by
  cases hgenerate : (g.withStrategy .first).generate files root path directory initSuffix with
  | ok text => exact .inl ⟨text, rfl⟩
  | error f =>
    have hbuild := generate_eq_error_iff.mp hgenerate
    have hreported : f.message? ≠ none := by
      intro hnone
      rcases (build_unreported_iff hfiles).mp ⟨f, hbuild, hnone⟩ with h | h
      · exact hzero h
      · exact h hformats
    cases hparse : Go.parseFiles (g.withStrategy .first).readTree files
        (joinPath root directory) with
    | error e =>
      rw [build_of_parseFiles_error hparse] at hbuild
      cases hbuild
      cases e with
      | parse e => exact .inr ⟨e, rfl⟩
      | path e => exact absurd rfl hreported
    | ok sources =>
      rw [build_of_parseDir _ _ directory path initSuffix (Go.parseDir_of_parseFiles hparse)]
        at hbuild
      cases hselect : Strategy.first.select (SourceTree.ofFiles sources) with
      | error candidates => exact absurd hselect (Strategy.select_first_ne_error _ _)
      | ok choice =>
        obtain ⟨e, rfl⟩ := exists_accessor_of_buildFrom_error hselect hbuild
        exact absurd rfl hreported

/-- The first strategy extends the strict one. The strict strategy refuses a directory exactly if
its files can be parsed and offer several packages, and then names these in increasing order. Any
other directory gives the same under both strategies, in one run or in two that read the dialect
alike; with templates that can be written, the first one always gives a text, or the directory
cannot be parsed. Of a parsed directory either strategy chooses a package that is offered, and the
first one the smallest of these. -/
theorem generate_first_extends_strict (g : Generator) (files : FileTree)
    (root path directory initSuffix : String) :
    ((∃ place names, (g.withStrategy .strict).generate files root path directory initSuffix =
        .error (.ambiguous place names)) ↔
      Go.Parses g.readTree files (joinPath root directory) ∧ ∃ name other, name ≠ other ∧
        Go.Offers g.readTree files (joinPath root directory) name ∧
          Go.Offers g.readTree files (joinPath root directory) other) ∧
    (∀ place names, (g.withStrategy .strict).generate files root path directory initSuffix =
        .error (.ambiguous place names) →
      place = joinPath root directory ∧ names.Pairwise (· < ·) ∧
        ∀ name, name ∈ names ↔ Go.Offers g.readTree files (joinPath root directory) name) ∧
    (∀ attributes, g.dialect.ReadsAlike g.attributes attributes →
      (∀ place names, (g.withStrategy .strict).generate files root path directory initSuffix ≠
        .error (.ambiguous place names)) →
      (g.withStrategy .strict).generate files root path directory initSuffix =
        ((g.withStrategy .first).withAttributes attributes).generate files root path directory
          initSuffix) ∧
    (files.IsSound → '\x00' ∉ (joinPath root directory).toList →
      (g.withStrategy .first).Formats files (joinPath root directory) →
      (∃ text, (g.withStrategy .first).generate files root path directory initSuffix = .ok text) ∨
        ∃ e, (g.withStrategy .first).generate files root path directory initSuffix =
          .error (.read (.parse e))) ∧
    ∀ tree, Go.parseDir g.readTree files (joinPath root directory) = .ok tree →
      (∀ (s : Strategy) p, s.select tree = .ok (some p) →
        tree.get? p.name = some p ∧ Go.Offers g.readTree files (joinPath root directory) p.name) ∧
      ∀ name, (∃ p, Strategy.first.select tree = .ok (some p) ∧ p.name = name) ↔
        Go.Offers g.readTree files (joinPath root directory) name ∧
          ∀ other, Go.Offers g.readTree files (joinPath root directory) other → name ≤ other := by
  refine ⟨?_, ?_, fun _ => generate_strict_eq_first, exists_generate_first, ?_⟩
  · simp only [generate_strict_eq_ambiguous_iff, ← Go.exists_parseDir_eq_ok_iff]
    constructor
    · rintro ⟨_, _, tree, htree, rfl, rfl, htwo⟩
      obtain ⟨name, hname, other, hother, hne⟩ :=
        (two_le_length_iff (candidatePackages_ordered tree)).mp htwo
      exact ⟨⟨tree, htree⟩, name, other, hne, (Go.mem_candidatePackages_iff_offers htree).mp hname,
        (Go.mem_candidatePackages_iff_offers htree).mp hother⟩
    · rintro ⟨⟨tree, htree⟩, name, other, hne, hname, hother⟩
      refine ⟨_, _, tree, htree, rfl, rfl, ?_⟩
      rw [← Go.mem_candidatePackages_iff_offers htree] at hname hother
      exact (two_le_length_iff (candidatePackages_ordered tree)).mpr
        ⟨name, hname, other, hother, hne⟩
  · intro place names hrefused
    obtain ⟨tree, htree, rfl, rfl, -⟩ := generate_strict_eq_ambiguous_iff.mp hrefused
    exact ⟨rfl, candidatePackages_ordered tree,
      fun name => Go.mem_candidatePackages_iff_offers htree⟩
  · intro tree htree
    have hnamed := SourceTree.isNamed_of_parseDir htree
    simp only [← Go.mem_candidatePackages_iff_offers htree]
    refine ⟨fun s p hselect => ?_, Strategy.exists_select_first_iff hnamed⟩
    obtain ⟨hchoose, hget⟩ := (Strategy.select_eq_some_iff hnamed).mp hselect
    exact ⟨hget, Strategy.mem_of_choose hchoose⟩

/-- A directory of two packages beside a program, an external test and a broken test file. -/
def mixedFiles : FileTree :=
  directoryOf [("a.go", "package b\n\nvar B = 0\n"), ("b.go", "package main\n"),
    ("c_test.go", "((("), ("d.go", "package a_test\n"), ("z.go", "package a\n\nconst A = 1\n")]

theorem generate_first_extends_strict_mixedFiles :
    (∃ names, (withStrategy {} .strict).generate mixedFiles "." "p" "p" "P" =
      .error (.ambiguous "./p" names) ∧ "a" ∈ names ∧ "main" ∉ names) ∧
    (∃ tree p, Go.parseDir Go.readSource mixedFiles "./p" = .ok tree ∧
      Strategy.first.select tree = .ok (some p) ∧ p.name = "a") ∧
    ((∃ text, (withStrategy {} .first).generate mixedFiles "." "p" "p" "P" = .ok text) ∨
      ∃ e, (withStrategy {} .first).generate mixedFiles "." "p" "p" "P" =
        .error (.read (.parse e))) ∧
    (withStrategy {} .strict).generate mixedFiles "." "q" "q" "Q" =
      ((withStrategy {} .first).withAttributes Text.Template.namedAttributes).generate mixedFiles
        "." "q" "q" "Q" := by
  have hpath : joinPath "." "p" = "./p" := by decide +kernel
  have hlist : mixedFiles.list "./p" = .ok [("a.go", false), ("b.go", false), ("c_test.go", false),
      ("d.go", false), ("z.go", false)] :=
    (Except.toOption_eq_some_iff _ _).mp (by decide +kernel)
  have hparsed : ∀ entry ∈ [("a.go", false), ("b.go", false), ("c_test.go", false), ("d.go", false),
      ("z.go", false)], Go.isEligible entry = true →
        ∃ file ∈ (Go.parseFile Go.readSource mixedFiles (joinPath "./p" entry.1)).toOption,
          "a" ≤ file.package := by
    decide +kernel
  have hparses : Go.Parses Go.readSource mixedFiles "./p" := by
    refine ⟨_, hlist, ?_⟩
    rintro _ ⟨entry, hentry, heligible, rfl⟩
    obtain ⟨file, hfile, -⟩ := hparsed entry hentry heligible
    exact ⟨file, (Except.toOption_eq_some_iff _ _).mp hfile⟩
  obtain ⟨tree, htree⟩ := Go.exists_parseDir_eq_ok_iff.mpr hparses
  have ha : Go.Offers Go.readSource mixedFiles "./p" "a" :=
    Go.offers_of_parseFile hlist (by simp : ("z.go", false) ∈ _) (by decide) (by decide +kernel)
      (by decide)
  have hb : Go.Offers Go.readSource mixedFiles "./p" "b" :=
    Go.offers_of_parseFile hlist (by simp : ("a.go", false) ∈ _) (by decide) (by decide +kernel)
      (by decide)
  have hleast : ∀ other, Go.Offers Go.readSource mixedFiles "./p" other → "a" ≤ other := by
    rintro _ ⟨⟨listing, _, file, hlisting, ⟨entry, hentry, heligible, rfl⟩, hfile, rfl⟩, -⟩
    obtain rfl := Except.ok.inj (hlisting.symm.trans hlist)
    obtain ⟨file', hfile', hle⟩ := hparsed entry hentry heligible
    obtain rfl := Except.ok.inj (((Except.toOption_eq_some_iff _ _).mp hfile').symm.trans hfile)
    exact hle
  obtain ⟨hrefuses, hnames, -, hgives, hchooses⟩ :=
    generate_first_extends_strict {} mixedFiles "." "p" "p" "P"
  obtain ⟨-, -, hsame, -⟩ := generate_first_extends_strict {} mixedFiles "." "q" "q" "Q"
  rw [hpath] at hrefuses hnames hgives hchooses
  refine ⟨?_, ?_, hgives (by decide +kernel) (by decide) (formats_of_dialect rfl _),
    hsame _ (Dialect.readsAlike_default _ _) ?_⟩
  · obtain ⟨place, names, hrefused⟩ :=
      hrefuses.mpr ⟨hparses, "a", "b", by decide, ha, hb⟩
    obtain ⟨rfl, -, hmem⟩ := hnames place names hrefused
    exact ⟨names, hrefused, (hmem "a").mpr ha, fun hmain => ((hmem "main").mp hmain).2.1 rfl⟩
  · obtain ⟨p, hselect, hp⟩ := ((hchooses tree htree).2 "a").mpr ⟨ha, hleast⟩
    exact ⟨tree, p, htree, hselect, hp⟩
  · intro place names hrefused
    obtain ⟨tree, htree, -⟩ := generate_eq_ambiguous_iff.mp hrefused
    obtain ⟨listing, hlisting, -⟩ := Go.exists_parseDir_eq_ok_iff.mp ⟨tree, htree⟩
    have hnone : (mixedFiles.list (joinPath "." "q")).toOption = none := by decide +kernel
    rw [hlisting] at hnone
    cases hnone

end Generator

end Registrar
