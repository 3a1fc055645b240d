import Mathlib.Data.List.Sort
import Registrar.Discover
import Registrar.Proofs.Entry

/-!
# Which packages are found below a root

A package is a directory below the root that holds a Go file and that no directory passed over
leads to. Every package is found once, and the packages stand in the order of the names on their
ways, so that a directory comes before all that is below it. The order in which a system lists
the entries of a directory makes no difference.
-/

namespace Registrar

namespace Entry

/-! ### Entries listed in any order -/

mutual

/-- In every directory of the entry the names are names of files, each once, in any order. -/
def IsWellNamed : Entry → Prop
  | file _ => True
  | dir children => (children.map Prod.fst).Nodup ∧ AreWellNamed children

/-- The children of a directory have names of files and are well named. -/
def AreWellNamed : List (String × Entry) → Prop
  | [] => True
  | (name, e) :: rest => IsName name ∧ e.IsWellNamed ∧ AreWellNamed rest

end

mutual

/-- It can be checked that an entry is well named. -/
def decideIsWellNamed : (e : Entry) → Decidable e.IsWellNamed
  | file _ => inferInstanceAs (Decidable True)
  | dir children =>
    haveI := decideAreWellNamed children
    inferInstanceAs (Decidable (_ ∧ _))

/-- It can be checked that the children of a directory are well named. -/
def decideAreWellNamed : (children : List (String × Entry)) → Decidable (AreWellNamed children)
  | [] => inferInstanceAs (Decidable True)
  | (_, e) :: rest =>
    haveI := decideIsWellNamed e
    haveI := decideAreWellNamed rest
    inferInstanceAs (Decidable (_ ∧ _ ∧ _))

end

instance (e : Entry) : Decidable e.IsWellNamed := e.decideIsWellNamed

theorem areWellNamed_iff (children : List (String × Entry)) :
    AreWellNamed children ↔ ∀ c ∈ children, IsName c.1 ∧ c.2.IsWellNamed := by
  induction children with
  | nil => simp [AreWellNamed]
  | cons c rest ih =>
    obtain ⟨name, e⟩ := c
    rw [AreWellNamed, ih, List.forall_mem_cons, and_assoc]

variable {e : Entry} {children : List (String × Entry)}

/-- In a well-named directory a name has the child that stands beside it. -/
theorem IsWellNamed.child?_eq_some_iff (h : (dir children).IsWellNamed) (name : String)
    (c : Entry) : (dir children).child? name = some c ↔ (name, c) ∈ children :=
  NameMap.find?_map_eq_some_iff h.1 name c

/-- A child of a well-named entry is well named and has a name. -/
theorem IsWellNamed.of_mem (h : (dir children).IsWellNamed) {name : String} {c : Entry}
    (hmem : (name, c) ∈ children) : IsName name ∧ c.IsWellNamed :=
  (areWellNamed_iff children).mp h.2 _ hmem

/-- What leads somewhere below a well-named entry are names. -/
theorem IsWellNamed.isName_of_kindAt? (h : e.IsWellNamed) {names : List String}
    (hsome : e.kindAt? names ≠ none) : ∀ name ∈ names, IsName name := by
  induction names generalizing e with
  | nil => simp
  | cons first rest ih =>
    cases e with
    | file content => simp [kindAt?_cons, child?_file] at hsome
    | dir children =>
      rw [kindAt?_cons] at hsome
      cases hchild : (dir children).child? first with
      | none => simp [hchild] at hsome
      | some c =>
        obtain ⟨hfirst, hc⟩ := h.of_mem ((h.child?_eq_some_iff first c).mp hchild)
        exact List.forall_mem_cons.mpr ⟨hfirst, ih hc (by simpa [hchild] using hsome)⟩

/-- What holds of every file, and of a directory if it holds of its children, holds of every
entry. -/
@[elab_as_elim]
theorem induction_children {motive : Entry → Prop} (file : ∀ content, motive (file content))
    (dir : ∀ children, (∀ c ∈ children, motive c.2) → motive (dir children)) :
    (e : Entry) → motive e
  | .file content => file content
  | .dir children => dir children fun c _ => induction_children file dir c.2
termination_by e => sizeOf e
decreasing_by
  rename_i hc
  have hlt := List.sizeOf_lt_of_mem hc
  have hchild : sizeOf c = 1 + sizeOf c.1 + sizeOf c.2 := rfl
  simp only [Entry.dir.sizeOf_spec]
  omega

end Entry

/-! ### Ways to packages -/

/-- A directory that is looked into: it is neither called after test data nor after vendored code,
and its name starts with no point and no underscore. -/
structure IsLookedInto (name : String) : Prop where
  ne_testdata : name ≠ "testdata"
  ne_vendor : name ≠ "vendor"
  head_ne_point : name.toList.head? ≠ some '.'
  head_ne_underscore : name.toList.head? ≠ some '_'

/-- The directory below a list of names holds a Go file that is read. -/
def Entry.HoldsGoFile (e : Entry) (names : List String) : Prop :=
  ∃ name content, Go.isEligible (name, false) = true ∧
    e.kindAt? (names ++ [name]) = some (.file content)

/-- A way from a root to a package: a directory other than the root that holds a Go file, and on
whose way every directory is looked into. -/
structure Entry.IsPackageWay (root : Entry) (way : List String) : Prop where
  ne_nil : way ≠ []
  holdsGoFile : root.HoldsGoFile way
  isLookedInto : ∀ name ∈ way, IsLookedInto name

variable {e : Entry} {children : List (String × Entry)} {name : String} {rest way : List String}

/-- The directories that are not passed over are looked into. -/
theorem isPassedOver_eq_false_iff (name : String) :
    isPassedOver name = false ↔ IsLookedInto name := by
  have hstarts : ∀ c, (name.startsWith (String.singleton c) = false ↔
      name.toList.head? ≠ some c) := by
    intro c
    rw [← Bool.not_eq_true, String.startsWith_string_iff, String.toList_singleton]
    cases name.toList <;> simp [eq_comm]
  have hpoint := hstarts '.'
  have hunderscore := hstarts '_'
  simp only [isPassedOver, Bool.or_eq_false_iff, decide_eq_false_iff_not]
  constructor
  · rintro ⟨⟨⟨htestdata, hvendor⟩, hp⟩, hu⟩
    exact ⟨htestdata, hvendor, hpoint.mp hp, hunderscore.mp hu⟩
  · intro h
    exact ⟨⟨⟨h.ne_testdata, h.ne_vendor⟩, hpoint.mpr h.head_ne_point⟩,
      hunderscore.mpr h.head_ne_underscore⟩

instance (name : String) : Decidable (IsLookedInto name) :=
  decidable_of_iff _ (isPassedOver_eq_false_iff name)

/-- A directory holds a Go file below a name when the child of the name does. -/
theorem Entry.holdsGoFile_cons_iff (e : Entry) (name : String) (rest : List String) :
    e.HoldsGoFile (name :: rest) ↔ ∃ c, e.child? name = some c ∧ c.HoldsGoFile rest := by
  simp only [HoldsGoFile, List.cons_append, kindAt?_cons, Option.bind_eq_some_iff]
  constructor
  · rintro ⟨file, content, heligible, c, hchild, hfile⟩
    exact ⟨c, hchild, file, content, heligible, hfile⟩
  · rintro ⟨c, hchild, file, content, heligible, hfile⟩
    exact ⟨file, content, heligible, c, hchild, hfile⟩

/-- A way to a package goes to a child that is looked into, and ends there or goes on. -/
theorem Entry.isPackageWay_cons_iff (e : Entry) (name : String) (rest : List String) :
    e.IsPackageWay (name :: rest) ↔ IsLookedInto name ∧ ∃ c, e.child? name = some c ∧
      (rest = [] ∧ c.HoldsGoFile [] ∨ c.IsPackageWay rest) := by
  constructor
  · rintro ⟨-, hholds, hparts⟩
    obtain ⟨hname, hrest⟩ := List.forall_mem_cons.mp hparts
    obtain ⟨c, hchild, hgo⟩ := (e.holdsGoFile_cons_iff name rest).mp hholds
    refine ⟨hname, c, hchild, ?_⟩
    rcases eq_or_ne rest [] with rfl | hne
    · exact .inl ⟨rfl, hgo⟩
    · exact .inr ⟨hne, hgo, hrest⟩
  · rintro ⟨hname, c, hchild, hway⟩
    have hgo : c.HoldsGoFile rest := by
      rcases hway with ⟨rfl, hgo⟩ | hway
      · exact hgo
      · exact hway.holdsGoFile
    have hrest : ∀ part ∈ rest, IsLookedInto part := by
      rcases hway with ⟨rfl, -⟩ | hway
      · simp
      · exact hway.isLookedInto
    exact ⟨List.cons_ne_nil _ _, (e.holdsGoFile_cons_iff name rest).mpr ⟨c, hchild, hgo⟩,
      List.forall_mem_cons.mpr ⟨hname, hrest⟩⟩

/-- Ways to packages do not depend on the order in which directories are listed. -/
theorem Entry.isPackageWay_congr {e' : Entry} (h : ∀ names, e'.kindAt? names = e.kindAt? names)
    (way : List String) : e'.IsPackageWay way ↔ e.IsPackageWay way := by
  have hholds : e'.HoldsGoFile way ↔ e.HoldsGoFile way := by simp only [HoldsGoFile, h]
  exact ⟨fun ⟨hne, hgo, hinto⟩ => ⟨hne, hholds.mp hgo, hinto⟩,
    fun ⟨hne, hgo, hinto⟩ => ⟨hne, hholds.mpr hgo, hinto⟩⟩

/-- What leads to a package are names. -/
theorem Entry.IsPackageWay.isName (he : e.IsWellNamed) (h : e.IsPackageWay way) :
    ∀ part ∈ way, IsName part := by
  obtain ⟨file, content, -, hfile⟩ := h.holdsGoFile
  have hsome : e.kindAt? (way ++ [file]) ≠ none := by simp [hfile]
  exact fun part hpart => he.isName_of_kindAt? hsome part (List.mem_append_left _ hpart)

/-! ### What is found -/

/-- The test for Go files finds them in a well-named directory. -/
theorem holdsGoFiles_eq_true_iff (he : e.IsWellNamed) :
    holdsGoFiles e = true ↔ e.HoldsGoFile [] := by
  simp only [Entry.HoldsGoFile, List.nil_append, Entry.kindAt?_eq_file_iff, Entry.at?_cons]
  cases e with
  | file content => simp [holdsGoFiles, Entry.child?_file]
  | dir children =>
    simp only [holdsGoFiles, List.any_eq_true, Prod.exists]
    constructor
    · rintro ⟨name, c, hmem, heligible⟩
      have hchild := (he.child?_eq_some_iff name c).mpr hmem
      cases c with
      | file content =>
        exact ⟨name, content, heligible, Option.bind_eq_some_iff.mpr ⟨_, hchild, rfl⟩⟩
      | dir grandchildren => simp [Entry.isDir, Go.isEligible, Go.isGoFile] at heligible
    · rintro ⟨name, content, heligible, hat⟩
      obtain ⟨c, hchild, hc⟩ := Option.bind_eq_some_iff.mp hat
      cases hc
      exact ⟨name, _, (he.child?_eq_some_iff name _).mp hchild, heligible⟩

/-- The ways to the packages in and below a child of a name. -/
def waysInto (name : String) (e : Entry) : List (List String) :=
  (if holdsGoFiles e then [[name]] else []) ++ (packageWays e).map (name :: ·)

theorem waysByName_eq (children : List (String × Entry)) :
    waysByName children = (children.filter fun c => c.2.isDir && !isPassedOver c.1).map
      fun c => (c.1, waysInto c.1 c.2) := by
  induction children with
  | nil => rfl
  | cons head tail ih =>
    obtain ⟨name, c⟩ := head
    rw [waysByName, ih, List.filter_cons]
    split <;> rfl

/-- What is put in order are the ways into the directories that are looked into. -/
theorem mem_foldr_waysByName_iff (hnames : (children.map Prod.fst).Nodup)
    (x : String × List (List String)) :
    x ∈ (waysByName children).foldr (fun c l => NameMap.insertEntry c.1 c.2 l) [] ↔
      ∃ c, (x.1, c) ∈ children ∧ c.isDir = true ∧ isPassedOver x.1 = false ∧
        x.2 = waysInto x.1 c := by
  have hnodup : ((waysByName children).map Prod.fst).Nodup := by
    rw [waysByName_eq, List.map_map]
    exact hnames.sublist (List.filter_sublist.map Prod.fst)
  rw [NameMap.mem_foldr_insertEntry_iff hnodup, waysByName_eq]
  simp only [List.mem_map, List.mem_filter, Bool.and_eq_true, Bool.not_eq_true', Prod.exists]
  constructor
  · rintro ⟨name, c, ⟨hmem, hdir, hinto⟩, rfl⟩
    exact ⟨c, hmem, hdir, hinto, rfl⟩
  · rintro ⟨c, hmem, hdir, hinto, hways⟩
    exact ⟨x.1, c, ⟨hmem, hdir, hinto⟩, Prod.ext rfl hways.symm⟩

theorem mem_waysInto_iff (name : String) (e : Entry) (way : List String) :
    way ∈ waysInto name e ↔ ∃ rest, way = name :: rest ∧
      (rest = [] ∧ holdsGoFiles e = true ∨ rest ∈ packageWays e) := by
  rw [waysInto, List.mem_append, List.mem_map]
  constructor
  · rintro (h | ⟨rest, hrest, rfl⟩)
    · split at h
      · rename_i hholds
        exact ⟨[], List.mem_singleton.mp h, .inl ⟨rfl, hholds⟩⟩
      · simp at h
    · exact ⟨rest, rfl, .inr hrest⟩
  · rintro ⟨rest, rfl, ⟨rfl, hholds⟩ | hrest⟩
    · exact .inl (by simp [hholds])
    · exact .inr ⟨rest, hrest, rfl⟩

/-- A way that is found below a directory leads into a child that is looked into. -/
theorem mem_packageWays_dir_iff (hnames : (children.map Prod.fst).Nodup) (way : List String) :
    way ∈ packageWays (.dir children) ↔ ∃ name c, (name, c) ∈ children ∧
      isPassedOver name = false ∧ way ∈ waysInto name c := by
  rw [packageWays, List.mem_flatMap]
  simp only [mem_foldr_waysByName_iff hnames]
  constructor
  · rintro ⟨x, ⟨c, hmem, -, hinto, hways⟩, hway⟩
    exact ⟨x.1, c, hmem, hinto, hways ▸ hway⟩
  · rintro ⟨name, c, hmem, hinto, hway⟩
    cases c with
    | file content => simp [waysInto, holdsGoFiles, packageWays] at hway
    | dir grandchildren => exact ⟨(name, _), ⟨_, hmem, rfl, hinto, rfl⟩, hway⟩

/-- Below a well-named entry exactly the ways to packages are found. -/
theorem mem_packageWays_iff (he : e.IsWellNamed) (way : List String) :
    way ∈ packageWays e ↔ e.IsPackageWay way := by
  induction way generalizing e with
  | nil =>
    refine iff_of_false ?_ fun h => h.ne_nil rfl
    cases e with
    | file content => simp [packageWays]
    | dir children => simp [mem_packageWays_dir_iff he.1, mem_waysInto_iff]
  | cons name rest ih =>
    rw [e.isPackageWay_cons_iff, ← isPassedOver_eq_false_iff]
    cases e with
    | file content => simp [packageWays, Entry.child?_file]
    | dir children =>
      rw [mem_packageWays_dir_iff he.1]
      simp only [mem_waysInto_iff, List.cons.injEq, he.child?_eq_some_iff]
      constructor
      · rintro ⟨name, c, hmem, hinto, rest, ⟨rfl, rfl⟩, hway⟩
        have hc := (he.of_mem hmem).2
        exact ⟨hinto, c, hmem,
          hway.imp (And.imp_right (holdsGoFiles_eq_true_iff hc).mp) (ih hc).mp⟩
      · rintro ⟨hinto, c, hmem, hway⟩
        have hc := (he.of_mem hmem).2
        exact ⟨name, c, hmem, hinto, rest, ⟨rfl, rfl⟩,
          hway.imp (And.imp_right (holdsGoFiles_eq_true_iff hc).mpr) (ih hc).mpr⟩

/-- The child of a name stands before all that is found below it. -/
theorem pairwise_waysInto (h : (packageWays e).Pairwise (· < ·)) (hnil : [] ∉ packageWays e) :
    (waysInto name e).Pairwise (· < ·) := by
  rw [waysInto, List.pairwise_append, List.pairwise_map]
  refine ⟨?_, h.imp fun hlt => List.cons_lt_cons_iff.mpr (.inr ⟨rfl, hlt⟩), ?_⟩
  · split <;> simp
  · intro way hway below hbelow
    obtain ⟨rest, hrest, rfl⟩ := List.mem_map.mp hbelow
    obtain ⟨first, rest, rfl⟩ :=
      List.exists_cons_of_ne_nil fun hrest' : rest = [] => hnil (hrest' ▸ hrest)
    have hway : way = [name] := by
      split at hway
      · exact List.mem_singleton.mp hway
      · simp at hway
    rw [hway]
    exact List.cons_lt_cons_iff.mpr (.inr ⟨rfl, List.nil_lt_cons first rest⟩)

/-- The ways are found in the order of their names, each once. -/
theorem pairwise_packageWays (he : e.IsWellNamed) : (packageWays e).Pairwise (· < ·) := by
  induction e using Entry.induction_children with
  | file content => exact .nil
  | dir children ih =>
    have hmem := mem_foldr_waysByName_iff he.1
    rw [packageWays, List.pairwise_flatMap]
    constructor
    · intro x hx
      obtain ⟨c, hc, -, -, hways⟩ := (hmem x).mp hx
      have hchild := (he.of_mem hc).2
      have hnil : [] ∉ packageWays c := fun h => ((mem_packageWays_iff hchild _).mp h).ne_nil rfl
      exact hways ▸ pairwise_waysInto (ih _ hc hchild) hnil
    · refine (NameMap.foldr_insertEntry_ordered _).imp_of_mem fun {x y} hx hy hlt => ?_
      obtain ⟨c, -, -, -, hways⟩ := (hmem x).mp hx
      obtain ⟨c', -, -, -, hways'⟩ := (hmem y).mp hy
      intro way hway way' hway'
      rw [hways] at hway
      rw [hways'] at hway'
      obtain ⟨rest, rfl, -⟩ := (mem_waysInto_iff _ _ _).mp hway
      obtain ⟨rest', rfl, -⟩ := (mem_waysInto_iff _ _ _).mp hway'
      exact List.cons_lt_cons_iff.mpr (.inl hlt)

theorem discover_of_entry {tree : FileTree} {root : String} (hroot : tree.entry root = .ok e) :
    discover tree root = .ok ((packageWays e).map fun way => { path := "/".intercalate way }) := by
  rw [discover, hroot]

/-- The packages below a root are found, each once and in the order of the names on their ways,
whatever the order in which the directories are listed. -/
theorem discover_finds {tree : FileTree} {root : String} (hroot : tree.entry root = .ok e)
    (he : e.IsWellNamed) :
    (∃ ways : List (List String), discover tree root =
        .ok (ways.map fun way => { path := "/".intercalate way }) ∧
      ways.Pairwise (· < ·) ∧
      (∀ way, way ∈ ways ↔ e.IsPackageWay way) ∧
      (ways.map fun way => "/".intercalate way).Nodup) ∧
    ∀ (tree' : FileTree) (root' : String) (e' : Entry), tree'.entry root' = .ok e' →
      e'.IsWellNamed → (∀ names, e'.kindAt? names = e.kindAt? names) →
        discover tree' root' = discover tree root := by
  constructor
  · refine ⟨packageWays e, discover_of_entry hroot, pairwise_packageWays he,
      mem_packageWays_iff he, ?_⟩
    have hparts : ∀ way ∈ packageWays e, pathParts ("/".intercalate way) = way := by
      intro way hway
      apply pathParts_intercalate
      exact fun part hpart => (((mem_packageWays_iff he way).mp hway).isName he part hpart).1
    refine List.Nodup.map_on ?_ (pairwise_packageWays he).nodup
    intro way hway way' hway' heq
    rw [← hparts way hway, heq, hparts way' hway']
  · intro tree' root' e' hroot' he' hsame
    have hways : packageWays e' = packageWays e := by
      apply (pairwise_packageWays he').eq_of_mem_iff (pairwise_packageWays he)
      intro way
      rw [mem_packageWays_iff he, mem_packageWays_iff he']
      exact Entry.isPackageWay_congr hsame way
    rw [discover_of_entry hroot, discover_of_entry hroot', hways]

/-- A directory that is not listed in order. Beside packages it holds a directory with the name of
a Go file, one that only leads on, one with tests alone, and directories that are passed over. -/
def scatteredEntry : Entry :=
  .dir [
    ("main.go", .ofText "package main\n"),
    ("cmd", .dir [
      ("run", .dir [("run.go", .ofText "package main\n")]),
      ("x.go", .dir [("doc.txt", .ofText "none\n")]),
      ("vendor", .dir [("lib", .dir [("lib.go", .ofText "package lib\n")])])]),
    (".git", .dir [("hook.go", .ofText "package hook\n")]),
    ("a-b", .dir [("b.go", .ofText "package b\n")]),
    ("a", .dir [
      ("b", .dir [("b_test.go", .ofText "package b\n"), ("b.go", .ofText "package b\n")]),
      ("a.go", .ofText "package a\n"),
      ("c", .dir [("c_test.go", .ofText "package c\n")])]),
    ("_old", .dir [("old.go", .ofText "package old\n")])]

example : discover { root := scatteredEntry, home := [] } "." =
    .ok [{ path := "a" }, { path := "a/b" }, { path := "a-b" }, { path := "cmd/run" }] := by
  decide +kernel

theorem discover_finds_scatteredEntry :
    ∃ ways : List (List String), discover { root := scatteredEntry, home := [] } "." =
        .ok (ways.map fun way => { path := "/".intercalate way }) ∧
      ["a-b"] ∈ ways ∧ ["cmd", "run"] ∈ ways ∧ ["cmd"] ∉ ways ∧
        ["cmd", "vendor", "lib"] ∉ ways := by
  have hroot : FileTree.entry { root := scatteredEntry, home := [] } "." = .ok scatteredEntry := by
    have hlocate : FileTree.locate { root := scatteredEntry, home := [] } "." = .ok [] := by
      decide +kernel
    rw [FileTree.entry, hlocate]
    rfl
  obtain ⟨⟨ways, hfinds, -, hmem, -⟩, -⟩ := discover_finds hroot (by decide +kernel)
  refine ⟨ways, hfinds, (hmem _).mpr ?_, (hmem _).mpr ?_, fun h => ?_, fun h => ?_⟩
  · exact ⟨by simp, ⟨"b.go", _, by decide +kernel, rfl⟩, by decide +kernel⟩
  · exact ⟨by simp, ⟨"run.go", _, by decide +kernel, rfl⟩, by decide +kernel⟩
  · obtain ⟨c, hchild, hgo⟩ :=
      (Entry.holdsGoFile_cons_iff _ _ _).mp ((hmem _).mp h).holdsGoFile
    cases hchild
    exact absurd ((holdsGoFiles_eq_true_iff (by decide +kernel)).mpr hgo) (by decide +kernel)
  · exact (((hmem _).mp h).isLookedInto "vendor" (by simp)).ne_vendor rfl

end Registrar
