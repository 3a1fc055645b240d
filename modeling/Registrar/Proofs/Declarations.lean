import Registrar.Proofs.DocPlaces
import Registrar.Proofs.Except

/-!
# What a source file declares

A tree without faults that has a package clause gives a source file. Each of its declaring nodes
gives one declaration, in order, and each spec of a declaration stands in one place below its node:
a list of positions among named children, of which all but the last lead to nodes that only wrap
specs. The specs are listed in the order of their places, so none is lost and none is read twice.
-/

namespace Registrar.Go

open Text.Utf8 (Bytes encode)

/-! ## Values in places -/

section Places

variable {α : Type} {reads reads' : List Nat → α → Prop} {values values' : List α}

/-- Values are read off in the order of places: one in every place where there is one to read. -/
def InPlaces (reads : List Nat → α → Prop) (values : List α) : Prop :=
  ∃ table : List (List Nat × α), table.map Prod.snd = values ∧
    (table.Pairwise fun a b => a.1 < b.1) ∧ (∀ a ∈ table, reads a.1 a.2) ∧
    ∀ place value, reads place value → place ∈ table.map Prod.fst

namespace InPlaces

theorem nil (h : ∀ place value, ¬ reads place value) : InPlaces reads [] :=
  ⟨[], rfl, .nil, by simp, fun place value hread => absurd hread (h place value)⟩

/-- There is one value to read, right here. -/
theorem singleton {value : α} (hvalue : reads [] value)
    (h : ∀ place value, reads place value → place = []) : InPlaces reads [value] := by
  refine ⟨[([], value)], rfl, List.pairwise_singleton _ _, by simpa using hvalue, ?_⟩
  intro place value' hread
  rw [h place value' hread]
  exact List.mem_singleton_self _

theorem congr (h : ∀ place value, reads place value ↔ reads' place value)
    (hvalues : InPlaces reads values) : InPlaces reads' values := by
  have heq : reads = reads' := funext fun place => funext fun value => propext (h place value)
  exact heq ▸ hvalues

/-- Values in earlier places come first. -/
theorem append (h : InPlaces reads values) (h' : InPlaces reads' values')
    (hlt : ∀ place value place' value', reads place value → reads' place' value' →
      place < place') :
    InPlaces (fun place value => reads place value ∨ reads' place value) (values ++ values') := by
  obtain ⟨table, rfl, hordered, hread, hall⟩ := h
  obtain ⟨table', rfl, hordered', hread', hall'⟩ := h'
  refine ⟨table ++ table', List.map_append, ?_, ?_, ?_⟩
  · rw [List.pairwise_append]
    exact ⟨hordered, hordered', fun a ha b hb => hlt _ _ _ _ (hread a ha) (hread' b hb)⟩
  · intro a ha
    exact (List.mem_append.mp ha).imp (hread a) (hread' a)
  · intro place value hvalue
    rw [List.map_append, List.mem_append]
    exact hvalue.imp (hall place value) (hall' place value)

/-- Values that are read below a position are read below one more. -/
theorem below (h : InPlaces reads values) (i : Nat) :
    InPlaces (fun place value => ∃ rest, place = i :: rest ∧ reads rest value) values := by
  obtain ⟨table, rfl, hordered, hread, hall⟩ := h
  refine ⟨table.map fun a => (i :: a.1, a.2), by simp, ?_, ?_, ?_⟩
  · rw [List.pairwise_map]
    exact hordered.imp fun hab => List.cons_lt_cons_iff.mpr (.inr ⟨rfl, hab⟩)
  · intro a ha
    obtain ⟨b, hb, rfl⟩ := List.mem_map.mp ha
    exact ⟨b.1, rfl, hread b hb⟩
  · rintro place value ⟨rest, rfl, hvalue⟩
    obtain ⟨b, hb, rfl⟩ := List.mem_map.mp (hall rest value hvalue)
    exact List.mem_map.mpr ⟨_, List.mem_map_of_mem hb, rfl⟩

/-- Values that are read off the nodes of a list, node by node, are read off in the order of their
places. -/
theorem collect {read : List Node → Node → List α} {reads : Node → List Nat → α → Prop}
    {nodes : List Node} (h : ∀ n ∈ nodes, ∀ earlier, InPlaces (reads n) (read earlier n))
    (earlier : List Node) (first : Nat) :
    InPlaces (fun place value => ∃ i n rest, nodes[i]? = some n ∧ place = (first + i) :: rest ∧
      reads n rest value) (Go.collect read earlier nodes) := by
  induction nodes generalizing earlier first with
  | nil => exact nil (by simp)
  | cons n nodes ih =>
    obtain ⟨hn, hnodes⟩ := List.forall_mem_cons.mp h
    have hhead := (hn earlier).below first
    have htail := ih hnodes (n :: earlier) (first + 1)
    rw [Go.collect]
    refine (hhead.append htail ?_).congr ?_
    · rintro _ _ _ _ ⟨rest, rfl, -⟩ ⟨i, m, rest', -, rfl, -⟩
      exact List.cons_lt_cons_iff.mpr (.inl (by omega))
    · intro place value
      constructor
      · rintro (⟨rest, rfl, hvalue⟩ | ⟨i, m, rest, hm, rfl, hvalue⟩)
        · exact ⟨0, n, rest, rfl, rfl, hvalue⟩
        · refine ⟨i + 1, m, rest, hm, ?_, hvalue⟩
          rw [Nat.add_assoc, Nat.add_comm 1 i]
      · rintro ⟨i, m, rest, hm, rfl, hvalue⟩
        cases i with
        | zero =>
          obtain rfl : n = m := Option.some.inj hm
          exact .inl ⟨rest, rfl, hvalue⟩
        | succ i =>
          refine .inr ⟨i, m, rest, hm, ?_, hvalue⟩
          rw [Nat.add_assoc, Nat.add_comm 1 i]

end InPlaces

end Places

/-! ## What nodes say -/

/-- The kind of the nodes that declare a group. -/
def groupDecl : GroupKind → String
  | .const => "const_declaration"
  | .var => "var_declaration"
  | .type => "type_declaration"

/-- The kinds of the specs of a group. -/
def groupSpecs : GroupKind → List String
  | .const => ["const_spec"]
  | .var => ["var_spec"]
  | .type => ["type_spec", "type_alias"]

namespace Node

/-- A spec of one of some kinds stands in a place below a node: it is a named child, or it stands in
a named child that only wraps specs. -/
inductive HasSpecAt (kinds : List String) : Node → List Nat → Node → Prop
  | child {parent n : Node} {i : Nat} (h : parent.namedChildren[i]? = some n)
      (hkind : n.kind ∈ kinds) : HasSpecAt kinds parent [i] n
  | inList {parent list n : Node} {i : Nat} {place : List Nat}
      (h : parent.namedChildren[i]? = some list) (hlist : list.kind ∈ specLists)
      (hspec : HasSpecAt kinds list place n) : HasSpecAt kinds parent (i :: place) n

/-- A spec has the names of a node, which are its named children in the role of a name, and the line
where the node starts. -/
structure ReadsSpec (source : Bytes) (n : Node) (s : Spec) : Prop where
  names_eq : s.names = (n.namedChildren.filter fun c => c.label.field = some "name").map
    fun c => String.ofList (c.text source)
  line_eq : s.line = (n.startRow source : Int) + 1

/-- Specs are those of some kinds that stand below a node, in the order of their places. -/
def ReadsSpecs (source : Bytes) (kinds : List String) (n : Node) (specs : List Spec) : Prop :=
  InPlaces (fun place s => ∃ m, n.HasSpecAt kinds place m ∧ m.ReadsSpec source s) specs

/-- A node declares a group with the specs of the group's own kinds, or a function with the text of
the first child in the role of a name. -/
def ReadsBody (source : Bytes) (n : Node) : Decl.Body → Prop
  | .group group specs => n.kind = groupDecl group ∧ n.ReadsSpecs source (groupSpecs group) specs
  | .func name isMethod =>
    n.kind = (if isMethod then "method_declaration" else "function_declaration") ∧
      name = ((n.children.find? fun c => c.label.field = some "name").map
        fun c => String.ofList (c.text source)).getD ""

/-- A declaration says what its node declares, in which file and on which line. -/
structure ReadsDecl (source : Bytes) (path : String) (n : Node) (d : Decl) : Prop where
  body : n.ReadsBody source d.body
  path_eq : d.path = path
  line_eq : d.line = (n.startRow source : Int) + 1

/-- The kinds of nodes that declare something. -/
def declKinds : List String :=
  ["const_declaration", "var_declaration", "type_declaration", "function_declaration",
    "method_declaration"]

/-- A name that a package clause can give. -/
def isPackageName (n : Node) : Bool :=
  n.kind = "package_identifier" || n.kind = "identifier"

/-- A package clause that gives a name. -/
def isNamingClause (n : Node) : Bool :=
  n.kind = "package_clause" && n.namedChildren.any isPackageName

end Node

variable {source : Bytes}

/-! ## Specs -/

theorem readsSpec_specAt (earlier : List Node) (n : Node) :
    n.ReadsSpec source (specAt source earlier n) where
  names_eq := by
    rw [specAt, specNames, Node.childrenByField, List.filter_comm]
    rfl
  line_eq := rfl

/-- The specs that are read below a node are those that stand there, place by place. -/
theorem readsSpecs_specsOf {kinds : List String} (hkinds : ∀ kind ∈ kinds, kind ∉ specLists)
    (d : Node) : d.ReadsSpecs source kinds (specsOf source kinds [] d.children) := by
  induction d using Node.induction_children with
  | step d ih =>
    have hread : ∀ n ∈ d.namedChildren, ∀ earlier,
        InPlaces (fun place s => n.kind ∈ specLists ∧ (∃ m, n.HasSpecAt kinds place m ∧
            m.ReadsSpec source s) ∨ n.kind ∈ kinds ∧ place = [] ∧ n.ReadsSpec source s)
          (specsIn source kinds earlier n) := by
      intro n hn earlier
      rw [specsIn_eq]
      split
      · rename_i hlist
        have hkind : n.kind ∉ kinds := fun hkind => hkinds _ hkind hlist
        exact (ih n (List.mem_of_mem_filter hn)).congr fun place s => by simp [hlist, hkind]
      · rename_i hlist
        split
        · rename_i hkind
          refine .singleton (.inr ⟨hkind, rfl, readsSpec_specAt earlier n⟩) ?_
          rintro place s (⟨hlist', -⟩ | ⟨-, hplace, -⟩)
          · exact absurd hlist' hlist
          · exact hplace
        · rename_i hkind
          exact .nil fun place s => by simp [hlist, hkind]
    rw [specsOf_eq_collect]
    refine (InPlaces.collect hread [] 0).congr fun place s => ?_
    simp only [Nat.zero_add]
    constructor
    · rintro ⟨i, n, rest, hn, rfl, ⟨hlist, m, hspec, hs⟩ | ⟨hkind, rfl, hs⟩⟩
      · exact ⟨m, .inList hn hlist hspec, hs⟩
      · exact ⟨n, .child hn hkind, hs⟩
    · rintro ⟨m, hspec, hs⟩
      cases hspec with
      | child hm hkind => exact ⟨_, m, [], hm, rfl, .inr ⟨hkind, rfl, hs⟩⟩
      | inList hn hlist hspec => exact ⟨_, _, _, hn, rfl, .inl ⟨hlist, m, hspec, hs⟩⟩

/-! ## Declarations -/

theorem groupOf?_eq_some_iff (kind : String) (group : GroupKind) (kinds : List String) :
    groupOf? kind = some (group, kinds) ↔ kind = groupDecl group ∧ kinds = groupSpecs group := by
  rw [groupOf?]
  split_ifs <;> cases group <;> simp_all [groupDecl, groupSpecs, eq_comm]

theorem isDecl_iff (n : Node) : n.IsDecl ↔ n.kind ∈ Node.declKinds := by
  rw [Node.IsDecl, groupOf?]
  split_ifs <;> simp_all [Node.declKinds]

/-- The name of a function is the text of the first child in the role of a name. -/
theorem functionName_eq (n : Node) :
    (match n.childrenByField "name" with
      | [] => ""
      | c :: _ => String.ofList (c.text source)) =
      ((n.children.find? fun c => c.label.field = some "name").map
        fun c => String.ofList (c.text source)).getD "" := by
  rw [← List.head?_filter]
  change _ = ((n.childrenByField "name").head?.map _).getD ""
  cases n.childrenByField "name" <;> rfl

/-- What is read off a node as a declaration is what the node declares. -/
theorem readsBody_of_declBody? {n : Node} {body : Decl.Body} (h : declBody? source n = some body) :
    n.ReadsBody source body := by
  rw [declBody?] at h
  cases hgroup : groupOf? n.kind with
  | some found =>
    obtain ⟨group, kinds⟩ := found
    obtain ⟨hkind, rfl⟩ := (groupOf?_eq_some_iff _ _ _).mp hgroup
    rw [hgroup] at h
    obtain rfl := Option.some.inj h
    have hspecs : ∀ kind ∈ groupSpecs group, kind ∉ specLists := by cases group <;> decide
    exact ⟨hkind, readsSpecs_specsOf hspecs n⟩
  | none =>
    rw [hgroup] at h
    dsimp only at h
    split at h
    · rename_i hfunc
      obtain rfl := Option.some.inj h
      refine ⟨?_, functionName_eq n⟩
      by_cases hmethod : n.kind = "method_declaration"
      · simp [hmethod]
      · simpa [hmethod] using hfunc
    · cases h

variable (source) in
/-- A node that declares something gives a declaration, and any other node gives none. -/
theorem decl?_cases (path : String) (earlier : List Node) (n : Node) :
    (n.kind ∈ Node.declKinds ∧ ∃ d, decl? source path earlier n = some d ∧
        n.ReadsDecl source path d) ∨
      (n.kind ∉ Node.declKinds ∧ decl? source path earlier n = none) := by
  have hsome : (∃ d, decl? source path earlier n = some d) ↔ n.kind ∈ Node.declKinds :=
    (isSome_decl?_iff path earlier n).trans (isDecl_iff n)
  rw [← hsome]
  cases hd : decl? source path earlier n with
  | none => simp
  | some d =>
    obtain ⟨body, hbody, rfl⟩ := Option.map_eq_some_iff.mp hd
    exact .inl ⟨⟨_, rfl⟩, _, rfl, readsBody_of_declBody? hbody, rfl, rfl⟩

/-- The declarations that are read are those of the declaring nodes, one for each. -/
theorem readsDecl_declsOf (path : String) (earlier nodes : List Node) :
    List.Forall₂ (fun n d => n.ReadsDecl source path d)
      (nodes.filter fun n => n.kind ∈ Node.declKinds) (declsOf source path earlier nodes) := by
  induction nodes generalizing earlier with
  | nil => exact .nil
  | cons n nodes ih =>
    rw [declsOf, List.filter_cons]
    rcases decl?_cases source path earlier n with ⟨hkind, d, hd, hreads⟩ | ⟨hkind, hd⟩
    · rw [hd, if_pos (by simpa using hkind)]
      exact .cons hreads (ih _)
    · rw [hd, if_neg (by simpa using hkind)]
      exact ih _

/-! ## The package clause -/

/-- The package is the first name of the first package clause that gives one. -/
theorem packageName?_eq (root : Node) :
    packageName? source root = (root.namedChildren.find? Node.isNamingClause).bind fun clause =>
      (clause.namedChildren.find? Node.isPackageName).map
        fun n => String.ofList (n.text source) := by
  rw [packageName?]
  induction root.namedChildren with
  | nil => rfl
  | cons clause nodes ih =>
    rw [List.filter_cons]
    by_cases hkind : clause.kind = "package_clause"
    · rw [if_pos (by simpa using hkind), List.findSome?_cons]
      have hfind : (clause.namedChildren.find? fun n =>
          n.kind = "package_identifier" || n.kind = "identifier") =
            clause.namedChildren.find? Node.isPackageName := rfl
      rw [hfind]
      cases hname : clause.namedChildren.find? Node.isPackageName with
      | none =>
        have hclause : Node.isNamingClause clause = false := by
          rw [Node.isNamingClause, ← List.isSome_find?, hname]
          exact Bool.and_false _
        rw [List.find?_cons_of_neg (by simp [hclause])]
        exact ih
      | some n =>
        have hclause : Node.isNamingClause clause = true := by
          rw [Node.isNamingClause, ← List.isSome_find?, hname]
          simp [hkind]
        rw [List.find?_cons_of_pos hclause, Option.bind_some, hname]
        rfl
    · have hclause : Node.isNamingClause clause = false := by simp [Node.isNamingClause, hkind]
      rw [if_neg (by simpa using hkind), List.find?_cons_of_neg (by simp [hclause])]
      exact ih

/-! ## Source files -/

/-- A tree that holds no fault and has a package clause with a name gives a source file: its package
is the first name of the first such clause, its declarations are those of the declaring nodes below
the root, one for each in order, and the specs of a declaration are those that stand below its node,
one for each place in order. -/
theorem sourceFileOf_declares {root : Node} (hclean : root.label.hasFault = false)
    (hclause : ∃ clause ∈ root.namedChildren, clause.isNamingClause = true) (source : Bytes)
    (path : String) :
    ∃ file clause name, sourceFileOf source path root = .ok file ∧ file.path = path ∧
      root.namedChildren.find? Node.isNamingClause = some clause ∧
      clause.namedChildren.find? Node.isPackageName = some name ∧
      file.package = String.ofList (name.text source) ∧
      List.Forall₂ (fun n d => n.ReadsDecl source path d)
        (root.namedChildren.filter fun n => n.kind ∈ Node.declKinds) file.declarations := by
  obtain ⟨clause, hfirst⟩ := Option.isSome_iff_exists.mp (List.find?_isSome.mpr hclause)
  have hnaming : clause.isNamingClause = true := List.find?_some hfirst
  rw [Node.isNamingClause, Bool.and_eq_true, ← List.isSome_find?] at hnaming
  obtain ⟨name, hname⟩ := Option.isSome_iff_exists.mp hnaming.2
  have hpackage : packageName? source root = some (String.ofList (name.text source)) := by
    rw [packageName?_eq, hfirst, Option.bind_some, hname]
    rfl
  refine ⟨⟨path, String.ofList (name.text source), declsOf source path [] root.namedChildren⟩,
    clause, name, ?_, rfl, hfirst, hname, rfl, readsDecl_declsOf path [] root.namedChildren⟩
  rw [sourceFileOf, hclean, if_neg Bool.false_ne_true, hpackage]

/-- A group of variables and a function. -/
def groupedSource : Bytes :=
  encode "package p\n\nvar (\n\tA, B = 1, 2\n\t// c\n\tC = 3\n)\n\nfunc F() \x7b\x7d\n"

/-- A tree of the grouped source in which a list of specs holds another one, a comma has the role of
a name, and a constant stands among the variables. -/
def groupedTree : Node :=
  .make { kind := "source_file", start := 0, stop := 58 } [
    .make { kind := "package_clause", start := 0, stop := 9 } [
      .make { kind := "package_identifier", start := 8, stop := 9 } []],
    .make { kind := "var_declaration", start := 11, stop := 44 } [
      .make { kind := "var", start := 11, stop := 14, named := false } [],
      .make { kind := "var_spec_list", start := 15, stop := 44 } [
        .make { kind := "var_spec", start := 18, stop := 29 } [
          .make { kind := "identifier", start := 18, stop := 19, field := some "name" } [],
          .make { kind := ",", start := 19, stop := 20, named := false, field := some "name" } [],
          .make { kind := "identifier", start := 21, stop := 22, field := some "name" } []],
        .make { kind := "comment", start := 31, stop := 35 } [],
        .make { kind := "var_spec_list", start := 37, stop := 42 } [
          .make { kind := "const_spec", start := 37, stop := 37 } [],
          .make { kind := "var_spec", start := 37, stop := 42 } [
            .make { kind := "identifier", start := 37, stop := 38, field := some "name" } []]]]],
    .make { kind := "function_declaration", start := 46, stop := 57 } [
      .make { kind := "identifier", start := 51, stop := 52, field := some "name" } []]]

theorem sourceFileOf_declares_groupedTree :
    groupedTree.label.hasFault = false ∧
      (∃ clause ∈ groupedTree.namedChildren, clause.isNamingClause = true) ∧
      ∃ file, sourceFileOf groupedSource "p/x.go" groupedTree = .ok file ∧
        file.package = "p" ∧ file.declarations.map Decl.names = [["A", "B", "C"], ["F"]] ∧
        List.Forall₂ (fun n d => n.ReadsDecl groupedSource "p/x.go" d)
          (groupedTree.namedChildren.filter fun n => n.kind ∈ Node.declKinds)
          file.declarations := by
  have hclean : groupedTree.label.hasFault = false := by decide +kernel
  have hclause : ∃ clause ∈ groupedTree.namedChildren, clause.isNamingClause = true := by
    decide +kernel
  have hrun : ∃ file ∈ (sourceFileOf groupedSource "p/x.go" groupedTree).toOption,
      file.package = "p" ∧ file.declarations.map Decl.names = [["A", "B", "C"], ["F"]] := by
    decide +kernel
  obtain ⟨read, hread, hpackage, hnames⟩ := hrun
  obtain ⟨file, _, _, hfile, -, -, -, -, hdecls⟩ :=
    sourceFileOf_declares hclean hclause groupedSource "p/x.go"
  obtain rfl : file = read :=
    Except.ok.inj (hfile.symm.trans ((Except.toOption_eq_some_iff _ _).mp hread))
  exact ⟨hclean, hclause, file, hfile, hpackage, hnames, hdecls⟩

end Registrar.Go
