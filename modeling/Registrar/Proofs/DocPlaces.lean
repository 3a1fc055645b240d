import Registrar.Go.Source
import Registrar.Proofs.DocGroup

/-!
# Where declarations and specs stand in a tree

A declaration of a file is a named child of the root, and its specs are named children of it or of
nodes in it that only wrap specs. Each of them gets its doc comment from the named children of its
own parent that stand in front of it. Other nodes have no part in the file's documentation.
-/

namespace Registrar

/-- The specs of a declaration. -/
def Decl.specs (d : Decl) : List Spec :=
  match d.body with
  | .group _ specs => specs
  | .func _ _ => []

/-- The doc comments of a file's declarations and specs, each with its line. -/
def SourceFile.docs (file : SourceFile) : List (Int × Option String) :=
  file.declarations.flatMap fun d => (d.line, d.doc) :: d.specs.map fun s => (s.line, s.doc)

namespace Go

open Text.Utf8 (Bytes)

/-! ## Places -/

namespace Node

/-- A named child, behind the named children in front of it. -/
def HasChild (parent : Node) (before : List Node) (n : Node) : Prop :=
  ∃ after, parent.namedChildren = before ++ n :: after

/-- A spec of one of some kinds: a child, or a spec in a child that only wraps specs. It stands
behind some named children of its own parent. -/
inductive HasSpec (kinds : List String) : Node → List Node → Node → Prop
  | child {parent n : Node} {before : List Node} (h : parent.HasChild before n)
      (hlist : n.kind ∉ specLists) (hkind : n.kind ∈ kinds) : HasSpec kinds parent before n
  | inList {parent list n : Node} {skipped before : List Node} (h : parent.HasChild skipped list)
      (hlist : list.kind ∈ specLists) (hspec : HasSpec kinds list before n) :
      HasSpec kinds parent before n

/-- A node that declares something. -/
def IsDecl (n : Node) : Prop :=
  (groupOf? n.kind).isSome = true ∨ n.kind = "function_declaration" ∨
    n.kind = "method_declaration"

/-- A declaration below the root or a spec of one, behind the named nodes in front of it that have
the same parent. -/
inductive Introduces (root : Node) : List Node → Node → Prop
  | decl {n : Node} {before : List Node} (h : root.HasChild before n) (hdecl : n.IsDecl) :
      Introduces root before n
  | spec {d n : Node} {skipped before : List Node} {kind : GroupKind} {kinds : List String}
      (h : root.HasChild skipped d) (hgroup : groupOf? d.kind = some (kind, kinds))
      (hspec : d.HasSpec kinds before n) : Introduces root before n

/-- A node is part of a tree. -/
inductive Within : Node → Node → Prop
  | refl (n : Node) : Within n n
  | child {n c d : Node} (h : c ∈ n.children) (hd : Within c d) : Within n d

mutual

/-- Everywhere in a tree the children of a node are in source order and do not overlap. -/
def IsOrdered : Node → Prop
  | mk _ children => InOrder children ∧ AreOrdered children

/-- The trees are ordered one by one. -/
def AreOrdered : List Node → Prop
  | [] => True
  | n :: rest => n.IsOrdered ∧ AreOrdered rest

end

mutual

/-- The order of a tree can be checked. -/
def decideIsOrdered : (n : Node) → Decidable n.IsOrdered
  | mk _ children =>
    haveI := decideAreOrdered children
    inferInstanceAs (Decidable (_ ∧ _))

/-- The order of several trees can be checked. -/
def decideAreOrdered : (nodes : List Node) → Decidable (AreOrdered nodes)
  | [] => inferInstanceAs (Decidable True)
  | n :: rest =>
    haveI := decideIsOrdered n
    haveI := decideAreOrdered rest
    inferInstanceAs (Decidable (_ ∧ _))

end

instance (n : Node) : Decidable n.IsOrdered := n.decideIsOrdered

theorem areOrdered_iff (nodes : List Node) : AreOrdered nodes ↔ ∀ n ∈ nodes, n.IsOrdered := by
  induction nodes with
  | nil => simp [AreOrdered]
  | cons n rest ih => rw [AreOrdered, ih, List.forall_mem_cons]

theorem isOrdered_iff (n : Node) :
    n.IsOrdered ↔ InOrder n.children ∧ ∀ c ∈ n.children, c.IsOrdered := by
  obtain ⟨label, children⟩ := n
  rw [IsOrdered, areOrdered_iff]
  rfl

theorem IsOrdered.inOrder {root parent : Node} (h : root.IsOrdered) (hparent : root.Within parent) :
    InOrder parent.children := by
  induction hparent with
  | refl n => exact ((isOrdered_iff n).mp h).1
  | child hc _ ih => exact ih (((isOrdered_iff _).mp h).2 _ hc)

variable {parent n : Node} {before : List Node}

theorem HasChild.mem (h : parent.HasChild before n) : n ∈ parent.children := by
  obtain ⟨after, hchildren⟩ := h
  have hmem : n ∈ parent.namedChildren := hchildren ▸ List.mem_append_right _ List.mem_cons_self
  exact List.mem_of_mem_filter hmem

/-- The named children in front of a child are children in order. -/
theorem HasChild.sublist (h : parent.HasChild before n) : before.Sublist parent.children := by
  obtain ⟨after, hchildren⟩ := h
  have hbefore : before.Sublist parent.namedChildren := hchildren ▸ List.sublist_append_left _ _
  exact hbefore.trans List.filter_sublist

/-- A spec stands among the children of a node within the declaration. -/
theorem HasSpec.exists_hasChild {kinds : List String} (h : HasSpec kinds parent before n) :
    ∃ inner, parent.Within inner ∧ inner.HasChild before n := by
  induction h with
  | child hchild _ _ => exact ⟨_, .refl _, hchild⟩
  | inList hchild _ _ ih =>
    obtain ⟨inner, hinner, hspec⟩ := ih
    exact ⟨inner, .child hchild.mem hinner, hspec⟩

theorem Introduces.exists_hasChild {root : Node} (h : root.Introduces before n) :
    ∃ parent, root.Within parent ∧ parent.HasChild before n := by
  cases h with
  | decl hchild _ => exact ⟨root, .refl root, hchild⟩
  | spec hchild _ hspec =>
    obtain ⟨parent, hparent, hspec⟩ := hspec.exists_hasChild
    exact ⟨parent, .child hchild.mem hparent, hspec⟩

/-- The last named child of the root introduces something if it is a group. -/
theorem introduces_getLast? {root : Node} (h : n ∈ root.namedChildren.getLast?)
    (hgroup : (groupOf? n.kind).isSome = true) :
    root.Introduces root.namedChildren.dropLast n :=
  .decl ⟨[], (List.dropLast_append_getLast? n h).symm⟩ (.inl hgroup)

theorem sizeOf_lt_of_mem_children (h : n ∈ parent.children) : sizeOf n < sizeOf parent := by
  obtain ⟨label, children⟩ := parent
  have hlt := List.sizeOf_lt_of_mem h
  simp only [Node.children] at hlt
  simp only [Node.mk.sizeOf_spec]
  omega

/-- What holds of a node if it holds of its children holds of every node. -/
@[elab_as_elim]
theorem induction_children {motive : Node → Prop}
    (step : ∀ n : Node, (∀ c ∈ n.children, motive c) → motive n) (n : Node) : motive n :=
  step n fun c _ => induction_children step c
termination_by sizeOf n
decreasing_by
  rename_i hc
  exact sizeOf_lt_of_mem_children hc

end Node

/-! ## Readings in order -/

section Collect

variable {α : Type}

/-- What is read off each node of a list, knowing the nodes in front of it, the nearest first. -/
def collect (read : List Node → Node → List α) (earlier : List Node) : List Node → List α
  | [] => []
  | n :: rest => read earlier n ++ collect read (n :: earlier) rest

theorem mem_collect_iff {read : List Node → Node → List α} {earlier nodes : List Node} {x : α} :
    x ∈ collect read earlier nodes ↔
      ∃ before n after, nodes = before ++ n :: after ∧ x ∈ read (before.reverse ++ earlier) n := by
  induction nodes generalizing earlier with
  | nil => simp [collect]
  | cons first nodes ih =>
    rw [collect, List.mem_append, ih]
    constructor
    · rintro (hx | ⟨before, n, after, rfl, hx⟩)
      · exact ⟨[], first, nodes, rfl, hx⟩
      · refine ⟨first :: before, n, after, rfl, ?_⟩
        rwa [List.reverse_cons, List.append_assoc]
    · rintro ⟨before, n, after, hnodes, hx⟩
      cases before with
      | nil =>
        obtain ⟨rfl, rfl⟩ := List.cons.inj hnodes
        exact .inl hx
      | cons _ before =>
        obtain ⟨rfl, rfl⟩ := List.cons.inj hnodes
        rw [List.reverse_cons, List.append_assoc] at hx
        exact .inr ⟨before, n, after, rfl, hx⟩

/-- What is read off the named children of a node is read off one of them. -/
theorem mem_collect_namedChildren_iff {read : List Node → Node → List α} {parent : Node} {x : α} :
    x ∈ collect read [] parent.namedChildren ↔
      ∃ before n, parent.HasChild before n ∧ x ∈ read before.reverse n := by
  rw [mem_collect_iff]
  simp only [List.append_nil]
  constructor
  · rintro ⟨before, n, after, hchild, hx⟩
    exact ⟨before, n, ⟨after, hchild⟩, hx⟩
  · rintro ⟨before, n, ⟨after, hchild⟩, hx⟩
    exact ⟨before, n, after, hchild, hx⟩

end Collect

variable {source : Bytes}

theorem declsOf_eq_collect (path : String) (earlier nodes : List Node) :
    declsOf source path earlier nodes =
      collect (fun earlier n => (decl? source path earlier n).toList) earlier nodes := by
  induction nodes generalizing earlier with
  | nil => rfl
  | cons n nodes ih => rw [declsOf, collect, ih]

theorem specsOf_eq_collect (kinds : List String) (earlier children : List Node) :
    specsOf source kinds earlier children =
      collect (specsIn source kinds) earlier (children.filter fun c => c.label.named) := by
  induction children generalizing earlier with
  | nil => rfl
  | cons n children ih =>
    rw [specsOf, List.filter_cons]
    split
    · rw [collect, ih]
    · exact ih earlier

/-! ## Specs -/

/-- The spec of a node behind some named nodes, the nearest of which comes first. -/
def specAt (source : Bytes) (earlier : List Node) (n : Node) : Spec :=
  { names := specNames source n, doc := docAbove source n earlier, line := n.startRow source + 1 }

/-- A node that only wraps specs has those of its children; any other has one if it is a spec. -/
theorem specsIn_eq (kinds : List String) (earlier : List Node) (n : Node) :
    specsIn source kinds earlier n =
      if n.kind ∈ specLists then specsOf source kinds [] n.children
      else if n.kind ∈ kinds then [specAt source earlier n] else [] := by
  obtain ⟨label, children⟩ := n
  rw [specsIn]
  simp only [List.contains_iff_mem]
  rfl

/-- The specs that are read below a node are those that stand there. -/
theorem mem_specsOf_iff {kinds : List String} {parent : Node} {s : Spec} :
    s ∈ specsOf source kinds [] parent.children ↔
      ∃ before n, parent.HasSpec kinds before n ∧ s = specAt source before.reverse n := by
  have hread : s ∈ specsOf source kinds [] parent.children ↔
      ∃ before n, parent.HasChild before n ∧ s ∈ specsIn source kinds before.reverse n := by
    rw [specsOf_eq_collect]
    exact mem_collect_namedChildren_iff
  rw [hread]
  constructor
  · rintro ⟨before, n, hchild, hs⟩
    rw [specsIn_eq] at hs
    split at hs
    · rename_i hlist
      have hlt := Node.sizeOf_lt_of_mem_children hchild.mem
      obtain ⟨before, n, hspec, rfl⟩ := mem_specsOf_iff.mp hs
      exact ⟨before, n, .inList hchild hlist hspec, rfl⟩
    · rename_i hlist
      rw [List.mem_ite_nil_right, List.mem_singleton] at hs
      exact ⟨before, n, .child hchild hlist hs.1, hs.2⟩
  · rintro ⟨before, n, hspec, rfl⟩
    cases hspec with
    | child hchild hlist hkind =>
      refine ⟨before, n, hchild, ?_⟩
      rw [specsIn_eq, if_neg hlist, if_pos hkind]
      exact List.mem_singleton_self _
    | inList hchild hlist hspec =>
      have hlt := Node.sizeOf_lt_of_mem_children hchild.mem
      refine ⟨_, _, hchild, ?_⟩
      rw [specsIn_eq, if_pos hlist]
      exact mem_specsOf_iff.mpr ⟨before, n, hspec, rfl⟩
termination_by sizeOf parent

/-! ## Declarations -/

/-- A node declares a group of specs, a function, or nothing. -/
theorem declBody?_cases (source : Bytes) (n : Node) :
    (∃ kind kinds, groupOf? n.kind = some (kind, kinds) ∧
        declBody? source n = some (.group kind (specsOf source kinds [] n.children))) ∨
      (groupOf? n.kind = none ∧ n.IsDecl ∧
        ∃ name isMethod, declBody? source n = some (.func name isMethod)) ∨
      (¬ n.IsDecl ∧ declBody? source n = none) := by
  rw [declBody?]
  cases hgroup : groupOf? n.kind with
  | some group => exact .inl ⟨group.1, group.2, rfl, rfl⟩
  | none =>
    right
    by_cases hfunc : n.kind = "function_declaration" ∨ n.kind = "method_declaration"
    · exact .inl ⟨rfl, .inr hfunc, _, _, if_pos (by simpa using hfunc)⟩
    · refine .inr ⟨?_, if_neg (by simpa using hfunc)⟩
      rintro (hsome | hkind)
      · simp [hgroup] at hsome
      · exact hfunc hkind

theorem isSome_decl?_iff (path : String) (earlier : List Node) (n : Node) :
    (∃ d, decl? source path earlier n = some d) ↔ n.IsDecl := by
  simp only [decl?, Option.map_eq_some_iff]
  rcases declBody?_cases source n with ⟨kind, kinds, hgroup, hbody⟩ | ⟨-, hdecl, _, _, hbody⟩ |
    ⟨hdecl, hbody⟩
  · exact iff_of_true ⟨_, _, hbody, rfl⟩ (.inl (by simp [hgroup]))
  · exact iff_of_true ⟨_, _, hbody, rfl⟩ hdecl
  · exact iff_of_false (by simp [hbody]) hdecl

/-- The specs of a declaration are those that stand in its node. -/
theorem mem_specs_iff {path : String} {earlier : List Node} {n : Node} {d : Decl}
    (h : decl? source path earlier n = some d) {s : Spec} :
    s ∈ d.specs ↔ ∃ kind kinds, groupOf? n.kind = some (kind, kinds) ∧
      ∃ before m, n.HasSpec kinds before m ∧ s = specAt source before.reverse m := by
  obtain ⟨body, hbody', rfl⟩ := Option.map_eq_some_iff.mp h
  rcases declBody?_cases source n with ⟨kind, kinds, hgroup, hbody⟩ | ⟨hgroup, -, _, _, hbody⟩ |
    ⟨-, hbody⟩
  · obtain rfl := Option.some.inj (hbody.symm.trans hbody')
    simp [Decl.specs, hgroup, mem_specsOf_iff]
  · obtain rfl := Option.some.inj (hbody.symm.trans hbody')
    simp [Decl.specs, hgroup]
  · exact absurd (hbody.symm.trans hbody') (by simp)

theorem mem_declarations_iff {path : String} {root : Node} {file : SourceFile}
    (h : sourceFileOf source path root = .ok file) {d : Decl} :
    d ∈ file.declarations ↔
      ∃ before n, root.HasChild before n ∧ decl? source path before.reverse n = some d := by
  have hdecls : file.declarations = declsOf source path [] root.namedChildren := by
    rw [sourceFileOf] at h
    split at h
    · exact nomatch h
    · split at h
      · exact nomatch h
      · exact (Except.ok.inj h) ▸ rfl
  rw [hdecls, declsOf_eq_collect, mem_collect_namedChildren_iff]
  simp only [Option.mem_toList]

/-- The doc comments of a file are those above its declarations and specs, each among the children
of its own parent. -/
theorem mem_docs_iff {path : String} {root : Node} {file : SourceFile}
    (h : sourceFileOf source path root = .ok file) {x : Int × Option String} :
    x ∈ file.docs ↔ ∃ before n, root.Introduces before n ∧
      x = ((n.startRow source : Int) + 1, docAbove source n before.reverse) := by
  simp only [SourceFile.docs, List.mem_flatMap, mem_declarations_iff h, List.mem_cons,
    List.mem_map]
  constructor
  · rintro ⟨d, ⟨before, n, hchild, hd⟩, rfl | ⟨s, hs, rfl⟩⟩
    · obtain ⟨body, -, rfl⟩ := Option.map_eq_some_iff.mp hd
      exact ⟨before, n, .decl hchild ((isSome_decl?_iff path _ n).mp ⟨_, hd⟩), rfl⟩
    · obtain ⟨kind, kinds, hgroup, before, m, hspec, rfl⟩ := (mem_specs_iff hd).mp hs
      exact ⟨before, m, .spec hchild hgroup hspec, rfl⟩
  · rintro ⟨before, n, hplace, rfl⟩
    cases hplace with
    | decl hchild hdecl =>
      obtain ⟨d, hd⟩ := (isSome_decl?_iff path before.reverse n).mpr hdecl
      refine ⟨d, ⟨before, n, hchild, hd⟩, .inl ?_⟩
      obtain ⟨body, -, rfl⟩ := Option.map_eq_some_iff.mp hd
      rfl
    | spec hchild hgroup hspec =>
      obtain ⟨d, hd⟩ := (isSome_decl?_iff path _ _).mpr (.inl (by rw [hgroup]; rfl))
      exact ⟨d, ⟨_, _, hchild, hd⟩, .inr ⟨_, (mem_specs_iff hd).mpr
        ⟨_, _, hgroup, before, n, hspec, rfl⟩, rfl⟩⟩

end Go

end Registrar
