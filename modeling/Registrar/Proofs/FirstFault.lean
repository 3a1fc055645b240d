import Registrar.Proofs.DocPlaces

/-!
# The first fault of a tree

A tree is searched for a fault with a stack, and only children that say of themselves that they
hold one are looked into. In a tree whose nodes say so rightly the search comes to the fault that is
first when parents are read before their children and children from left to right. A source is
rejected at this fault, whatever else its tree holds.
-/

namespace Registrar.Go

open Text.Utf8 (Bytes encode)

namespace Node

/-! ## Reading order -/

mutual

/-- The nodes of a tree, parents before their children and children from left to right. -/
def preorder : Node → List Node
  | mk label children => mk label children :: preorderOf children

/-- The nodes of several trees, tree by tree. -/
def preorderOf : List Node → List Node
  | [] => []
  | n :: rest => n.preorder ++ preorderOf rest

end

theorem preorder_eq (n : Node) : n.preorder = n :: preorderOf n.children := by
  obtain ⟨label, children⟩ := n
  rw [preorder]
  rfl

theorem preorderOf_append (nodes rest : List Node) :
    preorderOf (nodes ++ rest) = preorderOf nodes ++ preorderOf rest := by
  induction nodes with
  | nil => rfl
  | cons n nodes ih => rw [List.cons_append, preorderOf, preorderOf, ih, List.append_assoc]

theorem mem_preorderOf_iff (nodes : List Node) (d : Node) :
    d ∈ preorderOf nodes ↔ ∃ n ∈ nodes, d ∈ n.preorder := by
  induction nodes with
  | nil => simp [preorderOf]
  | cons n nodes ih => rw [preorderOf, List.mem_append, ih, List.exists_mem_cons_iff]

/-- The nodes that are read are the parts of the tree. -/
theorem mem_preorder_iff (n d : Node) : d ∈ n.preorder ↔ n.Within d := by
  induction n using induction_children with
  | step n ih =>
    rw [preorder_eq, List.mem_cons, mem_preorderOf_iff]
    constructor
    · rintro (rfl | ⟨c, hc, hd⟩)
      · exact .refl d
      · exact .child hc ((ih c hc).mp hd)
    · intro h
      cases h with
      | refl => exact .inl rfl
      | child hc hd => exact .inr ⟨_, hc, (ih _ hc).mpr hd⟩

/-! ## Trees that know their faults -/

/-- Every node of a tree says that it holds a fault exactly if it is one or has a child that says
so. -/
def FlagsFaults (root : Node) : Prop :=
  ∀ n, root.Within n → (n.label.hasFault = true ↔
    n.isFault = true ∨ ∃ c ∈ n.children, c.label.hasFault = true)

instance (root : Node) : Decidable root.FlagsFaults :=
  decidable_of_iff (∀ n ∈ root.preorder, (n.label.hasFault = true ↔
      n.isFault = true ∨ ∃ c ∈ n.children, c.label.hasFault = true)) <| by
    simp only [mem_preorder_iff]
    rfl

namespace FlagsFaults

variable {root : Node}

theorem child (h : root.FlagsFaults) {c : Node} (hc : c ∈ root.children) : c.FlagsFaults :=
  fun n hn => h n (.child hc hn)

/-- The root says that it holds a fault if there is one in the tree. -/
theorem hasFault_iff (h : root.FlagsFaults) :
    root.label.hasFault = true ↔ ∃ n, root.Within n ∧ n.isFault = true := by
  induction root using induction_children with
  | step root ih =>
    rw [h root (.refl root)]
    constructor
    · rintro (hroot | ⟨c, hc, hholds⟩)
      · exact ⟨root, .refl root, hroot⟩
      · obtain ⟨n, hn, hfault⟩ := (ih c hc (h.child hc)).mp hholds
        exact ⟨n, .child hc hn, hfault⟩
    · rintro ⟨n, hn, hfault⟩
      cases hn with
      | refl => exact .inl hfault
      | child hc hn => exact .inr ⟨_, hc, (ih _ hc (h.child hc)).mpr ⟨n, hn, hfault⟩⟩

/-- A node that is missing says that it holds a fault. -/
theorem hasFault_or_missing (h : root.FlagsFaults) :
    (root.label.hasFault || root.label.missing) = root.label.hasFault := by
  cases hmissing : root.label.missing with
  | false => exact Bool.or_false _
  | true =>
    have hroot : root.label.hasFault = true :=
      (h root (.refl root)).mpr (.inl (by simp [isFault, hmissing]))
    rw [hroot, Bool.true_or]

/-- A tree that says that it holds no fault has none to read. -/
theorem find?_preorder_eq_none (h : root.FlagsFaults) (hroot : root.label.hasFault = false) :
    root.preorder.find? isFault = none := by
  rw [List.find?_eq_none]
  intro n hn hfault
  have hholds := h.hasFault_iff.mpr ⟨n, (mem_preorder_iff root n).mp hn, hfault⟩
  exact Bool.false_ne_true (hroot.symm.trans hholds)

end FlagsFaults

/-! ## The search -/

/-- Trees that are not looked into hold none of the faults that are read. -/
theorem find?_preorderOf_suspects {nodes : List Node} (h : ∀ n ∈ nodes, n.FlagsFaults) :
    (preorderOf (nodes.filter fun n => n.label.hasFault || n.label.missing)).find? isFault =
      (preorderOf nodes).find? isFault := by
  induction nodes with
  | nil => rfl
  | cons n nodes ih =>
    obtain ⟨hn, hnodes⟩ := List.forall_mem_cons.mp h
    rw [List.filter_cons, hn.hasFault_or_missing]
    split
    · rw [preorderOf, preorderOf, List.find?_append, List.find?_append, ih hnodes]
    · rename_i hclean
      rw [preorderOf, List.find?_append, hn.find?_preorder_eq_none (by simpa using hclean),
        Option.none_or, ih hnodes]

/-- The search of a stack comes to the fault that is read first when its trees are read from the
top of the stack on. -/
theorem searchFault_eq {stack : List Node} (h : ∀ n ∈ stack, n.FlagsFaults) :
    searchFault stack = (preorderOf stack).find? isFault := by
  induction stack using searchFault.induct with
  | case1 => rw [searchFault, preorderOf, List.find?_nil]
  | case2 n stack hfault =>
    rw [searchFault, if_pos hfault, preorderOf, preorder_eq, List.cons_append,
      List.find?_cons_of_pos hfault]
  | case3 n stack hclean ih =>
    obtain ⟨hn, hstack⟩ := List.forall_mem_cons.mp h
    have hchildren : ∀ c ∈ n.children, c.FlagsFaults := fun c hc => hn.child hc
    rw [pushAll_reverse] at ih
    have hnext : ∀ c ∈ n.suspects ++ stack, c.FlagsFaults := by
      intro c hc
      rcases List.mem_append.mp hc with hc | hc
      · exact hchildren c (List.mem_of_mem_filter hc)
      · exact hstack c hc
    rw [searchFault, if_neg hclean, pushAll_reverse, ih hnext, preorderOf_append, preorderOf,
      preorder_eq, List.cons_append, List.find?_cons_of_neg hclean, List.find?_append,
      List.find?_append, suspects, find?_preorderOf_suspects hchildren]

/-- The search of a tree comes to the fault that is read first. -/
theorem FlagsFaults.firstFault?_eq {root : Node} (h : root.FlagsFaults) :
    root.firstFault? = root.preorder.find? isFault := by
  rw [firstFault?, searchFault_eq (by simpa using h), preorderOf, preorderOf, List.append_nil]

end Node

/-! ## Rejection -/

/-- A source whose tree says that it holds no fault can only be rejected for want of a package
clause. -/
theorem reason_eq_noPackage_of_sourceFileOf {source : Bytes} {path : String} {root : Node}
    (hroot : root.label.hasFault = false) {e : ParseError}
    (h : sourceFileOf source path root = .error e) : e.reason = .noPackage := by
  rw [sourceFileOf, hroot, if_neg Bool.false_ne_true] at h
  split at h
  · exact (Except.error.inj h) ▸ rfl
  · cases h

/-- A fault is not reported as a want of a package clause. -/
theorem reason_faultError_ne_noPackage (source : Bytes) (path : String) (n : Node) :
    (faultError source path n).reason ≠ .noPackage := by
  rw [faultError]
  dsimp only
  split
  · nofun
  · split <;> nofun

variable {root : Node}

/-- The search with a stack finds the first fault in reading order. A source without a fault is not
rejected for its syntax, and any other is rejected at its first fault, whatever its package clause
and its declarations are. -/
theorem Node.FlagsFaults.rejects_first_fault (h : root.FlagsFaults) (source : Bytes)
    (path : String) :
    root.firstFault? = root.preorder.find? Node.isFault ∧
      ((∀ n, root.Within n → n.isFault = false) → ∀ e,
        sourceFileOf source path root = .error e → e.reason = .noPackage) ∧
      ((∃ n, root.Within n ∧ n.isFault = true) → ∃ n e,
        root.preorder.find? Node.isFault = some n ∧
        sourceFileOf source path root = .error e ∧ e.path = path ∧ e.reason ≠ .noPackage ∧
        e.line = some (rowAt source n.label.start + 1) ∧
        e.column = some (columnAt source n.label.start + 1)) := by
  refine ⟨h.firstFault?_eq, fun hclean e herror => ?_, fun hfault => ?_⟩
  · have hroot : root.label.hasFault = false := by
      rw [Bool.eq_false_iff, ne_eq, h.hasFault_iff]
      rintro ⟨n, hn, hfault⟩
      exact Bool.false_ne_true ((hclean n hn).symm.trans hfault)
    exact reason_eq_noPackage_of_sourceFileOf hroot herror
  · have hroot : root.label.hasFault = true := h.hasFault_iff.mpr hfault
    obtain ⟨m, hm, hfault⟩ := hfault
    have hsome : (root.preorder.find? Node.isFault).isSome = true :=
      List.find?_isSome.mpr ⟨m, (Node.mem_preorder_iff root m).mpr hm, hfault⟩
    obtain ⟨n, hn⟩ := Option.isSome_iff_exists.mp hsome
    have herror : sourceFileOf source path root = .error (faultError source path n) := by
      rw [sourceFileOf, if_pos hroot, h.firstFault?_eq, hn]
      rfl
    exact ⟨n, _, hn, herror, rfl, reason_faultError_ne_noPackage source path n, rfl, rfl⟩

/-- A variable without its value, in front of a line of nonsense. -/
def brokenSource : Bytes :=
  encode "package p\n\nvar A = \nvar )(\n"

/-- The name that is missing in the broken source. -/
def missingName : Node :=
  .make { kind := "identifier", start := 18, stop := 18, missing := true } []

/-- A tree of the broken source, with a fault within a fault behind the missing name. -/
def brokenTree : Node :=
  .make { kind := "source_file", start := 0, stop := 27 } [
    .make { kind := "package_clause", start := 0, stop := 9 } [
      .make { kind := "package_identifier", start := 8, stop := 9 } []],
    .make { kind := "var_declaration", start := 11, stop := 18 } [
      .make { kind := "var_spec", start := 15, stop := 18 } [
        .make { kind := "identifier", start := 15, stop := 16, field := some "name" } [],
        missingName]],
    .make { kind := "ERROR", start := 20, stop := 26 } [
      .make { kind := "ERROR", start := 24, stop := 25 } []]]

theorem Node.FlagsFaults.rejects_first_fault_brokenTree :
    brokenTree.FlagsFaults ∧ (∃ n, brokenTree.Within n ∧ n.isFault = true) ∧
      brokenTree.firstFault? = some missingName ∧
      ∃ e, sourceFileOf brokenSource "p/x.go" brokenTree = .error e ∧
        e.line = some 3 ∧ e.column = some 8 := by
  have hflags : brokenTree.FlagsFaults := by decide +kernel
  have hfirst : brokenTree.preorder.find? Node.isFault = some missingName := rfl
  have hfault : ∃ n, brokenTree.Within n ∧ n.isFault = true :=
    ⟨missingName, (Node.mem_preorder_iff _ _).mp (List.mem_of_find?_eq_some hfirst), rfl⟩
  obtain ⟨hsearch, -, hrejects⟩ := hflags.rejects_first_fault brokenSource "p/x.go"
  obtain ⟨n, e, hn, herror, -, -, hline, hcolumn⟩ := hrejects hfault
  obtain rfl : missingName = n := Option.some.inj (hfirst.symm.trans hn)
  exact ⟨hflags, hfault, hsearch.trans hfirst, e, herror, hline, hcolumn⟩

end Registrar.Go
