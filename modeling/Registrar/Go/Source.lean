import Registrar.Go.Comment
import Registrar.Go.ParseError
import Registrar.Package

/-!
# Source files from syntax trees

The children of a file's root become its declarations, in order; what is neither a declaration
nor the package clause is passed over. A tree with a fault is rejected before anything is read
from it, at the fault that comes first when parents are visited before their children.
-/

namespace Registrar.Go

open Text.Utf8 (Bytes)

namespace Node

/-- The children that are looked into for a fault. -/
def suspects (n : Node) : List Node :=
  n.children.filter fun c => c.label.hasFault || c.label.missing

/-- Puts nodes on a stack one after the other, so that the last one comes on top. -/
def pushAll (stack nodes : List Node) : List Node :=
  nodes.foldl (fun stack n => n :: stack) stack

/-- Nodes that are put on a stack from the last one to the first come off in order. -/
theorem pushAll_reverse (stack nodes : List Node) :
    pushAll stack nodes.reverse = nodes ++ stack := by
  rw [pushAll, List.foldl_flip_cons_eq_append', List.reverse_reverse]

theorem sizeOf_filter_append_lt (p : Node → Bool) (nodes stack : List Node) :
    sizeOf (nodes.filter p ++ stack) < sizeOf nodes + sizeOf stack := by
  induction nodes with
  | nil => simp
  | cons n nodes ih =>
    rw [List.filter_cons]
    split <;> simp only [List.cons_append, List.cons.sizeOf_spec] <;> omega

/-- The first fault that comes to the top of a stack of nodes. A node that is none gives way to
those of its children that are looked into, the first of which comes on top. -/
def searchFault (stack : List Node) : Option Node :=
  match stack with
  | [] => none
  | n :: stack =>
    if n.isFault then some n else searchFault (pushAll stack n.suspects.reverse)
termination_by sizeOf stack
decreasing_by
  obtain ⟨label, children⟩ := n
  have hlt := sizeOf_filter_append_lt (fun c => c.label.hasFault || c.label.missing) children stack
  rw [pushAll_reverse]
  simp only [suspects, Node.children, List.cons.sizeOf_spec, Node.mk.sizeOf_spec]
  omega

/-- The first fault of a tree, parents before children. -/
def firstFault? (root : Node) : Option Node :=
  searchFault [root]

end Node

/-- The error that a fault of a tree is reported as. -/
def faultError (source : Bytes) (path : String) (n : Node) : ParseError :=
  let reason :=
    if n.label.missing then .missing n.kind
    else match Text.firstLine (n.text source) with
      | none => .nothing
      | some line => .near (Text.trim line)
  { path, reason
    line := some (n.startRow source + 1)
    column := some (columnAt source n.label.start + 1) }

/-- The kinds of nodes that only wrap specs. -/
def specLists : List String :=
  ["const_spec_list", "var_spec_list", "type_spec_list"]

/-- The names that a spec introduces. -/
def specNames (source : Bytes) (n : Node) : List String :=
  ((n.childrenByField "name").filter fun c => c.label.named).map
    fun c => String.ofList (c.text source)

mutual

/-- The specs of a node behind some named nodes, the nearest of which comes first: one if it is
a spec itself, those among its children if it only wraps specs. -/
def specsIn (source : Bytes) (kinds : List String) (earlier : List Node) : Node → List Spec
  | .mk label children =>
    if specLists.contains label.kind then specsOf source kinds [] children
    else if kinds.contains label.kind then
      let n := Node.mk label children
      [{ names := specNames source n
         doc := docAbove source n earlier
         line := n.startRow source + 1 }]
    else []

/-- The specs among the children of a declaration. -/
def specsOf (source : Bytes) (kinds : List String) (earlier : List Node) :
    List Node → List Spec
  | [] => []
  | n :: rest =>
    if n.label.named then
      specsIn source kinds earlier n ++ specsOf source kinds (n :: earlier) rest
    else specsOf source kinds earlier rest

end

/-- The kind of group that a node declares, with the kinds of its specs. -/
def groupOf? (kind : String) : Option (GroupKind × List String) :=
  if kind = "const_declaration" then some (.const, ["const_spec"])
  else if kind = "var_declaration" then some (.var, ["var_spec"])
  else if kind = "type_declaration" then some (.type, ["type_spec", "type_alias"])
  else none

/-- What a node declares, if it is a declaration. -/
def declBody? (source : Bytes) (n : Node) : Option Decl.Body :=
  match groupOf? n.kind with
  | some (kind, specKinds) => some (.group kind (specsOf source specKinds [] n.children))
  | none =>
    if n.kind = "function_declaration" || n.kind = "method_declaration" then
      let name := match n.childrenByField "name" with
        | [] => ""
        | c :: _ => String.ofList (c.text source)
      some (.func name (n.kind = "method_declaration"))
    else none

/-- The declaration of a node behind some named nodes, the nearest of which comes first. -/
def decl? (source : Bytes) (path : String) (earlier : List Node) (n : Node) : Option Decl :=
  (declBody? source n).map fun body =>
    { body, doc := docAbove source n earlier, path, line := n.startRow source + 1 }

/-- The declarations among some named nodes. -/
def declsOf (source : Bytes) (path : String) (earlier : List Node) : List Node → List Decl
  | [] => []
  | n :: rest =>
    (decl? source path earlier n).toList ++ declsOf source path (n :: earlier) rest

/-- The name in the first package clause that has one. -/
def packageName? (source : Bytes) (root : Node) : Option String :=
  (root.namedChildren.filter fun c => c.kind = "package_clause").findSome? fun clause =>
    (clause.namedChildren.find? fun n =>
      n.kind = "package_identifier" || n.kind = "identifier").map
        fun n => String.ofList (n.text source)

/-- The source file of a syntax tree. -/
def sourceFileOf (source : Bytes) (path : String) (root : Node) : Except ParseError SourceFile :=
  if root.label.hasFault then
    .error (faultError source path (root.firstFault?.getD root))
  else match packageName? source root with
    | none => .error { path, reason := .noPackage, line := some 1, column := some 1 }
    | some package =>
      .ok { path, package, declarations := declsOf source path [] root.namedChildren }

end Registrar.Go
