import Registrar.Text.Utf8

/-!
# Concrete syntax trees

A node covers a span of the source, in bytes, and has children in source order; comments are
nodes among them. Unnamed nodes are punctuation. A child can play a role in its parent, which is
its field. A tree may hold faults: nodes of the kind `ERROR`, and nodes that are missing from
the source. Every node says whether there is a fault in it, and `Node.make` fills that in from
the children where nothing else is said.
-/

namespace Registrar.Go

open Text.Utf8 (Bytes)

/-- What a node is, apart from its children. -/
structure NodeLabel where
  /-- The grammar's name for it. -/
  kind : String
  /-- The number of bytes before it. -/
  start : Nat
  /-- The number of bytes before its end. -/
  stop : Nat
  /-- It is more than punctuation. -/
  named : Bool := true
  /-- Its role in its parent. -/
  field : Option String := none
  /-- It is not in the source, but the grammar asks for it. -/
  missing : Bool := false
  /-- It is a fault or holds one. -/
  hasFault : Bool := false
  deriving DecidableEq, Repr

/-- A node of a concrete syntax tree. -/
inductive Node where
  | mk (label : NodeLabel) (children : List Node)

namespace Node

/-- What the node is. -/
def label : Node → NodeLabel
  | mk l _ => l

/-- The children in source order. -/
def children : Node → List Node
  | mk _ cs => cs

/-- The grammar's name for the node. -/
def kind (n : Node) : String := n.label.kind

/-- The children that are more than punctuation. -/
def namedChildren (n : Node) : List Node :=
  n.children.filter fun c => c.label.named

/-- The children that play a role. -/
def childrenByField (n : Node) (field : String) : List Node :=
  n.children.filter fun c => c.label.field = some field

/-- A fault: a node the grammar does not know, or one it asks for in vain. -/
def isFault (n : Node) : Bool :=
  n.kind = "ERROR" || n.label.missing

/-- A node that has a fault if it is one or a child has one. -/
def make (label : NodeLabel) (children : List Node) : Node :=
  mk { label with
    hasFault := label.kind = "ERROR" || label.missing ||
      children.any fun c => c.label.hasFault } children

/-- The bytes of a source that a node covers. -/
def bytes (n : Node) (source : Bytes) : Bytes :=
  (source.drop n.label.start).take (n.label.stop - n.label.start)

/-- The text that a node covers. -/
def text (n : Node) (source : Bytes) : List Char :=
  Text.Utf8.decodeLossy (n.bytes source)

end Node

/-- The number of line ends in front of a position. -/
def rowAt (source : Bytes) (position : Nat) : Nat :=
  (source.take position).count 0x0A

/-- The bytes of a line in front of a position. -/
def lineBefore (source : Bytes) (position : Nat) : Bytes :=
  ((source.take position).reverse.takeWhile (· ≠ 0x0A)).reverse

/-- The number of bytes between the start of the line and a position. -/
def columnAt (source : Bytes) (position : Nat) : Nat :=
  (lineBefore source position).length

namespace Node

/-- The row of a node's first byte, counted from zero. -/
def startRow (n : Node) (source : Bytes) : Nat :=
  rowAt source n.label.start

/-- The row of a node's end, counted from zero. -/
def endRow (n : Node) (source : Bytes) : Nat :=
  rowAt source n.label.stop

end Node

end Registrar.Go
