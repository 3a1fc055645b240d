import Registrar.Text.Base64
import Registrar.Yaml.Layout
import Registrar.Yaml.Node

/-!
# Values of YAML texts

A document has a value if the texts of its scalars have values of their kinds, its collections
are of kinds for collections, and its keys are no collections. A merge key adds the entries of
other mappings in front of a mapping's own; of several entries with one text as their key the
last gives the value and the first the place.

A text with several faults is reported with the one nearest to the root, and among faults at the
same depth with the first.
-/

namespace Registrar.Yaml

/-- A value. Of fractions, bytes and dates only what can matter elsewhere is kept. -/
inductive Value where
  | null
  | truth (b : Bool)
  | whole (n : Int)
  | fraction (isZero : Bool)
  | bytes (isEmpty : Bool)
  | date
  | text (s : String)
  | list (items : List Value)
  | pair (first second : Value)
  | map (entries : List (Value × Value))
  | set (members : List Value)

namespace Value

/-- A value that counts as nothing: null, false, zero or empty. -/
def isNothing : Value → Bool
  | null => true
  | truth b => !b
  | whole n => n = 0
  | fraction isZero => isZero
  | bytes isEmpty => isEmpty
  | date => false
  | text s => s.isEmpty
  | list items => items.isEmpty
  | pair _ _ => false
  | map entries => entries.isEmpty
  | set members => members.isEmpty

/-- The value is a given text. -/
def isText (name : String) : Value → Bool
  | text s => s = name
  | _ => false

/-- Puts an entry at the end, or over an earlier one whose key is the same text. -/
def putEntry (entries : List (Value × Value)) (entry : Value × Value) : List (Value × Value) :=
  match entry.1 with
  | text name =>
    if entries.any fun e => e.1.isText name then
      entries.map fun e => if e.1.isText name then (e.1, entry.2) else e
    else entries ++ [entry]
  | _ => entries ++ [entry]

/-- The truth values by the words for them. -/
def truths : List (String × Bool) :=
  [("yes", true), ("no", false), ("true", true), ("false", false), ("on", true), ("off", false)]

/-- The value of a scalar of a kind. -/
def ofScalar (tag : Tag) (s : String) : Except Fault Value :=
  match tag with
  | .null => .ok null
  | .truth =>
    match truths.lookup s.toLower with
    | some b => .ok (truth b)
    | none => .error (.noTruth s.toLower)
  | .whole => (Number.readWhole s.toList).map whole
  | .fraction => (Number.isZeroFraction s.toList).map fraction
  | .bytes =>
    match Text.Base64.isEmpty? s.toList with
    | some isEmpty => .ok (bytes isEmpty)
    | none => .error .malformed
  | .date => (Date.check s.toList).map fun _ => date
  | .text => .ok (text s)
  | _ => .error .malformed

end Value

/-! ### Faults by depth -/

/-- A result, or a fault with its depth. -/
abbrev Checked (α : Type) := Except (Nat × Fault) α

namespace Checked

variable {α β : Type}

/-- A result without depth as one at the root. -/
def atRoot (x : Except Fault α) : Checked α :=
  x.mapError fun f => (0, f)

/-- The same one level further down. -/
def deeper (x : Checked α) : Checked α :=
  x.mapError fun (depth, f) => (depth + 1, f)

/-- Both of two results; of two faults the one nearer to the root, then the first. -/
def both (x : Checked α) (y : Checked β) : Checked (α × β) :=
  match x, y with
  | .ok a, .ok b => .ok (a, b)
  | .ok _, .error f => .error f
  | .error e, .ok _ => .error e
  | .error e, .error f => .error (if f.1 < e.1 then f else e)

/-- All of a list of results. -/
def all : List (Checked α) → Checked (List α)
  | [] => .ok []
  | x :: rest => (both x (all rest)).map fun (a, l) => a :: l

end Checked

/-! ### Values of nodes -/

/-- An entry of a mapping. -/
abbrev CheckedEntry := Checked Value × Checked Value

/-- What the nodes around a node can ask of it. -/
structure Built where
  /-- Its kind. -/
  tag : Tag
  /-- Its value. -/
  value : Checked Value
  /-- Its text: that of a scalar, or of the main value of a mapping. -/
  text? : Option String := none
  /-- The entries of a mapping, with those that are merged into it. -/
  entries? : Option (List CheckedEntry) := none
  /-- The entries that it adds to a mapping which it is merged into. -/
  merges? : Option (List CheckedEntry) := none
  /-- The only entry of a mapping. -/
  only? : Option CheckedEntry := none

namespace Built

/-- A key as the key of a mapping, which must not be a collection. -/
def asKey (b : Built) : Checked Value :=
  match b.tag with
  | .main =>
    match b.text? with
    | some s => .ok (.text s)
    | none => .error (0, .malformed)
  | .list | .map | .set | .pairs => .error (0, .malformed)
  | _ => b.value

/-- The entries of a mapping with those that are merged into it. -/
def flatten : List (Built × Built) → Option (List CheckedEntry)
  | [] => some []
  | entries => do
    let merged ← (entries.filter fun e => e.1.tag = .merge).mapM fun e => e.2.merges?
    let own := (entries.filter fun e => e.1.tag ≠ .merge).map fun e => (e.1.asKey, e.2.value)
    some (merged.flatten ++ own)

/-- The entries of a mapping as values. -/
def checkEntries (entries : Option (List CheckedEntry)) : Checked (List (Value × Value)) :=
  match entries with
  | none => .error (0, .malformed)
  | some entries =>
    (Checked.all (entries.map fun (k, v) => Checked.both k v)).map (·.foldl Value.putEntry [])

/-- The items of a list of pairs. -/
def checkPairs (items : List Built) : Checked Value :=
  (Checked.all (items.map fun b =>
    match b.only? with
    | none => .error (0, .malformed)
    | some (k, v) => (Checked.both k v).map fun (k, v) => Value.pair k v)).map Value.list

/-- The value of a node of a kind, from what it holds. -/
def valueOf (tag : Tag) (text? : Option String) (items? : Option (List Built))
    (entries? : Option (List CheckedEntry)) : Checked Value :=
  match tag with
  | .list =>
    match items? with
    | none => .error (1, .malformed)
    | some items => Checked.deeper ((Checked.all (items.map Built.value)).map Value.list)
  | .map => Checked.deeper ((checkEntries entries?).map Value.map)
  | .set =>
    Checked.deeper ((checkEntries entries?).map fun entries => Value.set (entries.map Prod.fst))
  | .pairs =>
    match items? with
    | none => .error (1, .malformed)
    | some items => Checked.deeper (checkPairs items)
  | _ =>
    match text? with
    | none => .error (0, .malformed)
    | some s => Checked.atRoot (Value.ofScalar tag s)

/-- A scalar. -/
def ofScalar (tag : Tag) (text : String) : Built :=
  { tag, value := valueOf tag (some text) none none, text? := some text }

/-- A list of nodes. -/
def ofList (tag : Tag) (items : List Built) : Built :=
  { tag
    value := valueOf tag none (some items) none
    merges? := (items.mapM Built.entries?).map fun sources => sources.reverse.flatten }

/-- A mapping of nodes. -/
def ofMap (tag : Tag) (entries : List (Built × Built)) : Built :=
  let text? := (entries.find? fun e => e.1.tag = .main).bind fun e => e.2.text?
  let entries? := flatten entries
  { tag
    value := valueOf tag text? none entries?
    text?
    entries?
    merges? := entries?
    only? := match entries with
      | [(k, v)] => some (k.value, v.value)
      | _ => none }

mutual

/-- What can be asked of a node. -/
def ofNode : Node → Built
  | .scalar tag text => ofScalar tag text
  | .list tag items => ofList tag (ofNodes items)
  | .map tag entries => ofMap tag (ofEntries entries)

/-- What can be asked of the items of a list. -/
def ofNodes : List Node → List Built
  | [] => []
  | n :: rest => ofNode n :: ofNodes rest

/-- What can be asked of the entries of a mapping. -/
def ofEntries : List (Node × Node) → List (Built × Built)
  | [] => []
  | (k, v) :: rest => (ofNode k, ofNode v) :: ofEntries rest

end

end Built

/-- The value of a text; a text without a document is null. -/
def Value.ofText (text : List Char) : Except Fault Value := do
  match ← Node.ofTokens (Token.ofText text) with
  | none => return .null
  | some n => (Built.ofNode n).value.mapError Prod.snd

end Registrar.Yaml
