import Registrar.NameMap
import Registrar.Yaml.Tag
import Registrar.Yaml.Token

/-!
# Documents of YAML

A document is a tree of scalars, lists and mappings, each of a kind. `Node.ofTokens` reads the
only document of a text; a text without one has no node, and a second document is a fault.

An alias stands for the node of its anchor. Inside that node itself, which has no end then, it stands
for the node to a depth of a few levels, more than a configuration has, and below them for an empty
collection of the same kind.
-/

namespace Registrar.Yaml

/-- A node of a document. -/
inductive Node where
  | scalar (tag : Tag) (text : String)
  | list (tag : Tag) (items : List Node)
  | map (tag : Tag) (entries : List (Node × Node))

namespace Node

/-- The kind of a node. -/
def tag : Node → Tag
  | scalar t _ => t
  | list t _ => t
  | map t _ => t

/-- What is known while a document is read. -/
structure State where
  /-- The tokens to come. -/
  tokens : List Token
  /-- The nodes with anchors. -/
  anchors : NameMap Node := .empty
  /-- What the handles of tags stand for. -/
  handles : List (String × String) := []

/-- An action that reads tokens. -/
abbrev Reading := StateT State (Except Fault)

/-- The next token; a fault of the text counts when it is reached. -/
def peek : Reading Token := do
  match (← get).tokens with
  | [] => throw .malformed
  | .fault f :: _ => throw f
  | t :: _ => pure t

/-- Passes over the next token. -/
def skip : Reading Unit :=
  modify fun s => { s with tokens := s.tokens.drop 1 }

/-- Passes over the next token, which must be a given one. -/
def require (t : Token) : Reading Unit := do
  if (← peek) = t then skip else throw .malformed

/-- Passes over the next token if it is a given one, and says whether it was. -/
def skipIf (t : Token) : Reading Bool := do
  if (← peek) = t then
    skip
    return true
  else return false

/-- The next token is one of some. -/
def comesOneOf (ts : List Token) : Reading Bool :=
  return ts.contains (← peek)

/-- The node of a scalar that is not there. -/
def nothing : Node := scalar .null ""

/-- What stands in front of a node: its anchor and its tag. -/
structure Properties where
  anchor : Option String := none
  tag : Option String := none

/-- Reads an anchor. -/
def readAnchor (p : Properties) : Reading Properties := do
  match ← peek with
  | .anchor name =>
    skip
    return { p with anchor := some name }
  | _ => return p

/-- Reads a tag and writes out its handle. -/
def readTag (p : Properties) : Reading Properties := do
  match ← peek with
  | .tag none rest =>
    skip
    return { p with tag := some rest }
  | .tag (some handle) rest =>
    skip
    match (← get).handles.lookup handle with
    | none => throw .malformed
    | some meaning => return { p with tag := some (meaning ++ rest) }
  | _ => return p

/-- Reads an anchor and a tag in either order. -/
def readProperties : Reading Properties := do
  let p ← readAnchor {}
  let q ← readTag p
  if q.anchor.isSome then return q else readAnchor q

/-- An anchor must be new. -/
def checkAnchor (p : Properties) : Reading Unit := do
  match p.anchor with
  | none => pure ()
  | some name => if (← get).anchors.contains name then throw .malformed

/-- Gives a node to its anchor, in the place of an unfinished one. -/
def putAnchor (p : Properties) (n : Node) : Reading Unit :=
  match p.anchor with
  | none => pure ()
  | some name => modify fun s => { s with anchors := s.anchors.insert name n }

/-- The kind of a scalar with properties. -/
def scalarTag (p : Properties) (text : String) (plain : Bool) : Tag :=
  match p.tag with
  | none => if plain then .ofPlain text.toList else .text
  | some "!" => .ofPlain text.toList
  | some tag => .ofText tag

/-- The kind of a collection with properties. -/
def collectionTag (p : Properties) (default : Tag) : Tag :=
  match p.tag with
  | none => default
  | some "!" => default
  | some tag => .ofText tag

/-- Reads a scalar with properties. -/
def readScalar (p : Properties) (text : String) (plain : Bool) : Reading Node := do
  checkAnchor p
  let n := scalar (scalarTag p text plain) text
  putAnchor p n
  return n

/-- An alias of the anchor stands among the tokens that were passed over. -/
def Properties.isRecalled (p : Properties) (before after : List Token) : Bool :=
  match p.anchor with
  | none => false
  | some name => (before.take (before.length - after.length)).contains (.alias name)

/-- Reads the items of a collection some more times, each time with the outcome of the time before
as the node of its anchor. -/
def readRounds {α : Type} (p : Properties) (make : List α → Node) (items : Reading (List α))
    (start : State) : Nat → Node → Reading Node
  | 0, n => do
    putAnchor p n
    return n
  | rounds + 1, n => do
    set start
    putAnchor p n
    readRounds p make items start rounds (make (← items))

/-- Reads the items of a collection with properties. -/
def readCollection {α : Type} (p : Properties) (make : List α → Node)
    (items : Reading (List α)) : Reading Node := do
  checkAnchor p
  let start ← get
  putAnchor p (make [])
  let n := make (← items)
  let rounds := if p.isRecalled start.tokens (← get).tokens then 3 else 0
  readRounds p make items start rounds n

mutual

/-- Reads a node. Outside of brackets indentation may set a collection apart, and behind a key
the dashes of a list need no more indent than the key. -/
def readNode (fuel : Nat) (block dashes : Bool) : Reading Node := do
  match fuel with
  | 0 => throw .malformed
  | fuel + 1 =>
    match ← peek with
    | .alias name =>
      skip
      match (← get).anchors.get? name with
      | none => throw .malformed
      | some n => return n
    | _ =>
      let p ← readProperties
      let t ← peek
      if dashes && t = .item then
        readCollection p (list (collectionTag p .list)) (readDashes fuel)
      else match t with
        | .scalar text plain =>
          skip
          readScalar p text plain
        | .leftBracket =>
          skip
          readCollection p (list (collectionTag p .list)) (readFlowItems fuel true)
        | .leftBrace =>
          skip
          readCollection p (map (collectionTag p .map)) (readFlowEntries fuel true)
        | _ =>
          if block && t = .beginList then
            skip
            readCollection p (list (collectionTag p .list)) (readItems fuel)
          else if block && t = .beginMap then
            skip
            readCollection p (map (collectionTag p .map)) (readEntries fuel)
          else if p.anchor.isSome || p.tag.isSome then readScalar p "" true
          else throw .malformed

/-- Reads a node unless one of some tokens comes next, in which case nothing is there. -/
def readUnless (fuel : Nat) (ends : List Token) (block dashes : Bool) : Reading Node := do
  match fuel with
  | 0 => throw .malformed
  | fuel + 1 => if ← comesOneOf ends then return nothing else readNode fuel block dashes

/-- Reads the items of a list up to its end. -/
def readItems (fuel : Nat) : Reading (List Node) := do
  match fuel with
  | 0 => throw .malformed
  | fuel + 1 =>
    if ← skipIf .item then
      let n ← readUnless fuel [.item, .endBlock] true false
      return n :: (← readItems fuel)
    else
      require .endBlock
      return []

/-- Reads the items of a list that has no indent of its own. -/
def readDashes (fuel : Nat) : Reading (List Node) := do
  match fuel with
  | 0 => throw .malformed
  | fuel + 1 =>
    if ← skipIf .item then
      let n ← readUnless fuel [.item, .key, .value, .endBlock] true false
      return n :: (← readDashes fuel)
    else return []

/-- Reads the entries of a mapping up to its end. -/
def readEntries (fuel : Nat) : Reading (List (Node × Node)) := do
  match fuel with
  | 0 => throw .malformed
  | fuel + 1 =>
    if ← comesOneOf [.endBlock] then
      skip
      return []
    let ends := [Token.key, .value, .endBlock]
    let k ← if ← skipIf .key then readUnless fuel ends true true else throw .malformed
    let v ← if ← skipIf .value then readUnless fuel ends true true else pure nothing
    return (k, v) :: (← readEntries fuel)

/-- Reads the items of a list in brackets. An item with a key is a mapping of one entry. -/
def readFlowItems (fuel : Nat) (first : Bool) : Reading (List Node) := do
  match fuel with
  | 0 => throw .malformed
  | fuel + 1 =>
    if ← skipIf .rightBracket then return []
    if !first then require .comma
    if ← skipIf .rightBracket then return []
    if ← skipIf .key then
      let k ← readUnless fuel [.value, .comma, .rightBracket] false false
      let v ← if ← skipIf .value then readUnless fuel [.comma, .rightBracket] false false
        else pure nothing
      return map .map [(k, v)] :: (← readFlowItems fuel false)
    else
      let n ← readNode fuel false false
      return n :: (← readFlowItems fuel false)

/-- Reads the entries of a mapping in braces. A node without a key is a key itself. -/
def readFlowEntries (fuel : Nat) (first : Bool) : Reading (List (Node × Node)) := do
  match fuel with
  | 0 => throw .malformed
  | fuel + 1 =>
    if ← skipIf .rightBrace then return []
    if !first then require .comma
    if ← skipIf .rightBrace then return []
    if ← skipIf .key then
      let k ← readUnless fuel [.value, .comma, .rightBrace] false false
      let v ← if ← skipIf .value then readUnless fuel [.comma, .rightBrace] false false
        else pure nothing
      return (k, v) :: (← readFlowEntries fuel false)
    else
      let k ← readNode fuel false false
      return (k, nothing) :: (← readFlowEntries fuel false)

end

/-- What handles stand for unless a directive says otherwise. -/
def defaultHandles : List (String × String) :=
  [("!", "!"), ("!!", Tag.standard)]

/-- Reads the directives in front of a document. -/
def readDirectives : Nat → Bool → List (String × String) → Reading (List (String × String))
  | 0, _, handles => pure handles
  | fuel + 1, versioned, handles => do
    match ← peek with
    | .directive d =>
      skip
      match d with
      | .version major =>
        if versioned || major ≠ 1 then throw .malformed
        readDirectives fuel true handles
      | .handle name meaning =>
        if (handles.lookup name).isSome then throw .malformed
        readDirectives fuel versioned ((name, meaning) :: handles)
      | .other => readDirectives fuel versioned handles
    | _ => pure handles

/-- Skips the marks that end documents. -/
def skipEnds : Nat → Reading Unit
  | 0 => pure ()
  | fuel + 1 => do if ← skipIf .documentEnd then skipEnds fuel

/-- Reads the document of a text that is nothing else. -/
def readDocument (fuel : Nat) : Reading (Option Node) := do
  modify fun s => { s with handles := defaultHandles }
  let n ← match ← peek with
    | .finish => return none
    | .directive _ | .documentStart =>
      let handles ← readDirectives fuel false []
      modify fun s => { s with handles := handles ++ defaultHandles }
      require .documentStart
      if ← comesOneOf [.documentStart, .documentEnd, .finish] then pure nothing
      else match ← peek with
        | .directive _ => pure nothing
        | _ => readNode fuel true false
    | _ => readNode fuel true false
  skipEnds fuel
  require .finish
  return some n

/-- The document of a list of tokens. -/
def ofTokens (tokens : List Token) : Except Fault (Option Node) :=
  (readDocument (4 * tokens.length + 16)).run' { tokens }

end Node

end Registrar.Yaml
