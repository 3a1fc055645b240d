import Registrar.Yaml.Scalar
import Registrar.Yaml.Token

/-!
# Cutting a YAML text into tokens

Whether a scalar or collection is a key shows only at the colon behind it. So every place where
a key could start is remembered, and when the colon comes the token that announces a key is put
in front of it. Outside of brackets the columns of keys and of dashes open and close collections.

`Token.ofText` takes one token after the other. `Layout` is what it knows between two tokens.
-/

namespace Registrar.Yaml

/-- A place where a key could start. -/
structure KeyPlace where
  /-- The number of brackets around it. -/
  flow : Nat
  /-- The number of tokens in front of it. -/
  token : Nat
  /-- A colon has to come, because the place stands at the indent of a mapping. -/
  required : Bool
  index : Nat
  line : Nat
  column : Nat

/-- What is known in the middle of a text. -/
structure Layout where
  /-- The position. -/
  cursor : Cursor
  /-- The tokens so far, the last one first. -/
  tokens : List Token := []
  /-- The number of tokens. -/
  count : Nat := 0
  /-- The column of the innermost collection outside of brackets; none is -1. -/
  indent : Int := -1
  /-- The columns around it, the innermost first. -/
  outer : List Int := []
  /-- The number of open brackets. -/
  flow : Nat := 0
  /-- A key may start here. -/
  keyAllowed : Bool := true
  /-- The places where keys could have started. -/
  places : List KeyPlace := []

namespace Layout

/-- The most characters between the start of a key and its colon. -/
def keyLimit : Nat := 1024

/-- Adds a token. -/
def push (s : Layout) (t : Token) : Layout :=
  { s with tokens := t :: s.tokens, count := s.count + 1 }

/-- Adds a token and goes on behind a number of characters. -/
def emit (s : Layout) (t : Token) (length : Nat) : Layout :=
  { s.push t with cursor := s.cursor.advance length }

/-- Puts a token behind the first `place` tokens. -/
def insertAt (s : Layout) (place : Nat) (t : Token) : Layout :=
  let behind := s.count - place
  { s with tokens := s.tokens.take behind ++ t :: s.tokens.drop behind, count := s.count + 1 }

/-- Skips spaces, comments and line ends. Outside of brackets a key may start on a new line. -/
def skipGap : Nat → Layout → Layout
  | 0, s => s
  | fuel + 1, s =>
    let c := s.cursor.skipSpaces
    let c := if c.peek == some '#' then c.skipLine else c
    match c.takeBreak with
    | none => { s with cursor := c }
    | some (_, c) => skipGap fuel { s with cursor := c, keyAllowed := s.keyAllowed || s.flow = 0 }

/-- Skips the gap in front of a token, and a byte order mark at the start of the text. -/
def toToken (s : Layout) : Layout :=
  let c := s.cursor
  let c := if c.index = 0 && c.peek == some '\uFEFF' then c.next else c
  skipGap (c.rest.length + 1) { s with cursor := c }

/-- Forgets the places from which no key can reach this position. -/
def dropStale (s : Layout) : Except Fault Layout :=
  let stale (k : KeyPlace) := k.line ≠ s.cursor.line || keyLimit < s.cursor.index - k.index
  if s.places.any fun k => stale k && k.required then .error .malformed
  else .ok { s with places := s.places.filter fun k => !stale k }

/-- Forgets the place inside the innermost brackets. -/
def dropPlace (s : Layout) : Except Fault Layout :=
  if s.places.any fun k => k.flow = s.flow && k.required then .error .malformed
  else .ok { s with places := s.places.filter fun k => k.flow ≠ s.flow }

/-- Remembers that a key could start here. -/
def savePlace (s : Layout) : Except Fault Layout :=
  if !s.keyAllowed then .ok s
  else do
    let s ← s.dropPlace
    let c := s.cursor
    let place : KeyPlace :=
      { flow := s.flow, token := s.count
        required := s.flow = 0 && s.indent = c.column
        index := c.index, line := c.line, column := c.column }
    return { s with places := place :: s.places }

/-- Ends the collections that stand further to the right than a column. -/
def closeTo (column indent : Int) : List Int → Layout → Layout
  | [], s => { s with indent, outer := [] }
  | i :: outer, s =>
    if column < indent then closeTo column i outer (s.push .endBlock)
    else { s with indent, outer := i :: outer }

/-- Ends the collections to the right of a column, if no brackets are open. -/
def unwind (s : Layout) (column : Int) : Layout :=
  if s.flow = 0 then closeTo column s.indent s.outer s else s

/-- A column opens a collection: it stands further to the right than the innermost one. -/
def opens (s : Layout) (column : Nat) : Bool :=
  s.flow = 0 && s.indent < column

/-- Makes a column the innermost one. -/
def open' (s : Layout) (column : Nat) : Layout :=
  { s with indent := column, outer := s.indent :: s.outer }

/-- Opens a collection at this column if the column does. -/
def openHere (s : Layout) (t : Token) : Layout :=
  if s.opens s.cursor.column then (s.open' s.cursor.column).push t else s

/-- A key or a dash may stand here. -/
def requireStart (s : Layout) : Except Fault Unit :=
  if s.flow = 0 && !s.keyAllowed then .error .malformed else .ok ()

/-- Ends everything that indentation set apart. -/
def closeAll (s : Layout) : Except Fault Layout := do
  let s ← (s.unwind (-1)).dropPlace
  return { s with keyAllowed := false }

/-- Takes a bracket or brace that opens. -/
def takeOpening (s : Layout) (t : Token) : Except Fault Layout := do
  let s ← s.savePlace
  return { s.emit t 1 with flow := s.flow + 1, keyAllowed := true }

/-- Takes a bracket or brace that closes. -/
def takeClosing (s : Layout) (t : Token) : Except Fault Layout := do
  if s.flow = 0 then throw .malformed
  let s ← s.dropPlace
  return { s.emit t 1 with flow := s.flow - 1, keyAllowed := false }

/-- Takes a comma. -/
def takeComma (s : Layout) : Except Fault Layout := do
  let s ← s.dropPlace
  return { s.emit .comma 1 with keyAllowed := true }

/-- Takes the dash of a list item. -/
def takeItem (s : Layout) : Except Fault Layout := do
  s.requireStart
  let s ← (s.openHere .beginList).dropPlace
  return { s.emit .item 1 with keyAllowed := true }

/-- Takes the question mark in front of a key. -/
def takeKey (s : Layout) : Except Fault Layout := do
  s.requireStart
  let s ← (s.openHere .beginMap).dropPlace
  return { s.emit .key 1 with keyAllowed := s.flow = 0 }

/-- Takes the colon in front of a value. If a key could start at a remembered place, it does. -/
def takeValue (s : Layout) : Except Fault Layout := do
  match s.places.find? fun k => k.flow = s.flow with
  | some k =>
    let s := { s with places := s.places.filter fun k => k.flow ≠ s.flow }
    let s := s.insertAt k.token .key
    let s := if s.opens k.column then (s.open' k.column).insertAt k.token .beginMap else s
    return { s.emit .value 1 with keyAllowed := false }
  | none =>
    s.requireStart
    let s ← (s.openHere .beginMap).dropPlace
    return { s.emit .value 1 with keyAllowed := s.flow = 0 }

/-- Takes a token that can be a key or stand in front of one. -/
def takeNode (s : Layout) (read : Cursor → Except Fault (Token × Cursor)) :
    Except Fault Layout := do
  let s ← s.savePlace
  let (t, cursor) ← read s.cursor
  return { s.push t with cursor, keyAllowed := false }

/-- Takes a block of lines. -/
def takeBlock (s : Layout) (folded : Bool) : Except Fault Layout := do
  let s ← s.dropPlace
  let (text, cursor) ← readBlock folded s.indent s.cursor.next
  return { s.push (.scalar (String.ofList text) false) with cursor, keyAllowed := true }

/-- Takes a plain scalar. A key may start behind it if it crosses a line end. -/
def takePlain (s : Layout) : Except Fault Layout := do
  let s ← s.savePlace
  let (text, gap) := readPlain (s.flow ≠ 0) (s.indent + 1) s.cursor
  return { s.push (.scalar (String.ofList text) true) with
    cursor := gap.cursor, keyAllowed := gap.crosses }

/-- Reads a quoted scalar as a token. -/
def quoted (quote : Char) (c : Cursor) : Except Fault (Token × Cursor) := do
  let (text, c) ← readQuoted quote c
  return (.scalar (String.ofList text) false, c)

/-- Takes a mark that separates documents. -/
def takeSeparator (s : Layout) (t : Token) : Except Fault Layout :=
  return (← s.closeAll).emit t 3

/-- Takes the token that starts with a character. -/
def takeAt (s : Layout) (ch : Char) : Except Fault Layout := do
  let c := s.cursor
  let inFlow : Bool := s.flow ≠ 0
  let gapBehind := inFlow || isGap? c.peekSecond
  if ch == '%' && c.column = 0 then
    let s ← s.closeAll
    let (t, cursor) ← Token.readDirective s.cursor
    return { s.push t with cursor }
  else if c.column = 0 && c.atTriple '-' then s.takeSeparator .documentStart
  else if c.column = 0 && c.atTriple '.' then s.takeSeparator .documentEnd
  else if ch == '[' then s.takeOpening .leftBracket
  else if ch == '\x7b' then s.takeOpening .leftBrace
  else if ch == ']' then s.takeClosing .rightBracket
  else if ch == '\x7d' then s.takeClosing .rightBrace
  else if ch == ',' then s.takeComma
  else if ch == '-' && isGap? c.peekSecond then s.takeItem
  else if ch == '?' && gapBehind then s.takeKey
  else if ch == ':' && gapBehind then s.takeValue
  else if ch == '*' then
    s.takeNode fun c => (Token.readName c).map fun (name, c) => (.alias name, c)
  else if ch == '&' then
    s.takeNode fun c => (Token.readName c).map fun (name, c) => (.anchor name, c)
  else if ch == '!' then s.takeNode Token.readTag
  else if ch == '|' && !inFlow then s.takeBlock false
  else if ch == '>' && !inFlow then s.takeBlock true
  else if ch == '\'' then s.takeNode (quoted '\'')
  else if ch == '\x22' then s.takeNode (quoted '\x22')
  else if canStartPlain inFlow ch c.peekSecond then s.takePlain
  else throw .malformed

/-- Takes the next token; true if the text ends here. -/
def step (s : Layout) : Except Fault (Bool × Layout) := do
  let s ← s.toToken.dropStale
  let s := s.unwind s.cursor.column
  match s.cursor.peek with
  | none => return (true, (← s.closeAll).push .finish)
  | some ch => return (false, ← s.takeAt ch)

/-- Takes token after token. -/
def run : Nat → Layout → List Token
  | 0, s => (s.push (.fault .malformed)).tokens.reverse
  | fuel + 1, s =>
    match s.step with
    | .error f => (s.push (.fault f)).tokens.reverse
    | .ok (true, s) => s.tokens.reverse
    | .ok (false, s) => run fuel s

end Layout

/-- The tokens of a text, with `finish` or a fault at the end. -/
def Token.ofText (text : List Char) : List Token :=
  if text.all isAllowed then
    Layout.run (text.length + 1) { cursor := { rest := normalizeBreaks text } }
  else [.fault .malformed]

end Registrar.Yaml
