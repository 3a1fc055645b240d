import Registrar.Text.Utf8
import Registrar.Yaml.Cursor
import Registrar.Yaml.Fault

/-!
# Tokens of YAML

Tokens are the marks and scalars of a text, together with the starts and ends of collections
that are only visible in its indentation. A text with a fault has the tokens in front of it and
then the fault, so that a fault counts only when everything in front of it is in order.
-/

namespace Registrar.Yaml

/-- A directive in front of a document. -/
inductive Directive where
  /-- The major version of YAML. -/
  | version (major : Nat)
  /-- What a handle in tags stands for. -/
  | handle (name meaning : String)
  /-- A directive without a meaning here. -/
  | other
  deriving DecidableEq, Repr

/-- A token. -/
inductive Token where
  | directive (d : Directive)
  | documentStart
  | documentEnd
  /-- A list that indentation sets apart begins. -/
  | beginList
  /-- A mapping that indentation sets apart begins. -/
  | beginMap
  /-- A collection that indentation sets apart ends. -/
  | endBlock
  | leftBracket
  | rightBracket
  | leftBrace
  | rightBrace
  | comma
  /-- The dash of a list item. -/
  | item
  /-- A key comes next. -/
  | key
  /-- A value comes next. -/
  | value
  | anchor (name : String)
  | alias (name : String)
  /-- A tag: the handle, unless it is written out in full, and the rest. -/
  | tag (handle : Option String) (rest : String)
  | scalar (text : String) (plain : Bool)
  /-- The end of the text. -/
  | finish
  /-- The text cannot be read further. -/
  | fault (f : Fault)
  deriving DecidableEq, Repr

namespace Token

/-! ### Directives, anchors and tags -/

/-- Reads a number. -/
def readNumber (c : Cursor) : Except Fault (Nat × Cursor) :=
  match c.span Char.isDigit with
  | ([], _) => .error .malformed
  | (digits, c) => .ok (digits.foldl (fun n d => n * 10 + (d.toNat - 0x30)) 0, c)

/-- Passes if a test holds of what comes next. -/
def require (c : Cursor) (test : Option Char → Bool) : Except Fault Unit :=
  if test c.peek then .ok () else .error .malformed

/-- Reads a tag handle: an exclamation mark, or a name between two of them. -/
def readHandle (c : Cursor) : Except Fault (String × Cursor) := do
  require c (· == some '!')
  if c.peekSecond == some ' ' then return ("!", c.next)
  let (name, c) := c.next.span isNameChar
  require c (· == some '!')
  return (String.ofList ('!' :: name ++ ['!']), c.next)

/-- A character of a tag that stands for itself. -/
def isTagChar (c : Char) : Bool :=
  isNameChar c || ";/?:@&=+$,.!~*'()[]".toList.contains c

/-- Reads bytes that are written as hexadecimal digits behind percent signs. -/
def readBytes : List Char → Except Fault (Text.Utf8.Bytes × Nat)
  | '%' :: a :: b :: rest =>
    if isHexDigit a && isHexDigit b then do
      let (bytes, n) ← readBytes rest
      return (UInt8.ofNat (hexValue [a, b]) :: bytes, n + 3)
    else .error .malformed
  | '%' :: _ => .error .malformed
  | _ => .ok ([], 0)

/-- Reads the rest of a tag, with escaped bytes for characters in UTF-8. -/
def readTagFrom : Nat → List Char → Cursor → Except Fault (List Char × Cursor)
  | 0, text, c => .ok (text, c)
  | fuel + 1, text, c => do
    let (plain, c) := c.span isTagChar
    if c.peek == some '%' then
      let (bytes, n) ← readBytes c.rest
      match Text.Utf8.decode? bytes with
      | none => .error .malformed
      | some more => readTagFrom fuel (text ++ plain ++ more) (c.advance n)
    else return (text ++ plain, c)

/-- Reads the rest of a tag, which must not be empty. -/
def readTagText (c : Cursor) : Except Fault (String × Cursor) := do
  let (text, rest) ← readTagFrom (c.rest.length + 1) [] c
  if rest.index = c.index then .error .malformed else return (String.ofList text, rest)

/-- A tag has a handle if an exclamation mark follows before the next gap. -/
def hasHandle (s : List Char) : Bool :=
  (s.takeWhile fun ch => !isSpaceOrEnd? (some ch)).contains '!'

/-- Reads a tag at its exclamation mark. -/
def readTag (c : Cursor) : Except Fault (Token × Cursor) := do
  let (t, c) ←
    if c.peekSecond == some '<' then do
      let (text, c) ← readTagText (c.advance 2)
      require c (· == some '>')
      pure (Token.tag none text, c.next)
    else if isGap? c.peekSecond then
      pure (Token.tag none "!", c.next)
    else do
      let (handle, c) ← if hasHandle c.next.rest then readHandle c else pure ("!", c.next)
      let (text, c) ← readTagText c
      pure (Token.tag (some handle) text, c)
  require c isSpaceOrEnd?
  return (t, c)

/-- Reads the name of an anchor or an alias behind its mark. -/
def readName (c : Cursor) : Except Fault (String × Cursor) := do
  let (name, c) := c.next.span isNameChar
  if name.isEmpty then throw .malformed
  require c fun ch => isGap? ch || ch.any fun n => "?:,]\x7d%@\x60".toList.contains n
  return (String.ofList name, c)

/-- Reads what a directive of the given name says. -/
def readDirectiveValue (name : List Char) (c : Cursor) : Except Fault (Directive × Cursor) := do
  if name = "YAML".toList then
    let (major, c) ← readNumber c.skipSpaces
    require c (· == some '.')
    let (_, c) ← readNumber c.next
    require c isSpaceOrEnd?
    return (.version major, c)
  else if name = "TAG".toList then
    let (handle, c) ← readHandle c.skipSpaces
    require c (· == some ' ')
    let (meaning, c) ← readTagText c.skipSpaces
    require c isSpaceOrEnd?
    return (.handle handle meaning, c)
  else return (.other, c.skipLine)

/-- Reads a directive at its percent sign and the rest of its line. -/
def readDirective (c : Cursor) : Except Fault (Token × Cursor) := do
  let (name, c) := c.next.span isNameChar
  if name.isEmpty then throw .malformed
  require c isSpaceOrEnd?
  let (d, c) ← readDirectiveValue name c
  let c := c.skipSpaces
  let c := if c.peek == some '#' then c.skipLine else c
  require c isLineEnd?
  return (.directive d, c.next)

end Token

end Registrar.Yaml
