/-!
# Positions in a YAML text

A cursor stands between two characters of a text and knows its line and column, on which the
meaning of YAML depends. The end of the text reads as no character, and the tests on characters
take that into account: `isLineEnd?` and `isGap?` hold at the end as well.

The text is expected without carriage returns; `normalizeBreaks` turns them into newlines.
-/

namespace Registrar.Yaml

/-- Turns every carriage return, with a newline behind it if there is one, into a newline. -/
def normalizeBreaks : List Char → List Char
  | [] => []
  | '\r' :: '\n' :: rest => '\n' :: normalizeBreaks rest
  | '\r' :: rest => '\n' :: normalizeBreaks rest
  | c :: rest => c :: normalizeBreaks rest

/-- A character that a YAML text may hold. -/
def isAllowed (c : Char) : Bool :=
  let n := c.toNat
  n == 9 || n == 10 || n == 13 || (0x20 ≤ n && n ≤ 0x7E) || n == 0x85 ||
    (0xA0 ≤ n && n ≤ 0xFFFD) || 0x10000 ≤ n

/-- A character that ends a line. -/
def isBreak (c : Char) : Bool :=
  c == '\n' || c == '\x85' || c == '\u2028' || c == '\u2029'

/-- The end of a line or of the text. -/
def isLineEnd? : Option Char → Bool
  | none => true
  | some c => isBreak c

/-- A space, or the end of a line or of the text. -/
def isSpaceOrEnd? (c : Option Char) : Bool :=
  c == some ' ' || isLineEnd? c

/-- A space or tab, or the end of a line or of the text. -/
def isGap? (c : Option Char) : Bool :=
  c == some '\t' || isSpaceOrEnd? c

/-- A letter, digit or one of the two dashes of names. -/
def isNameChar (c : Char) : Bool :=
  c.isAlphanum || c == '-' || c == '_'

/-- A hexadecimal digit. -/
def isHexDigit (c : Char) : Bool :=
  c.isDigit || ('a' ≤ c && c ≤ 'f') || ('A' ≤ c && c ≤ 'F')

/-- The value of a hexadecimal digit. -/
def hexDigitValue (c : Char) : Nat :=
  if c.isDigit then c.toNat - 0x30
  else if 'a' ≤ c then c.toNat - 0x57
  else c.toNat - 0x37

/-- The value of hexadecimal digits. -/
def hexValue (digits : List Char) : Nat :=
  digits.foldl (fun n c => n * 16 + hexDigitValue c) 0

/-- A position in a text. -/
structure Cursor where
  /-- The text behind it. -/
  rest : List Char
  /-- The number of characters in front of it. -/
  index : Nat := 0
  /-- The number of lines in front of its own. -/
  line : Nat := 0
  /-- The number of characters in front of it on its line; byte order marks do not count. -/
  column : Nat := 0

namespace Cursor

/-- The next character. -/
def peek (c : Cursor) : Option Char :=
  c.rest.head?

/-- The character behind the next one. -/
def peekSecond (c : Cursor) : Option Char :=
  c.rest[1]?

/-- The position behind the next character. -/
def next (c : Cursor) : Cursor :=
  match c.rest with
  | [] => c
  | ch :: rest =>
    if isBreak ch then { rest, index := c.index + 1, line := c.line + 1, column := 0 }
    else if ch == '\uFEFF' then { c with rest, index := c.index + 1 }
    else { c with rest, index := c.index + 1, column := c.column + 1 }

/-- The position behind a number of characters. -/
def advance (c : Cursor) : Nat → Cursor
  | 0 => c
  | n + 1 => c.next.advance n

/-- The next characters that pass a test, and the position behind them. -/
def span (c : Cursor) (test : Char → Bool) : List Char × Cursor :=
  (c.rest.takeWhile test, c.advance (c.rest.takeWhile test).length)

/-- The position behind the next characters that pass a test. -/
def skip (c : Cursor) (test : Char → Bool) : Cursor :=
  (c.span test).2

/-- The position behind the spaces. -/
def skipSpaces (c : Cursor) : Cursor :=
  c.skip (· == ' ')

/-- The position at the end of the line. -/
def skipLine (c : Cursor) : Cursor :=
  c.skip fun ch => !isBreak ch

/-- Takes a line end: what it stands for in a text, and the position behind it. -/
def takeBreak (c : Cursor) : Option (Char × Cursor) :=
  match c.peek with
  | some ch =>
    if ch == '\n' || ch == '\x85' then some ('\n', c.next)
    else if isBreak ch then some (ch, c.next)
    else none
  | none => none

/-- Three given characters and a gap stand here. -/
def atTriple (c : Cursor) (mark : Char) : Bool :=
  c.rest.take 3 == [mark, mark, mark] && isGap? c.rest[3]?

/-- A line that starts or ends a document stands here, if the line starts here. -/
def atSeparator (c : Cursor) : Bool :=
  c.atTriple '-' || c.atTriple '.'

end Cursor

end Registrar.Yaml
