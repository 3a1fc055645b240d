import Registrar.Yaml.Cursor
import Registrar.Yaml.Fault

/-!
# Scalars in YAML texts

A scalar is written plainly, between quotes or as a block of lines. In each of the styles a
single line end between two lines of text stands for a space and further ones for themselves,
with exceptions for blocks that keep their line ends and for indented lines.
-/

namespace Registrar.Yaml

/-- What a gap with a line end stands for, given its first line end and the others. -/
def foldBreaks (first : Char) (others : List Char) : List Char :=
  if first ≠ '\n' then first :: others
  else if others.isEmpty then [' ']
  else others

/-! ### Plain scalars -/

/-- A plain scalar cannot go on with a character in front of another one. -/
def endsPlain (flow : Bool) (c : Char) (next : Option Char) : Bool :=
  isGap? (some c) ||
    (c == ':' && (isGap? next || (flow && next.any fun n => ",[]\x7b\x7d".toList.contains n))) ||
    (flow && ",?[]\x7b\x7d".toList.contains c)

/-- The beginning of a text that a plain scalar can hold without a gap. -/
def plainRun (flow : Bool) : List Char → List Char
  | [] => []
  | c :: rest => if endsPlain flow c rest.head? then [] else c :: plainRun flow rest

/-- A scalar can start plainly with a character in front of another one. -/
def canStartPlain (flow : Bool) (c : Char) (next : Option Char) : Bool :=
  !(isGap? (some c) || "-?:,[]\x7b\x7d#&*!|>'\x22%@\x60".toList.contains c) ||
    (!isGap? next && (c == '-' || (!flow && (c == '?' || c == ':'))))

/-- A gap in a plain scalar: what it stands for, whether it crosses a line end, and the
position behind it. -/
structure PlainGap where
  text : List Char
  crosses : Bool
  cursor : Cursor

/-- Reads the line ends and spaces behind the first line end of a gap. A line that separates
documents ends the gap, which then stands for nothing. -/
def plainBreaks : Nat → List Char → Cursor → Option (List Char) × Cursor
  | 0, breaks, c => (some breaks.reverse, c)
  | fuel + 1, breaks, c =>
    if c.peek == some ' ' then plainBreaks fuel breaks c.next
    else match c.takeBreak with
      | none => (some breaks.reverse, c)
      | some (b, c) =>
        if c.atSeparator then (none, c) else plainBreaks fuel (b :: breaks) c

/-- Reads the gap behind a run of a plain scalar. -/
def plainGap (c : Cursor) : PlainGap :=
  let (spaces, c) := c.span (· == ' ')
  match c.takeBreak with
  | none => ⟨spaces, false, c⟩
  | some (first, c) =>
    if c.atSeparator then ⟨[], true, c⟩
    else match plainBreaks c.rest.length [] c with
      | (none, c) => ⟨[], true, c⟩
      | (some others, c) => ⟨foldBreaks first others, true, c⟩

/-- Reads the runs of a plain scalar behind a text and a gap. A scalar outside of brackets ends
on a line with less indent. -/
def plainRuns (flow : Bool) (indent : Int) : Nat → List Char → PlainGap → List Char × PlainGap
  | 0, text, gap => (text, gap)
  | fuel + 1, text, gap =>
    let run := plainRun flow gap.cursor.rest
    if gap.cursor.peek == some '#' || run.isEmpty then (text, gap)
    else
      let text := text ++ gap.text ++ run
      let gap := plainGap (gap.cursor.advance run.length)
      if gap.text.isEmpty || (!flow && (gap.cursor.column : Int) < indent) then (text, gap)
      else plainRuns flow indent fuel text gap

/-- Reads a plain scalar and the gap behind it. -/
def readPlain (flow : Bool) (indent : Int) (c : Cursor) : List Char × PlainGap :=
  plainRuns flow indent c.rest.length [] ⟨[], false, c⟩

/-! ### Quoted scalars -/

/-- Skips blanks and line ends inside a quoted scalar and keeps the line ends. -/
def quotedBreaks : Nat → List Char → Cursor → Except Fault (List Char × Cursor)
  | 0, breaks, c => .ok (breaks.reverse, c)
  | fuel + 1, breaks, c =>
    if c.atSeparator then .error .malformed
    else
      let c := c.skip fun ch => ch == ' ' || ch == '\t'
      match c.takeBreak with
      | none => .ok (breaks.reverse, c)
      | some (b, c) => quotedBreaks fuel (b :: breaks) c

/-- Reads a gap inside a quoted scalar. -/
def quotedGap (c : Cursor) : Except Fault (List Char × Cursor) :=
  let (blanks, c) := c.span fun ch => ch == ' ' || ch == '\t'
  match c.takeBreak with
  | none => .ok (blanks, c)
  | some (first, c) => do
    let (others, c) ← quotedBreaks (c.rest.length + 1) [] c
    return (foldBreaks first others, c)

/-- What a letter behind a backslash stands for. -/
def escapes : List (Char × Char) :=
  [('0', '\x00'), ('a', '\x07'), ('b', '\x08'), ('t', '\t'), ('\t', '\t'), ('n', '\n'),
   ('v', '\x0b'), ('f', '\x0c'), ('r', '\r'), ('e', '\x1b'), (' ', ' '), ('\x22', '\x22'),
   ('\\', '\\'), ('/', '/'), ('N', '\x85'), ('_', '\xa0'), ('L', '\u2028'), ('P', '\u2029')]

/-- The number of digits behind a letter that announces the code of a character. -/
def escapeDigits : List (Char × Nat) :=
  [('x', 2), ('u', 4), ('U', 8)]

/-- Reads the code of a character. Surrogates are no characters and are refused. -/
def readCode (digits : Nat) (c : Cursor) : Except Fault (Char × Cursor) :=
  let code := c.rest.take digits
  if code.length < digits || !code.all isHexDigit then .error .malformed
  else if 0x10FFFF < hexValue code then .error .noSuchValue
  else if Nat.isValidChar (hexValue code) then
    .ok (Char.ofNat (hexValue code), c.advance digits)
  else .error .surrogate

/-- Reads an escape behind its backslash. -/
def readEscape (c : Cursor) : Except Fault (List Char × Cursor) :=
  match c.peek with
  | none => .error .malformed
  | some ch =>
    match escapes.lookup ch, escapeDigits.lookup ch with
    | some x, _ => .ok ([x], c.next)
    | none, some digits => (readCode digits c.next).map fun (x, c) => ([x], c)
    | none, none =>
      match c.takeBreak with
      | some (_, c) => quotedBreaks (c.rest.length + 1) [] c
      | none => .error .malformed

/-- Reads a quoted scalar up to its closing quote. Between double quotes a backslash escapes;
between single quotes a doubled quote is one. -/
def quotedFrom (quote : Char) : Nat → List Char → Cursor → Except Fault (List Char × Cursor)
  | 0, _, _ => .error .malformed
  | fuel + 1, text, c =>
    match c.peek with
    | none => .error .malformed
    | some ch =>
      if ch == quote then
        if quote == '\'' && c.peekSecond == some quote then
          quotedFrom quote fuel (text ++ [quote]) (c.advance 2)
        else .ok (text, c.next)
      else if quote == '\x22' && ch == '\\' then do
        let (more, c) ← readEscape c.next
        quotedFrom quote fuel (text ++ more) c
      else if isGap? (some ch) then do
        let (more, c) ← quotedGap c
        quotedFrom quote fuel (text ++ more) c
      else quotedFrom quote fuel (text ++ [ch]) c.next

/-- Reads a quoted scalar at its opening quote. -/
def readQuoted (quote : Char) (c : Cursor) : Except Fault (List Char × Cursor) :=
  quotedFrom quote c.rest.length [] c.next

/-! ### Blocks -/

/-- What becomes of the line ends at the end of a block. -/
inductive Chomping where
  /-- All are dropped. -/
  | strip
  /-- One is kept. -/
  | clip
  /-- All are kept. -/
  | keep
  deriving DecidableEq, Repr

/-- The sign for the line ends at the end of a block. -/
def chomping? (c : Option Char) : Option Chomping :=
  if c == some '+' then some .keep
  else if c == some '-' then some .strip
  else none

/-- The digit for the indent of a block. -/
def indentDigit? (c : Option Char) : Option Nat :=
  match c with
  | some ch => if ch.isDigit then some (ch.toNat - 0x30) else none
  | none => none

/-- Reads the sign and the digit behind the mark of a block, in either order. -/
def blockHeader (c : Cursor) : (Chomping × Option Nat) × Cursor :=
  match chomping? c.peek with
  | some chomping =>
    match indentDigit? c.peekSecond with
    | some n => ((chomping, some n), c.advance 2)
    | none => ((chomping, none), c.next)
  | none =>
    match indentDigit? c.peek with
    | none => ((.clip, none), c)
    | some n =>
      match chomping? c.peekSecond with
      | some chomping => ((chomping, some n), c.advance 2)
      | none => ((.clip, some n), c.next)

/-- Takes what may stand behind a block's mark on its line: spaces, a comment, the line end. -/
def restOfLine (c : Cursor) : Except Fault Cursor :=
  let c := c.skipSpaces
  let c := if c.peek == some '#' then c.skipLine else c
  if isLineEnd? c.peek then .ok c.next else .error .malformed

/-- Skips the blank lines in front of a block: their line ends, and the widest indent. -/
def blockIndent : Nat → List Char → Nat → Cursor → List Char × Nat × Cursor
  | 0, breaks, widest, c => (breaks.reverse, widest, c)
  | fuel + 1, breaks, widest, c =>
    if c.peek == some ' ' then blockIndent fuel breaks (max widest c.next.column) c.next
    else match c.takeBreak with
      | some (b, c) => blockIndent fuel (b :: breaks) widest c
      | none => (breaks.reverse, widest, c)

/-- Skips spaces up to the indent of a block. -/
def skipIndent (indent : Nat) (c : Cursor) : Cursor :=
  c.advance (min (indent - c.column) (c.rest.takeWhile (· == ' ')).length)

/-- Skips the blank lines inside a block and keeps their line ends. -/
def blockBreaks (indent : Nat) : Nat → List Char → Cursor → List Char × Cursor
  | 0, breaks, c => (breaks.reverse, c)
  | fuel + 1, breaks, c =>
    match (skipIndent indent c).takeBreak with
    | some (b, c) => blockBreaks indent fuel (b :: breaks) c
    | none => (breaks.reverse, skipIndent indent c)

/-- A line of a block is indented further or starts with a tab. -/
def startsBlank (c : Cursor) : Bool :=
  c.peek == some ' ' || c.peek == some '\t'

/-- Reads the lines of a block: its text, the last line end and the blank lines at its end. -/
def blockLines (folded : Bool) (indent : Nat) :
    Nat → List Char → List Char → Cursor → List Char × List Char × List Char × Cursor
  | 0, text, breaks, c => (text, [], breaks, c)
  | fuel + 1, text, breaks, c =>
    if c.column ≠ indent || c.peek.isNone then (text, [], breaks, c)
    else
      let blank := startsBlank c
      let (line, c) := c.span fun ch => !isBreak ch
      let text := text ++ breaks ++ line
      let lineEnd := (c.takeBreak.map fun b => [b.1]).getD []
      let (breaks, c) := blockBreaks indent (c.rest.length + 1) [] c.next
      if c.column = indent && c.peek.isSome then
        let joint :=
          if folded && lineEnd == ['\n'] && !blank && !startsBlank c then
            if breaks.isEmpty then [' '] else []
          else lineEnd
        blockLines folded indent fuel (text ++ joint) breaks c
      else (text, lineEnd, breaks, c)

/-- Reads a block behind the mark that starts it; `outer` is the indent around it. -/
def readBlock (folded : Bool) (outer : Int) (c : Cursor) : Except Fault (List Char × Cursor) := do
  let ((chomping, digit), c) := blockHeader c
  if digit = some 0 || !isSpaceOrEnd? c.peek then throw .malformed
  let c ← restOfLine c
  let least := max 1 (outer + 1).toNat
  let (breaks, indent, c) :=
    match digit with
    | some n =>
      let indent := least + n - 1
      let (breaks, c) := blockBreaks indent (c.rest.length + 1) [] c
      (breaks, indent, c)
    | none =>
      let (breaks, widest, c) := blockIndent (c.rest.length + 1) [] 0 c
      (breaks, max least widest, c)
  let (text, lineEnd, breaks, c) := blockLines folded indent (c.rest.length + 1) [] breaks c
  match chomping with
  | .strip => return (text, c)
  | .clip => return (text ++ lineEnd, c)
  | .keep => return (text ++ lineEnd ++ breaks, c)

end Registrar.Yaml
