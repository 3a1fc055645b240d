import Registrar.Go.Literal
import Registrar.Text.Identifier

/-!
# Tokens of Go

A source text is cut into tokens; of several tokens that could stand at a place the longest one
does. White space and comments are no tokens. A token remembers the comments in front of it and
whether a line ends between it and the token before; a line end inside a comment does not count.

Positions are counted in characters. The text is unreadable when some character can begin no
token.
-/

namespace Registrar.Go

/-- What a token is. Words and marks are what they are; of names and literals only the kind
matters. -/
inductive Lexeme where
  | name
  | number
  | rune
  | string
  /-- A reserved word. -/
  | word (w : String)
  /-- An operator or a punctuation mark. -/
  | mark (m : String)
  /-- The end of the source. -/
  | finish
  deriving DecidableEq, Repr

/-- The part of a source from one position to another. -/
structure Span where
  start : Nat
  stop : Nat
  deriving DecidableEq, Repr

/-- A token in its place. -/
structure Token where
  /-- What it is. -/
  lexeme : Lexeme
  /-- Where it stands. -/
  span : Span
  /-- A line ends in front of it. -/
  afterBreak : Bool := false
  /-- The comments in front of it. -/
  comments : List Span := []
  deriving DecidableEq, Repr

namespace Token

/-- The reserved words. -/
def reserved : List String :=
  ["break", "case", "chan", "const", "continue", "default", "defer", "else", "fallthrough",
   "for", "func", "go", "goto", "if", "import", "interface", "map", "package", "range", "return",
   "select", "struct", "switch", "type", "var"]

/-- The marks, longer ones before their beginnings. -/
def marks : List String :=
  ["<<=", ">>=", "&^=", "...", "&&", "||", "<-", "++", "--", "==", "!=", "<=", ">=", ":=", "+=",
   "-=", "*=", "/=", "%=", "&=", "|=", "^=", "<<", ">>", "&^", "+", "-", "*", "/", "%", "&", "|",
   "^", "<", ">", "=", "!", "(", ")", "[", "]", "\x7b", "\x7d", ",", ";", ".", ":", "~"]

/-- White space between tokens. -/
def isSpace (c : Char) : Bool :=
  c == ' ' || (9 ≤ c.toNat && c.toNat ≤ 13)

/-- The number of characters up to the end of a block comment, behind its first two. -/
def blockLength : List Char → Option Nat
  | [] => none
  | '*' :: '/' :: _ => some 2
  | _ :: rest => (blockLength rest).map (· + 1)

/-- The length of a comment at the head of a text. -/
def commentLength? : List Char → Option Nat
  | '/' :: '/' :: rest => some ((rest.takeWhile (· ≠ '\n')).length + 2)
  | '/' :: '*' :: rest => (blockLength rest).map (· + 2)
  | _ => none

/-- The token that a name-like text is. -/
def nameOrWord (s : List Char) : Lexeme :=
  if reserved.contains (String.ofList s) then .word (String.ofList s) else .name

/-- The mark at the head of a text. -/
def mark? (s : List Char) : Option (Lexeme × Nat) :=
  (marks.find? fun m => m.toList.isPrefixOf s).map fun m => (.mark m, m.length)

/-- The token at the head of a text with its length. -/
def lexeme? (s : List Char) : Option (Lexeme × Nat) :=
  match s with
  | [] => none
  | c :: rest =>
    if Text.isIdentStart c then
      let name := c :: rest.takeWhile Text.isIdentRest
      some (nameOrWord name, name.length)
    else if c == '\x22' then (Literal.quotedString.longest s).map fun n => (.string, n)
    else if c == '\x60' then (Literal.rawString.longest s).map fun n => (.string, n)
    else if c == '\'' then (Literal.rune.longest s).map fun n => (.rune, n)
    else match Literal.number.longest s with
      | some n => some (.number, n)
      | none => mark? s

/-- Reads the tokens of a text that starts at a position, given what has been passed since the
last token. -/
def scanFrom (position : Nat) (afterBreak : Bool) (comments : List Span) :
    List Char → Option (List Token)
  | [] => some [⟨.finish, ⟨position, position⟩, afterBreak, comments.reverse⟩]
  | c :: rest =>
    if isSpace c then
      scanFrom (position + 1) (afterBreak || c == '\n') comments rest
    else match commentLength? (c :: rest) with
      | some n =>
        scanFrom (position + 1 + (n - 1)) afterBreak (⟨position, position + n⟩ :: comments)
          (rest.drop (n - 1))
      | none =>
        match lexeme? (c :: rest) with
        | none => none
        | some (lexeme, n) =>
          (scanFrom (position + 1 + (n - 1)) false [] (rest.drop (n - 1))).map fun tokens =>
            ⟨lexeme, ⟨position, position + n⟩, afterBreak, comments.reverse⟩ :: tokens
termination_by s => s.length
decreasing_by all_goals simp +arith [List.length_drop]

/-- The tokens of a text. A byte order mark at its head is passed over; the character zero is
readable nowhere. -/
def scan (s : List Char) : Option (List Token) :=
  if s.contains '\x00' then none
  else match s with
    | '\uFEFF' :: rest => scanFrom 1 false [] rest
    | _ => scanFrom 0 false [] s

end Token

end Registrar.Go
