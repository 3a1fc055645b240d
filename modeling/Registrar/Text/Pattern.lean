/-!
# Regular expressions

Patterns over characters, matched by derivatives: `derive c p` matches the rest of a text
exactly when `p` matches the text with `c` in front. `accepts` asks for a whole text, `longest`
for the longest beginning of a text that a pattern matches.
-/

namespace Registrar.Text

/-- A regular expression; a leaf is a test on one character. -/
inductive Pattern where
  /-- Matches nothing. -/
  | fail
  /-- Matches the empty text. -/
  | empty
  /-- Matches one character that passes the test. -/
  | one (test : Char → Bool)
  /-- Matches the first and then the second. -/
  | seq (p q : Pattern)
  /-- Matches either. -/
  | alt (p q : Pattern)
  /-- Matches any number of times. -/
  | many (p : Pattern)

namespace Pattern

/-- The pattern matches the empty text. -/
def nullable : Pattern → Bool
  | fail => false
  | empty => true
  | one _ => false
  | seq p q => p.nullable && q.nullable
  | alt p q => p.nullable || q.nullable
  | many _ => true

/-- Sequence that drops parts without effect. -/
def seq' : Pattern → Pattern → Pattern
  | fail, _ => fail
  | empty, q => q
  | p, q => seq p q

/-- Alternative that drops parts without effect. -/
def alt' : Pattern → Pattern → Pattern
  | fail, q => q
  | p, fail => p
  | p, q => alt p q

/-- What is left to match after a character. -/
def derive (c : Char) : Pattern → Pattern
  | fail => fail
  | empty => fail
  | one test => if test c then empty else fail
  | seq p q =>
    if p.nullable then alt' (seq' (derive c p) q) (derive c q) else seq' (derive c p) q
  | alt p q => alt' (derive c p) (derive c q)
  | many p => seq' (derive c p) (many p)

/-- The pattern matches the whole text. -/
def accepts (p : Pattern) : List Char → Bool
  | [] => p.nullable
  | c :: rest => (derive c p).accepts rest

/-- Length of the longest matching beginning, `best` being the one found so far. -/
def longestFrom (read : Nat) (best : Option Nat) (p : Pattern) : List Char → Option Nat
  | [] => if p.nullable then some read else best
  | c :: rest =>
    let best := if p.nullable then some read else best
    match derive c p with
    | fail => best
    | q => longestFrom (read + 1) best q rest

/-- Length of the longest beginning of a text that the pattern matches. -/
def longest (p : Pattern) (s : List Char) : Option Nat :=
  longestFrom 0 none p s

/-- One given character. -/
def char (c : Char) : Pattern :=
  one (· == c)

/-- One character of a set. -/
def oneOf (set : String) : Pattern :=
  one fun c => set.toList.contains c

/-- Several patterns in a row. -/
def inRow (ps : List Pattern) : Pattern :=
  ps.foldr seq' empty

/-- Any of several patterns. -/
def anyOf (ps : List Pattern) : Pattern :=
  ps.foldr alt' fail

/-- A given word. -/
def word (w : String) : Pattern :=
  inRow (w.toList.map char)

/-- Any of several words. -/
def anyWord (ws : List String) : Pattern :=
  anyOf (ws.map word)

/-- The pattern or nothing. -/
def optional (p : Pattern) : Pattern :=
  alt p empty

/-- The pattern one or more times. -/
def some' (p : Pattern) : Pattern :=
  seq p (many p)

/-- The pattern a given number of times. -/
def times : Nat → Pattern → Pattern
  | 0, _ => empty
  | n + 1, p => seq' p (times n p)

end Pattern

end Registrar.Text
