import Registrar.Go.Token

/-!
# Grammar rules

A grammar maps every part of the language to a rule. Rules are read from left to right with one
token of sight: of several alternatives the first one that can start with the next token is
taken. Where that is not enough, `ifAhead` looks further.

A line end is a token of its own only where a terminator may come next, that is where what is
still expected can start with `terminator`. Everywhere else it is white space. `Sight` is what a
rule sees of the input: the next token, or a line end in front of it.
-/

namespace Registrar.Go

/-- What comes next in the input. -/
inductive Sight where
  /-- A line end that separates. -/
  | lineEnd
  /-- A token. -/
  | token (l : Lexeme)
  deriving DecidableEq, Repr

/-- A rule of a grammar whose parts are named by `P`. -/
inductive Rule (P : Type) where
  /-- One token. -/
  | token (l : Lexeme)
  /-- A line end, a semicolon or the end of the source. -/
  | terminator
  /-- Rules one after the other. -/
  | inRow (rules : List (Rule P))
  /-- The first rule that can start here; without any the input is refused. -/
  | anyOf (rules : List (Rule P))
  /-- The rule if it can start here. -/
  | optional (rule : Rule P)
  /-- The rule as often as it can start. -/
  | many (rule : Rule P)
  /-- Items with separators between them and, at will, after the last. -/
  | list (item separator : Rule P)
  /-- The rule of a part. -/
  | part (p : P)
  /-- Passes if one of the tokens comes next, and leaves it there. -/
  | before (lexemes : List Lexeme)
  /-- The first rule if the next tokens pass the test, else the second. -/
  | ifAhead (test : List Token → Bool) (yes no : Rule P)
  /-- A node of the syntax tree around a rule. -/
  | node (kind : String) (field : Option String) (rule : Rule P)
  /-- The end of the node around. -/
  | close

namespace Rule

variable {P : Type}

/-- Items with separators between them. -/
def chain (item separator : Rule P) : Rule P :=
  inRow [item, many (inRow [separator, item])]

/-- A reserved word. -/
def word (w : String) : Rule P :=
  token (.word w)

/-- A mark. -/
def mark (m : String) : Rule P :=
  token (.mark m)

/-- Any of several marks. -/
def anyMark (ms : List String) : Rule P :=
  anyOf (ms.map mark)

/-! Both questions about a rule are answered by recursion on it, given the answers for the parts
that it names. For the parts themselves they are answered up to a depth. -/

mutual

/-- The rule can stand for nothing, given which parts can. -/
def passesWith (partPasses : P → Bool) : Rule P → Bool
  | token _ => false
  | terminator => false
  | inRow rules => allPass partPasses rules
  | anyOf rules => somePasses partPasses rules
  | optional _ => true
  | many _ => true
  | list item _ => passesWith partPasses item
  | part p => partPasses p
  | before _ => false
  | ifAhead _ yes no => passesWith partPasses yes || passesWith partPasses no
  | node _ _ rule => passesWith partPasses rule
  | close => true

/-- All rules of a row can stand for nothing. -/
def allPass (partPasses : P → Bool) : List (Rule P) → Bool
  | [] => true
  | rule :: rules => passesWith partPasses rule && allPass partPasses rules

/-- One of the alternatives can stand for nothing. -/
def somePasses (partPasses : P → Bool) : List (Rule P) → Bool
  | [] => false
  | rule :: rules => passesWith partPasses rule || somePasses partPasses rules

end

mutual

/-- The rule can start with what comes next, given which parts can and which can stand for
nothing. -/
def startsWith (partStarts partPasses : P → Bool) (sight : Sight) : Rule P → Bool
  | token l => sight = .token l
  | terminator =>
    sight = .lineEnd || sight = .token (.mark ";") || sight = .token .finish
  | inRow rules => rowStartsWith partStarts partPasses sight rules
  | anyOf rules => anyStartsWith partStarts partPasses sight rules
  | optional rule => startsWith partStarts partPasses sight rule
  | many rule => startsWith partStarts partPasses sight rule
  | list item _ => startsWith partStarts partPasses sight item
  | part p => partStarts p
  | before lexemes => lexemes.any fun l => sight = .token l
  | ifAhead _ yes no =>
    startsWith partStarts partPasses sight yes || startsWith partStarts partPasses sight no
  | node _ _ rule => startsWith partStarts partPasses sight rule
  | close => false

/-- One of the rules of a row can start, those in front of it standing for nothing. -/
def rowStartsWith (partStarts partPasses : P → Bool) (sight : Sight) : List (Rule P) → Bool
  | [] => false
  | rule :: rules =>
    startsWith partStarts partPasses sight rule ||
      (passesWith partPasses rule && rowStartsWith partStarts partPasses sight rules)

/-- One of the alternatives can start. -/
def anyStartsWith (partStarts partPasses : P → Bool) (sight : Sight) : List (Rule P) → Bool
  | [] => false
  | rule :: rules =>
    startsWith partStarts partPasses sight rule ||
      anyStartsWith partStarts partPasses sight rules

end

/-- The part can stand for nothing. The depth bounds the parts that are entered. -/
def partPasses (grammar : P → Rule P) : Nat → P → Bool
  | 0, _ => false
  | depth + 1, p => passesWith (partPasses grammar depth) (grammar p)

/-- The part can start with what comes next. -/
def partStarts (grammar : P → Rule P) (sight : Sight) : Nat → P → Bool
  | 0, _ => false
  | depth + 1, p =>
    startsWith (partStarts grammar sight depth) (partPasses grammar depth) sight (grammar p)

/-- The rule can start with what comes next. -/
def canStart (grammar : P → Rule P) (depth : Nat) (sight : Sight) (rule : Rule P) : Bool :=
  startsWith (partStarts grammar sight depth) (partPasses grammar depth) sight rule

/-- One of the rules of a row can start, those in front of it standing for nothing. -/
def rowCanStart (grammar : P → Rule P) (depth : Nat) (sight : Sight) (rules : List (Rule P)) :
    Bool :=
  rowStartsWith (partStarts grammar sight depth) (partPasses grammar depth) sight rules

end Rule

end Registrar.Go
