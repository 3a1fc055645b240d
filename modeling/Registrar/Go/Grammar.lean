import Registrar.Go.Rule

/-!
# The grammar of Go files

The grammar takes every file that the language allows and is wider in a few places. Statements
may stand at the top level, import declarations and the package clause may come in any order,
and a line may end wherever no terminator could come next. A type may stand where an expression
is asked for, and no meaning is checked.

Nodes are kept for the parts that declarations are read from: the file, its package clause, the
declarations with their specs, and the names they introduce. A statement at the top level is one
node whatever it holds.
-/

namespace Registrar.Go

/-- What an expression may hold, depending on where it stands. -/
structure Mode where
  /-- A brace behind a type name starts a literal, not a block. -/
  literals : Bool := true
  /-- A type switch may ask for the type. -/
  guard : Bool := false
  /-- Brackets behind a name may be empty, as in front of an element type. -/
  slices : Bool := false
  deriving DecidableEq, Repr

/-- In front of a block. -/
def Mode.header : Mode := { literals := false }

/-- In front of the block of a switch. -/
def Mode.switch : Mode := { literals := false, guard := true }

/-- In the brackets behind the name of a type that is being defined. -/
def Mode.brackets : Mode := { slices := true }

/-- The parts of the language. -/
inductive Part where
  | file
  | topLevel
  | constSpec
  | varSpec
  | typeSpec
  | importSpec
  | signature
  | parameters
  | parameter
  | typeParameters
  | type
  | typeArguments
  | typeElements
  | structType
  | interfaceType
  | block
  | statements
  | statement
  | ifStatement
  | forRest
  | simple (m : Mode)
  | simpleTail (m : Mode)
  | expression (m : Mode)
  | unary (m : Mode)
  | operand (m : Mode)
  | typeTail (m : Mode)
  | valueTail (m : Mode)
  | index
  | arguments
  | literal
  | element
  deriving DecidableEq, Repr

namespace Grammar

open Rule

/-- A name. -/
def name : Rule Part := .token .name

/-- A string. -/
def string : Rule Part := .token .string

/-- Something between two marks. -/
def between (opening closing : String) (rule : Rule Part) : Rule Part :=
  inRow [mark opening, rule, mark closing]

/-- Items between two marks, with commas between them and, at will, after the last. -/
def commaList (opening closing : String) (item : Rule Part) : Rule Part :=
  between opening closing (optional (list item (mark ",")))

/-- Lines between braces. -/
def bracedLines (item : Rule Part) : Rule Part :=
  between "\x7b" "\x7d" (optional (list item terminator))

/-- A name that a declaration introduces. -/
def declaredName (kind : String) : Rule Part :=
  node kind (some "name") name

/-- Expressions with commas between them. -/
def expressions (m : Mode) : Rule Part :=
  chain (part (.expression m)) (mark ",")

/-- The operators that assign. -/
def assignMarks : List String :=
  ["=", "*=", "/=", "%=", "<<=", ">>=", "&=", "&^=", "+=", "-=", "|=", "^="]

/-- The operators between two operands. -/
def binaryMarks : List String :=
  ["*", "/", "%", "<<", ">>", "&", "&^", "+", "-", "|", "^", "==", "!=", "<", "<=", ">", ">=",
   "&&", "||"]

/-- The operators in front of an operand. -/
def unaryMarks : List String :=
  ["+", "-", "!", "^", "*", "&", "<-"]

/-- The tokens of balanced parentheses, read behind the opening one. -/
def afterParens : Nat → List Token → List Token
  | _, [] => []
  | depth, t :: rest =>
    if t.lexeme = .mark "(" then afterParens (depth + 1) rest
    else if t.lexeme = .mark ")" then
      match depth with
      | 0 => rest
      | d + 1 => afterParens d rest
    else afterParens depth rest

/-- The word for a function, parentheses, a name and a parenthesis: the head of a method. -/
def isMethodHead : List Token → Bool
  | _ :: t :: rest =>
    t.lexeme = .mark "(" &&
      match afterParens 0 rest with
      | u :: v :: _ => u.lexeme = .name && v.lexeme = .mark "("
      | _ => false
  | _ => false

/-- The word for a function and a name. -/
def isFunctionHead : List Token → Bool
  | _ :: t :: _ => t.lexeme = .name
  | _ => false

/-- A name and a colon. -/
def isLabel : List Token → Bool
  | t :: u :: _ => t.lexeme = .name && u.lexeme = .mark ":"
  | _ => false

/-- A declaration of constants. Every spec of a group needs its terminator. -/
def constDeclaration : Rule Part :=
  node "const_declaration" none <| inRow [word "const",
    anyOf [part .constSpec,
      between "(" ")" (many (inRow [part .constSpec, terminator]))]]

/-- A declaration of variables. Every spec of a group needs its terminator. -/
def varDeclaration : Rule Part :=
  node "var_declaration" none <| inRow [word "var",
    anyOf [part .varSpec,
      node "var_spec_list" none
        (between "(" ")" (many (inRow [part .varSpec, terminator])))]]

/-- A declaration of types. -/
def typeDeclaration : Rule Part :=
  node "type_declaration" none <| inRow [word "type",
    anyOf [part .typeSpec, between "(" ")" (optional (list (part .typeSpec) terminator))]]

/-- A declaration of a function. -/
def functionDeclaration : Rule Part :=
  node "function_declaration" none <| inRow [word "func", declaredName "identifier",
    optional (between "[" "]" (part .typeParameters)), part .signature, optional (part .block)]

/-- A declaration of a method. -/
def methodDeclaration : Rule Part :=
  node "method_declaration" none <| inRow [word "func", part .parameters,
    declaredName "field_identifier", part .signature, optional (part .block)]

/-- A declaration of imports. -/
def importDeclaration : Rule Part :=
  node "import_declaration" none <| inRow [word "import",
    anyOf [part .importSpec, between "(" ")" (optional (list (part .importSpec) terminator))]]

/-- The package clause. -/
def packageClause : Rule Part :=
  node "package_clause" none <| inRow [word "package", node "package_identifier" none name]

/-- What can follow a name that may be alone, be qualified or instantiated, or introduce
something of a type. Brackets may hold a length, type arguments or nothing. -/
def nameRest (more : List (Rule Part)) : Rule Part :=
  optional <| anyOf <| [
    inRow [mark ".", name, optional (part .typeArguments)],
    inRow [mark "[", anyOf [inRow [mark "]", part .type],
      inRow [list (part (.expression {})) (mark ","), mark "]", optional (part .type)]]]] ++
    more ++ [part .type]

/-- The clauses of a switch. -/
def switchClauses : Rule Part :=
  between "\x7b" "\x7d" <| many <| anyOf [
    inRow [word "case", expressions {}, mark ":", optional (part .statements)],
    inRow [word "default", mark ":", optional (part .statements)]]

/-- What is sent or received. -/
def communication : Rule Part :=
  inRow [part (.expression {}), optional <| anyOf [
    inRow [mark ",", expressions {}, anyMark [":=", "="], part (.expression {})],
    inRow [anyMark [":=", "="], part (.expression {})],
    inRow [mark "<-", part (.expression {})]]]

/-- The clauses of a select. -/
def selectClauses : Rule Part :=
  between "\x7b" "\x7d" <| many <| anyOf [
    inRow [word "case", communication, mark ":", optional (part .statements)],
    inRow [word "default", mark ":", optional (part .statements)]]

/-- A range clause behind its variables. -/
def rangeRest : Rule Part :=
  inRow [word "range", part (.expression .header)]

/-- The clauses of a loop behind its initial statement. -/
def loopRest : Rule Part :=
  inRow [mark ";", part .forRest]

/-- Variables of a loop that are assigned or ranged over. -/
def assignOrRange : Rule Part :=
  anyOf [
    inRow [anyMark [":=", "="], anyOf [rangeRest, inRow [expressions .header, loopRest]]],
    inRow [anyMark assignMarks, expressions .header, loopRest]]

/-- What stands between the word for a loop and its block. -/
def loopHeader : Rule Part :=
  anyOf [
    rangeRest,
    loopRest,
    inRow [part (.expression .header),
      optional <| anyOf [
        loopRest,
        inRow [mark ",", expressions .header, assignOrRange],
        assignOrRange,
        inRow [anyMark ["++", "--"], loopRest],
        inRow [mark "<-", part (.expression .header), loopRest]]]]

/-- A statement that is no declaration and no simple one. -/
def compoundStatements : List (Rule Part) := [
  inRow [word "return", optional (expressions {})],
  inRow [word "go", part (.expression {})],
  inRow [word "defer", part (.expression {})],
  part .ifStatement,
  inRow [word "for", optional loopHeader, part .block],
  inRow [word "switch",
    optional (inRow [part (.simple .switch), optional (inRow [mark ";",
      optional (part (.simple .switch))])]), switchClauses],
  inRow [word "select", selectClauses],
  word "fallthrough",
  inRow [word "break", optional name],
  inRow [word "continue", optional name],
  inRow [word "goto", name],
  part .block,
  mark ";"]

/-- The declarations that may stand in a block. -/
def blockDeclarations : List (Rule Part) :=
  [constDeclaration, varDeclaration, typeDeclaration]

/-- What a value is asserted to be. -/
def assertedType (m : Mode) : Rule Part :=
  if m.guard then anyOf [word "type", part .type] else part .type

/-- The rule of every part. -/
def rule : Part → Rule Part
  | .file => node "source_file" none <|
    inRow [many (inRow [part .topLevel, terminator]), .token .finish]
  | .topLevel => anyOf <| blockDeclarations ++ [
      packageClause,
      importDeclaration,
      ifAhead isFunctionHead functionDeclaration
        (ifAhead isMethodHead methodDeclaration (node "statement" none (part .statement)))]
  | .constSpec => node "const_spec" none <| inRow [
      chain (declaredName "identifier") (mark ","),
      optional <| anyOf [inRow [mark "=", expressions {}],
        inRow [part .type, mark "=", expressions {}]]]
  | .varSpec => node "var_spec" none <| inRow [
      chain (declaredName "identifier") (mark ","),
      anyOf [inRow [mark "=", expressions {}],
        inRow [part .type, optional (inRow [mark "=", expressions {}])]]]
  | .typeSpec => node "type_spec" none <| inRow [declaredName "type_identifier",
      anyOf [
        inRow [mark "=", part .type],
        inRow [mark "[", anyOf [
          inRow [mark "]", part .type],
          inRow [list (inRow [part (.expression .brackets), optional (part .typeElements)])
            (mark ","), mark "]", optional (mark "="), part .type]]],
        part .type]]
  | .importSpec => inRow [optional (anyOf [name, mark "."]), string]
  | .signature => inRow [part .parameters, optional (anyOf [part .parameters, part .type])]
  | .parameters => commaList "(" ")" (part .parameter)
  | .parameter => anyOf [
      inRow [mark "...", part .type],
      inRow [name, nameRest [inRow [mark "...", part .type]]],
      part .type]
  | .typeParameters => inRow [name, anyOf [
      inRow [mark ",", part .typeParameters],
      inRow [part .typeElements, optional (inRow [mark ",", optional (part .typeParameters)])]]]
  | .type => anyOf [
      inRow [name, optional (inRow [mark ".", name]), optional (part .typeArguments)],
      inRow [anyMark ["*", "~"], part .type],
      between "(" ")" (part .type),
      inRow [mark "[", anyOf [
        inRow [mark "]", part .type],
        inRow [part (.expression {}), mark "]", part .type]]],
      part .structType,
      part .interfaceType,
      inRow [word "map", mark "[", part .type, mark "]", part .type],
      inRow [word "chan", anyOf [inRow [mark "<-", part .type], part .type]],
      inRow [mark "<-", word "chan", part .type],
      inRow [word "func", part .signature]]
  | .typeArguments => between "[" "]" (list (part .typeElements) (mark ","))
  | .typeElements => chain (part .type) (mark "|")
  | .structType => inRow [word "struct", bracedLines <| inRow [
      anyOf [
        inRow [mark "*", name, optional (inRow [mark ".", name]),
          optional (part .typeArguments)],
        inRow [name, nameRest [
          inRow [mark ",", chain name (mark ","), part .type]]]],
      optional string]]
  | .interfaceType => inRow [word "interface", bracedLines <| anyOf [
      inRow [name, optional <| anyOf [
        part .signature,
        inRow [optional (inRow [mark ".", name]), optional (part .typeArguments),
          many (inRow [mark "|", part .type])]]],
      part .typeElements]]
  | .block => between "\x7b" "\x7d" (optional (part .statements))
  | .statements => list
      (ifAhead isLabel
        (inRow [name, mark ":",
          anyOf [before [.mark "\x7d", .word "case", .word "default"], part .statement]])
        (part .statement))
      terminator
  | .statement => anyOf <| blockDeclarations ++ compoundStatements ++ [
      ifAhead isLabel (inRow [name, mark ":", part .statement]) (part (.simple {}))]
  | .ifStatement => inRow [word "if", part (.expression .header),
      optional <| anyOf [
        inRow [mark ";", part (.expression .header)],
        inRow [part (.simpleTail .header), mark ";", part (.expression .header)]],
      part .block,
      optional (inRow [word "else", anyOf [part .block, part .ifStatement]])]
  | .forRest => inRow [optional (part (.expression .header)), mark ";",
      optional (part (.simple .header))]
  | .simple m => inRow [part (.expression m), optional (part (.simpleTail m))]
  | .simpleTail m => anyOf [
      inRow [mark ",", expressions m, anyMark (":=" :: assignMarks), expressions m],
      inRow [anyMark (":=" :: assignMarks), expressions m],
      anyMark ["++", "--"],
      inRow [mark "<-", part (.expression m)]]
  | .expression m => chain (part (.unary m)) (anyMark binaryMarks)
  | .unary m => anyOf [inRow [anyMark unaryMarks, part (.unary m)], part (.operand m)]
  | .operand m => anyOf [
      inRow [name, part (.typeTail m)],
      inRow [anyOf [.token .number, .token .rune, string], part (.valueTail m)],
      inRow [between "(" ")" (part (.expression {})), part (.valueTail m)],
      inRow [mark "[", anyOf [
          inRow [mark "...", mark "]", part .type, part .literal],
          inRow [anyOf [mark "]", inRow [part (.expression {}), mark "]"]], part .type,
            optional (part .literal)]],
        part (.valueTail m)],
      inRow [part .structType, optional (part .literal), part (.valueTail m)],
      inRow [word "map", mark "[", part .type, mark "]", part .type, optional (part .literal),
        part (.valueTail m)],
      inRow [word "func", part .signature, optional (part .block), part (.valueTail m)],
      inRow [part .interfaceType, part (.valueTail m)],
      inRow [word "chan", anyOf [inRow [mark "<-", part .type], part .type],
        part (.valueTail m)]]
  | .typeTail m => optional <| anyOf <|
      (if m.literals then [inRow [part .literal, part (.valueTail m)]] else []) ++ [
        inRow [mark ".", anyOf [
          inRow [name, part (.typeTail m)],
          inRow [between "(" ")" (assertedType m), part (.valueTail m)]]],
        inRow [mark "[", anyOf <|
          (if m.slices then [inRow [mark "]", part .type]] else []) ++
            [inRow [part .index, mark "]", part (.typeTail m)]]],
        inRow [part .arguments, part (.valueTail m)]]
  | .valueTail m => optional <| anyOf [
      inRow [mark ".", anyOf [name, between "(" ")" (assertedType m)], part (.valueTail m)],
      inRow [between "[" "]" (part .index), part (.valueTail m)],
      inRow [part .arguments, part (.valueTail m)]]
  | .index =>
    let bounds := inRow [mark ":", optional (inRow [part (.expression {}),
      optional (inRow [mark ":", part (.expression {})])])]
    anyOf [bounds, inRow [part (.expression {}), optional (anyOf [bounds,
      inRow [mark ",", optional (list (part (.expression {})) (mark ","))]])]]
  | .arguments => commaList "(" ")" (inRow [part (.expression {}), optional (mark "...")])
  | .literal => commaList "\x7b" "\x7d"
      (inRow [part .element, optional (inRow [mark ":", part .element])])
  | .element => anyOf [part .literal, part (.expression {})]

end Grammar

end Registrar.Go
