import Registrar.Go.Grammar
import Registrar.Go.Node

/-!
# Reading a Go file

A reader holds the rules that are still expected and the tokens that are still to come. It takes
one rule after the other and builds the nodes around the tokens it accepts. A comment belongs to
the innermost node around both of its neighbours, so comments are put in place just before a
node opens or a token is taken, and after the nodes that end there have been closed.
-/

namespace Registrar.Go

/-- A node that is still open. -/
structure Frame where
  kind : String
  field : Option String
  start : Nat
  /-- The children so far, the last one first. -/
  children : List Node := []

/-- A reader in the middle of a file. -/
structure Reader where
  /-- The rules still expected. -/
  expected : List (Rule Part)
  /-- The tokens to come. -/
  tokens : List Token
  /-- What comes next. -/
  sight : Sight
  /-- Comments in front of the next token that have no place yet. -/
  comments : List Span
  /-- The end of the last token. -/
  lastStop : Nat
  /-- The open nodes, the innermost first. -/
  frames : List Frame

namespace Reader

/-- How many parts are entered to see what a rule can start with. -/
def lookDepth : Nat := 40

/-- What comes next: a line end is seen only if a terminator is possible. -/
def see (expected : List (Rule Part)) (tokens : List Token) : Sight :=
  match tokens with
  | [] => .token .finish
  | t :: _ =>
    if t.afterBreak && Rule.rowCanStart Grammar.rule lookDepth .lineEnd expected then .lineEnd
    else .token t.lexeme

/-- Adds children to the innermost open node, in order. -/
def addChildren (frames : List Frame) (nodes : List Node) : List Frame :=
  match frames with
  | [] => []
  | f :: rest => { f with children := nodes.reverse ++ f.children } :: rest

/-- The node of a comment. -/
def commentNode (s : Span) : Node :=
  .make { kind := "comment", start := s.start, stop := s.stop } []

/-- Puts the comments in front of the next token in their place. -/
def placeComments (r : Reader) : Reader :=
  { r with frames := addChildren r.frames (r.comments.map commentNode), comments := [] }

/-- Takes the next token; `rest` is what is expected behind it. -/
def take (r : Reader) (rest : List (Rule Part)) : Option Reader :=
  match r.tokens with
  | [] => none
  | t :: tokens =>
    some { r.placeComments with
      expected := rest
      tokens
      sight := see rest tokens
      comments := (tokens.head?.map Token.comments).getD []
      lastStop := t.span.stop }

/-- Opens a node at the next token. -/
def openNode (r : Reader) (kind : String) (field : Option String) (rest : List (Rule Part)) :
    Option Reader :=
  match r.tokens with
  | [] => none
  | t :: _ =>
    let r := r.placeComments
    some { r with expected := rest, frames := ⟨kind, field, t.span.start, []⟩ :: r.frames }

/-- Closes the innermost open node. -/
def closeNode (r : Reader) (rest : List (Rule Part)) : Option Reader :=
  match r.frames with
  | [] => none
  | f :: frames =>
    let node := Node.make
      { kind := f.kind, start := f.start, stop := r.lastStop, field := f.field }
      f.children.reverse
    some { r with expected := rest, frames := addChildren frames [node] }

/-- Replaces the next expected rule by others. -/
def expect (r : Reader) (rules : List (Rule Part)) : Option Reader :=
  some { r with expected := rules }

/-- Takes the next expected rule; none if the input is refused. -/
def step (r : Reader) : Option Reader :=
  match r.expected with
  | [] => none
  | rule :: rest =>
    let starts := Rule.canStart Grammar.rule lookDepth r.sight
    match rule with
    | .token l => if r.sight = .token l then r.take rest else none
    | .terminator =>
      match r.sight with
      | .lineEnd =>
        some { r with
          expected := rest
          sight := .token ((r.tokens.head?.map Token.lexeme).getD .finish) }
      | .token (.mark ";") => r.take rest
      | .token .finish => r.expect rest
      | _ => none
    | .inRow rules => r.expect (rules ++ rest)
    | .anyOf rules =>
      match rules.find? starts with
      | some rule => r.expect (rule :: rest)
      | none => none
    | .optional rule => r.expect (if starts rule then rule :: rest else rest)
    | .many rule => r.expect (if starts rule then rule :: .many rule :: rest else rest)
    | .list item separator =>
      r.expect (item :: .optional (.inRow [separator, .optional (.list item separator)]) :: rest)
    | .part p => r.expect (Grammar.rule p :: rest)
    | .before lexemes =>
      if lexemes.any fun l => r.sight = .token l then r.expect rest else none
    | .ifAhead test yes no => r.expect ((if test r.tokens then yes else no) :: rest)
    | .node kind field rule => r.openNode kind field (rule :: .close :: rest)
    | .close => r.closeNode rest

/-- Takes up to a number of rules; the answer is the outermost node when nothing is expected. -/
def run : Nat → Reader → Option Node
  | 0, _ => none
  | fuel + 1, r =>
    if r.expected.isEmpty then (r.frames.head?.bind fun f => f.children.head?)
    else match r.step with
      | none => none
      | some r => run fuel r

/-- A bound on the rules taken for each token. -/
def rulesPerToken : Nat := 4000

/-- The tree of a list of tokens. -/
def readTokens (tokens : List Token) : Option Node :=
  let expected := [Rule.part Part.file]
  run (rulesPerToken * (tokens.length + 1))
    { expected, tokens, sight := see expected tokens, lastStop := 0,
      comments := (tokens.head?.map Token.comments).getD [],
      frames := [{ kind := "", field := none, start := 0 }] }

end Reader

/-- The bytes in front of each character of a text, and in front of its end. -/
def byteOffsets (offset : Nat) : List (Option Char × Nat) → List Nat
  | [] => [offset]
  | g :: rest => offset :: byteOffsets (offset + g.2) rest

/-- A span of characters as a span of bytes. -/
def Span.inBytes (offsets : Array Nat) (s : Span) : Span :=
  ⟨offsets.getD s.start 0, offsets.getD s.stop 0⟩

/-- A token with its spans in bytes. -/
def Token.inBytes (offsets : Array Nat) (t : Token) : Token :=
  { t with span := t.span.inBytes offsets, comments := t.comments.map (Span.inBytes offsets) }

/-- The syntax tree of a source, none if the grammar refuses it. -/
def readSource (source : Text.Utf8.Bytes) : Option Node := do
  let glyphs := Text.Utf8.glyphs source
  let tokens ← Token.scan (glyphs.map fun g => g.1.getD '\uFFFD')
  let offsets := (byteOffsets 0 glyphs).toArray
  Reader.readTokens (tokens.map (Token.inBytes offsets))

end Registrar.Go
