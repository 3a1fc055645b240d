import Registrar.Go.Node
import Registrar.Text.Blank
import Registrar.Text.Lines

/-!
# Doc comments

`commentText` turns raw comments into prose: markers and directives are dropped, blanks at line
ends are cut, blank lines at either end go, and several of them become one. `docAbove` finds the
comments that document a node: the run of comments right above it without a blank line between
them, each starting on its own line.
-/

namespace Registrar.Go

open Text.Utf8 (Bytes)

/-- A lower-case ASCII letter or a digit. -/
def isDirectiveChar (c : Char) : Bool :=
  ('a' ≤ c && c ≤ 'z') || ('0' ≤ c && c ≤ '9')

/-- The body of a line comment that speaks to a tool: one of three words and a blank, or a
tool's name, a colon and the beginning of a word. -/
def isDirective (body : List Char) : Bool :=
  ["line ", "extern ", "export "].any (fun w => w.toList.isPrefixOf body) ||
    (!(body.takeWhile isDirectiveChar).isEmpty &&
      match body.dropWhile isDirectiveChar with
      | ':' :: c :: _ => isDirectiveChar c
      | _ => false)

/-- The prose of a raw comment; a directive has none. -/
def commentBody : List Char → Option (List Char)
  | '/' :: '/' :: ' ' :: body => some body
  | '/' :: '/' :: body => if isDirective body then none else some body
  | raw => some ((raw.drop 2).dropLast.dropLast)

/-- The lines of raw comments without the blanks at their ends. -/
def commentLines (comments : List (List Char)) : List (List Char) :=
  (comments.filterMap commentBody).flatMap fun body =>
    (Text.splitAt '\n' body).map Text.trimRight

/-- Drops blank lines at the start and at the end and all but one of several in a row;
`pending` says that a blank line is to come in front of the next line. -/
def squeezeAfter (pending : Bool) : List (List Char) → List (List Char)
  | [] => []
  | line :: rest =>
    if line.isEmpty then squeezeAfter true rest
    else if pending then [] :: line :: squeezeAfter false rest
    else line :: squeezeAfter false rest

/-- The lines without blank ones at either end and without two blank ones in a row. -/
def squeeze (lines : List (List Char)) : List (List Char) :=
  squeezeAfter false (lines.dropWhile List.isEmpty)

/-- The text of raw comments, each of its lines ended by a newline. -/
def commentText (comments : List (List Char)) : List Char :=
  (squeeze (commentLines comments)).flatMap fun line => line ++ ['\n']

/-- Only blanks stand in front of a node on its line. -/
def onOwnLine (source : Bytes) (n : Node) : Bool :=
  (lineBefore source n.label.start).all Text.isAsciiBlank

/-- The comments of a group, the last one first, above a row that the group continues from. The
nodes in front of that row are given with the nearest first. -/
def groupAbove (source : Bytes) (row : Nat) : List Node → List Node
  | [] => []
  | n :: rest =>
    if n.kind = "comment" && row ≤ n.endRow source + 1 && onOwnLine source n then
      n :: groupAbove source (n.startRow source) rest
    else []

/-- The comments that document a node at a row, the last one first. -/
def docGroup (source : Bytes) (row : Nat) : List Node → List Node
  | [] => []
  | n :: rest => if n.endRow source + 1 = row then groupAbove source row (n :: rest) else []

/-- The text of the comments that document a node; the named nodes in front of it are given with
the nearest first. -/
def docAbove (source : Bytes) (n : Node) (earlier : List Node) : Option String :=
  match docGroup source (n.startRow source) earlier with
  | [] => none
  | group => some (String.ofList (commentText (group.reverse.map fun c => c.text source)))

end Registrar.Go
