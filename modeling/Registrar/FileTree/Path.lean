import Registrar.Text.Lines

/-!
# Paths

Paths occur as texts, which are joined and looked up as they are, and in normal form: an anchor
and a list of parts, without empty parts and without parts that stay in place. The part that
climbs to the parent is kept in normal form, because what stands before it need not be a
directory; `Path.absolute` removes it by climbing in the text.
-/

namespace Registrar

/-- The parts of a path text between its slashes. -/
def pathParts (text : String) : List String :=
  ((Text.splitAt '/' text.toList).map String.ofList).filter fun part => part ≠ ""

/-- Joins two path texts: an absolute second path stands alone, and a slash is added only
where the first one does not end in one. -/
def joinPath (first second : String) : String :=
  if second.startsWith "/" then second
  else if first = "" || first.endsWith "/" then first ++ second
  else first ++ "/" ++ second

/-- A path in normal form. -/
structure Path where
  /-- The slashes at the start: none for a relative path. -/
  anchor : String
  /-- The names, and the parts that climb. -/
  parts : List String
  deriving DecidableEq, Repr

namespace Path

/-- The slashes that count at the start of a path text: exactly two are kept apart from one. -/
def anchorOf (text : String) : String :=
  match text.toList with
  | '/' :: '/' :: '/' :: _ => "/"
  | '/' :: '/' :: _ => "//"
  | '/' :: _ => "/"
  | _ => ""

/-- The normal form of a path text. -/
def ofText (text : String) : Path :=
  { anchor := anchorOf text, parts := (pathParts text).filter fun part => part ≠ "." }

/-- The text of a path in normal form; the relative path without parts is a point. -/
def toText (p : Path) : String :=
  if p.anchor = "" && p.parts.isEmpty then "." else p.anchor ++ "/".intercalate p.parts

/-- A path below another; an absolute one stands alone. -/
def join (p q : Path) : Path :=
  if q.anchor = "" then { p with parts := p.parts ++ q.parts } else q

/-- The path without its last part. -/
def parent (p : Path) : Path :=
  { p with parts := p.parts.dropLast }

/-- The last part of a path. -/
def name (p : Path) : String :=
  p.parts.getLast?.getD ""

/-- Climbs along a list of parts, starting from a list of names. -/
def climb (names : List String) (parts : List String) : List String :=
  parts.foldl (fun names part => if part = ".." then names.dropLast else names ++ [part]) names

/-- The absolute form of a path in a working directory, without parts that climb and with a
single slash at its start. -/
def absolute (p : Path) (home : List String) : Path :=
  { anchor := "/", parts := climb (if p.anchor = "" then home else []) p.parts }

/-- The path with a home directory in the place of its first part, if this begins with a tilde, and
none if nobody knows this home directory. -/
def expandHome (userHome : String → Option String) (p : Path) : Option Path :=
  match p.anchor, p.parts with
  | "", first :: rest =>
    if first.startsWith "~" then
      (userHome first).map fun home =>
        { ofText home with parts := (ofText home).parts ++ rest }
    else some p
  | _, _ => some p

end Path

end Registrar
