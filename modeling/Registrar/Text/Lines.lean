/-!
# Lines of text

`splitAt sep` cuts a text at every separator and never returns the empty list, so joining its
pieces with the separator gives the text back. `firstLine` cuts at any of the characters that
Unicode or ASCII uses to end a line, which is a larger set than the newline alone.
-/

namespace Registrar.Text

/-- The pieces of a text between the separators. -/
def splitAt (sep : Char) : List Char → List (List Char)
  | [] => [[]]
  | c :: rest =>
    if c = sep then [] :: splitAt sep rest
    else match splitAt sep rest with
      | [] => [[c]]
      | line :: lines => (c :: line) :: lines

/-- Joins pieces with a separator between neighbours. -/
def joinWith (sep : List Char) : List (List Char) → List Char
  | [] => []
  | [piece] => piece
  | piece :: pieces => piece ++ sep ++ joinWith sep pieces

/-- A character that ends a line. -/
def isLineBreak (c : Char) : Bool :=
  let n := c.toNat
  (10 ≤ n && n ≤ 13) || (28 ≤ n && n ≤ 30) || n == 0x85 || n == 0x2028 || n == 0x2029

/-- The first line of a text without its end; an empty text has no line. -/
def firstLine : List Char → Option (List Char)
  | [] => none
  | s => some (s.takeWhile fun c => !isLineBreak c)

theorem splitAt_ne_nil (sep : Char) (s : List Char) : splitAt sep s ≠ [] := by
  induction s with
  | nil => simp [splitAt]
  | cons c rest ih =>
    unfold splitAt
    split
    · simp
    · split <;> simp

end Registrar.Text
