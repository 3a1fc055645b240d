/-!
# White space

Two sets of white space occur. `isBlank` is the wide one, the white space of Unicode with the
four information separators, and trimming uses it. `isAsciiBlank` has the six ASCII characters
and judges the bytes in front of a comment.
-/

namespace Registrar.Text

/-- White space in the wide sense. -/
def isBlank (c : Char) : Bool :=
  let n := c.toNat
  (9 ≤ n && n ≤ 13) || (28 ≤ n && n ≤ 32) || n == 0x85 || n == 0xA0 || n == 0x1680 ||
    (0x2000 ≤ n && n ≤ 0x200A) || n == 0x2028 || n == 0x2029 || n == 0x202F || n == 0x205F ||
    n == 0x3000

/-- A byte that is ASCII white space. -/
def isAsciiBlank (b : UInt8) : Bool :=
  b == 0x20 || (0x09 ≤ b && b ≤ 0x0D)

/-- The text without the blanks at its end. -/
def trimRight (s : List Char) : List Char :=
  (s.reverse.dropWhile isBlank).reverse

/-- The text without the blanks at either end. -/
def trim (s : List Char) : List Char :=
  trimRight (s.dropWhile isBlank)

end Registrar.Text
