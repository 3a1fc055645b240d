/-!
# Reading UTF-8

`glyphs` reads a byte sequence character by character and keeps the number of bytes of each. A
maximal invalid subpart counts as one unreadable glyph: its lead byte with the continuation
bytes that could still have gone on. `decodeLossy` shows U+FFFD in its place, `decode?` refuses
a sequence that has one.
-/

namespace Registrar.Text.Utf8

/-- A sequence of bytes. -/
abbrev Bytes := List UInt8

/-- The bytes of a text. -/
def encode (s : String) : Bytes :=
  s.toList.flatMap String.utf8EncodeChar

/-- What a lead byte of a longer sequence announces. -/
structure Lead where
  /-- The bits of the code point in the lead byte. -/
  bits : Nat
  /-- The number of continuation bytes. -/
  tails : Nat
  /-- The least first continuation byte. -/
  low : UInt8 := 0x80
  /-- The greatest first continuation byte. -/
  high : UInt8 := 0xBF

/-- The announcement of a lead byte; ASCII bytes announce no tail. -/
def lead? (b : UInt8) : Option Lead :=
  let n := b.toNat
  if n < 0x80 then some { bits := n, tails := 0 }
  else if n < 0xC2 then none
  else if n < 0xE0 then some { bits := n - 0xC0, tails := 1 }
  else if n = 0xE0 then some { bits := 0, tails := 2, low := 0xA0 }
  else if n = 0xED then some { bits := 13, tails := 2, high := 0x9F }
  else if n < 0xF0 then some { bits := n - 0xE0, tails := 2 }
  else if n = 0xF0 then some { bits := 0, tails := 3, low := 0x90 }
  else if n < 0xF4 then some { bits := n - 0xF0, tails := 3 }
  else if n = 0xF4 then some { bits := 4, tails := 3, high := 0x8F }
  else none

/-- Reads the continuation bytes owed; the second component counts the bytes that belong. -/
def readTails (value used : Nat) (low high : UInt8) : Nat → Bytes → Option Char × Nat
  | 0, _ => (some (Char.ofNat value), used)
  | _ + 1, [] => (none, used)
  | owed + 1, b :: rest =>
    if low ≤ b && b ≤ high then
      readTails (value * 64 + (b.toNat - 0x80)) (used + 1) 0x80 0xBF owed rest
    else (none, used)

/-- The glyph at the head of a sequence and its number of bytes. -/
def first (b : UInt8) (rest : Bytes) : Option Char × Nat :=
  match lead? b with
  | none => (none, 1)
  | some l => readTails l.bits 1 l.low l.high l.tails rest

/-- The glyphs after skipping the bytes that the last glyph still covers. -/
def glyphsAfter : Nat → Bytes → List (Option Char × Nat)
  | _, [] => []
  | skip + 1, _ :: rest => glyphsAfter skip rest
  | 0, b :: rest => first b rest :: glyphsAfter ((first b rest).2 - 1) rest

/-- The glyphs of a byte sequence with their byte counts. -/
def glyphs (bytes : Bytes) : List (Option Char × Nat) :=
  glyphsAfter 0 bytes

/-- The text of a byte sequence with U+FFFD for every unreadable part. -/
def decodeLossy (bytes : Bytes) : List Char :=
  (glyphs bytes).map fun g => g.1.getD '\uFFFD'

/-- The text of a byte sequence that is readable throughout. -/
def decode? (bytes : Bytes) : Option (List Char) :=
  (glyphs bytes).mapM Prod.fst

end Registrar.Text.Utf8
