import Registrar.Text.Printable

/-!
# Quoted text

A quoted text stands between single quotes, or between double quotes when it holds a single
quote and no double one. The quote and the backslash get a backslash, tab and the two line ends
their letter, and every other unprintable character its code in lower-case hexadecimal.
-/

namespace Registrar.Text.Quoted

/-- The lower-case hexadecimal digit of a value below sixteen. -/
def hexDigit (n : Nat) : Char :=
  if n < 10 then Char.ofNat (0x30 + n) else Char.ofNat (0x57 + n)

/-- The last `width` hexadecimal digits of a number. -/
def hexDigits : Nat → Nat → List Char
  | 0, _ => []
  | width + 1, n => hexDigits width (n / 16) ++ [hexDigit (n % 16)]

/-- The numeric escape of a character: two, four or eight digits, as many as it needs. -/
def escapeCode (c : Char) : List Char :=
  if c.toNat ≤ 0xFF then '\\' :: 'x' :: hexDigits 2 c.toNat
  else if c.toNat ≤ 0xFFFF then '\\' :: 'u' :: hexDigits 4 c.toNat
  else '\\' :: 'U' :: hexDigits 8 c.toNat

/-- One character between the given quotes; `plain` says which characters show as themselves. -/
def escapeChar (plain : Char → Bool) (quote c : Char) : List Char :=
  if c = quote ∨ c = '\\' then ['\\', c]
  else if c = '\t' then ['\\', 't']
  else if c = '\n' then ['\\', 'n']
  else if c = '\r' then ['\\', 'r']
  else if plain c then [c]
  else escapeCode c

/-- The quote that surrounds a text. -/
def quoteFor (s : List Char) : Char :=
  if s.contains '\'' && !s.contains '"' then '"' else '\''

/-- The quoted form of a text in which the characters of `plain` show as themselves. -/
def encodeWith (plain : Char → Bool) (s : List Char) : List Char :=
  quoteFor s :: s.flatMap (escapeChar plain (quoteFor s)) ++ [quoteFor s]

/-- The quoted form that keeps every printable character. -/
def encode (s : List Char) : List Char :=
  encodeWith isPrintable s

/-- The quoted form in ASCII. -/
def encodeAscii (s : List Char) : List Char :=
  encodeWith (fun c => c.toNat < 0x80 && isPrintable c) s

/-- A list of names, each quoted, between square brackets. -/
def encodeList (names : List String) : String :=
  "[" ++ ", ".intercalate (names.map fun name => String.ofList (encode name.toList)) ++ "]"

end Registrar.Text.Quoted
