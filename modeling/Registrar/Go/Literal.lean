import Registrar.Text.Pattern

/-!
# Literals of Go

The forms of numbers, runes and strings, as patterns of which the longest match counts. Digits
of every base may be parted by single underscores. An escape in a string may stand before any
character but `x`, `u` and `U`, which ask for two, four and eight hexadecimal digits.
-/

namespace Registrar.Go.Literal

open Text (Pattern)
open Text.Pattern

/-- A binary digit. -/
def binaryDigit : Pattern := oneOf "01"

/-- An octal digit. -/
def octalDigit : Pattern := oneOf "01234567"

/-- A decimal digit. -/
def decimalDigit : Pattern := oneOf "0123456789"

/-- A hexadecimal digit. -/
def hexDigit : Pattern := oneOf "0123456789abcdefABCDEF"

/-- An underscore may stand here. -/
def gap : Pattern := optional (char '_')

/-- Digits, parted by single underscores. -/
def digits (digit : Pattern) : Pattern :=
  seq digit (many (seq gap digit))

/-- A number of the given base behind a zero and the letter of the base. -/
def based (letters : String) (digit : Pattern) : Pattern :=
  inRow [char '0', oneOf letters, gap, digits digit]

/-- A decimal whole number. -/
def decimal : Pattern :=
  alt (char '0') (seq (oneOf "123456789") (optional (seq gap (digits decimalDigit))))

/-- A whole number. An octal number may leave out the letter of its base. -/
def whole : Pattern :=
  anyOf [based "bB" binaryDigit, decimal,
    inRow [char '0', optional (oneOf "oO"), gap, digits octalDigit], based "xX" hexDigit]

/-- An exponent behind the given letters. -/
def exponent (letters : String) : Pattern :=
  inRow [oneOf letters, optional (oneOf "+-"), digits decimalDigit]

/-- A decimal fraction. -/
def decimalFraction : Pattern :=
  anyOf [
    inRow [digits decimalDigit, char '.', optional (digits decimalDigit),
      optional (exponent "eE")],
    seq (digits decimalDigit) (exponent "eE"),
    inRow [char '.', digits decimalDigit, optional (exponent "eE")]]

/-- A hexadecimal fraction; its exponent must be there. -/
def hexFraction : Pattern :=
  inRow [char '0', oneOf "xX",
    anyOf [inRow [gap, digits hexDigit, char '.', optional (digits hexDigit)],
      seq gap (digits hexDigit), seq (char '.') (digits hexDigit)],
    exponent "pP"]

/-- A number; the letter `i` makes it imaginary. -/
def number : Pattern :=
  let real := anyOf [whole, decimalFraction, hexFraction]
  alt real (seq (alt (digits decimalDigit) real) (char 'i'))

/-- A rune between single quotes. -/
def rune : Pattern :=
  inRow [char '\'',
    alt (one fun c => c != '\'' && c != '\\')
      (seq (char '\\')
        (anyOf [seq (char 'x') (times 2 hexDigit), times 3 octalDigit,
          seq (char 'u') (times 4 hexDigit), seq (char 'U') (times 8 hexDigit),
          oneOf "abfnrtv\\'\x22"])),
    char '\'']

/-- A string between double quotes. -/
def quotedString : Pattern :=
  let escape := seq (char '\\')
    (anyOf [one fun c => c != 'x' && c != 'u' && c != 'U', seq (char 'x') (times 2 hexDigit),
      seq (char 'u') (times 4 hexDigit), seq (char 'U') (times 8 hexDigit)])
  inRow [char '\x22', many (alt (one fun c => c != '\x22' && c != '\n' && c != '\\') escape),
    char '\x22']

/-- A string between back quotes. -/
def rawString : Pattern :=
  inRow [char '\x60', many (one (· != '\x60')), char '\x60']

end Registrar.Go.Literal
