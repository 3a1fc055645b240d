import Registrar.Text.Blank
import Registrar.Text.Decimal
import Registrar.Text.Lines
import Registrar.Text.Pattern
import Registrar.Yaml.Fault

/-!
# Numbers in YAML

Whole numbers are written in base 2, 8, 10 or 16, or as places in base 60 with colons between
them; underscores count for nothing. Of fractions only the forms matter and whether one is zero.

The patterns say which plain scalars are numbers. A text that a tag calls a number is read by
the same functions, which know a few more forms.
-/

namespace Registrar.Yaml

open Text (Pattern)
open Text.Pattern

namespace Number

/-- A sign or none. -/
def sign : Pattern := optional (oneOf "+-")

/-- A digit. -/
def digit : Pattern := oneOf "0123456789"

/-- Digits and underscores behind a first digit. -/
def digits (first : String) : Pattern :=
  seq (oneOf first) (many (oneOf "0123456789_"))

/-- Further places in base 60. -/
def places : Pattern :=
  some' (inRow [char ':', optional (oneOf "012345"), digit])

/-- The plain scalars that are whole numbers. -/
def whole : Pattern :=
  seq sign <| anyOf [
    seq (word "0b") (some' (oneOf "01_")),
    seq (char '0') (some' (oneOf "01234567_")),
    char '0',
    digits "123456789",
    seq (word "0x") (some' (oneOf "0123456789abcdefABCDEF_")),
    seq (digits "123456789") places]

/-- The power of ten behind a fraction; its sign must be there. -/
def power : Pattern :=
  optional (inRow [oneOf "eE", oneOf "+-", some' digit])

/-- The plain scalars that are fractions. -/
def fraction : Pattern :=
  anyOf [
    inRow [sign, digits "0123456789", char '.', many (oneOf "0123456789_"), power],
    inRow [char '.', digits "0123456789", power],
    inRow [sign, digits "0123456789", places, char '.', many (oneOf "0123456789_")],
    inRow [sign, anyWord [".inf", ".Inf", ".INF"]],
    anyWord [".nan", ".NaN", ".NAN"]]

/-- The value of a digit in any base; letters go on after nine. -/
def digitValue? (c : Char) : Option Nat :=
  match Text.decimalValue? c with
  | some n => some n
  | none => if 'a' ≤ c && c ≤ 'z' then some (c.toNat - 0x57)
    else if 'A' ≤ c && c ≤ 'Z' then some (c.toNat - 0x37)
    else none

/-- The value of digits in a base. -/
def natural? (base : Nat) (s : List Char) : Option Nat :=
  if s.isEmpty then none
  else s.foldlM (fun n c => (digitValue? c).bind fun d =>
    if d < base then some (n * base + d) else none) 0

/-- Splits a text into its sign and the rest; true is minus. -/
def splitSign : List Char → Bool × List Char
  | '-' :: rest => (true, rest)
  | '+' :: rest => (false, rest)
  | s => (false, s)

/-- A value with its sign. -/
def signed (minus : Bool) (n : Int) : Int :=
  if minus then -n else n

/-- The letter that may stand behind a zero in front of the digits of a base. -/
def baseLetter : Nat → List Char
  | 2 => ['b', 'B']
  | 8 => ['o', 'O']
  | 16 => ['x', 'X']
  | _ => []

/-- Drops the zero and the letter that announce a base. -/
def dropBase (base : Nat) : List Char → List Char
  | '0' :: c :: rest => if (baseLetter base).contains c then rest else '0' :: c :: rest
  | s => s

/-- The most digits of a number in base ten. -/
def digitLimit : Nat := 4300

/-- Reads a number in a base, with blanks around it and a sign. -/
def inBase (base : Nat) (s : List Char) : Except Fault Int :=
  let (minus, s) := splitSign (Text.trim s)
  let s := dropBase base s
  if base = 10 && digitLimit < s.length then .error .noSuchValue
  else match natural? base s with
    | none => .error .noSuchValue
    | some n => .ok (signed minus n)

/-- The value of places in base 60. -/
def inSixties (parts : List Int) : Int :=
  parts.foldl (fun n part => n * 60 + part) 0

/-- Reads a whole number. -/
def readWhole (text : List Char) : Except Fault Int := do
  let s := text.filter (· ≠ '_')
  if s.isEmpty then throw .emptyNumber
  let (minus, s) := splitSign s
  match s with
  | [] => throw .emptyNumber
  | ['0'] => return 0
  | '0' :: 'b' :: rest => return signed minus (← inBase 2 rest)
  | '0' :: 'x' :: rest => return signed minus (← inBase 16 rest)
  | '0' :: _ => return signed minus (← inBase 8 s)
  | _ =>
    if s.contains ':' then
      return signed minus (inSixties (← (Text.splitAt ':' s).mapM (inBase 10)))
    else return signed minus (← inBase 10 s)

/-- The digits at the head of a text as a number, with how many there are. -/
def leadingDigits (s : List Char) : Nat × Nat × List Char :=
  let digits := s.takeWhile fun c => (Text.decimalValue? c).isSome
  ((natural? 10 digits).getD 0, digits.length, s.drop digits.length)

/-- Reads the exponent of a fraction. -/
def readExponent : List Char → Option Int
  | [] => some 0
  | c :: rest =>
    if c ≠ 'e' then none
    else
      let (minus, rest) := splitSign rest
      match leadingDigits rest with
      | (n, _ + 1, []) => some (signed minus n)
      | _ => none

/-- A number with so many digits, at a power of ten, is too small to tell from zero. The least
number above zero is the 1074th negative power of two, and half of it counts as zero. -/
def vanishes (n : Nat) (exponent : Int) : Bool :=
  let magnitude := (Nat.toDigits 10 n).length + exponent
  n = 0 || magnitude < -323 ||
    (magnitude = -323 && n * Nat.pow 2 1075 ≤ Nat.pow 10 (-exponent).toNat)

/-- Reads a decimal fraction: whether it is zero. -/
def isZeroDecimal? (text : List Char) : Option Bool :=
  let (_, s) := splitSign (Text.trim text)
  if ["inf", "infinity", "nan"].any fun w => s = w.toList then some false
  else
    let (n, count, rest) := leadingDigits s
    match rest with
    | '.' :: rest =>
      let (m, more, rest) := leadingDigits rest
      if count + more = 0 then none
      else (readExponent rest).map fun e => vanishes (n * Nat.pow 10 more + m) (e - more)
    | rest => if count = 0 then none else (readExponent rest).map (vanishes n)

/-- Reads a fraction: whether it is zero. -/
def isZeroFraction (text : List Char) : Except Fault Bool := do
  let s := (text.filter (· ≠ '_')).map Char.toLower
  if s.isEmpty then throw .emptyNumber
  let s := (splitSign s).2
  let parts :=
    if s = ".inf".toList || s = ".nan".toList then some [false]
    else if s.contains ':' then (Text.splitAt ':' s).mapM isZeroDecimal?
    else (isZeroDecimal? s).map fun zero => [zero]
  match parts with
  | none => throw .noSuchValue
  | some zeros => return zeros.all id

end Number

end Registrar.Yaml
