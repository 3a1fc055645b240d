/-!
# Base64 text

Only two facts about such a text are asked for: whether it can be decoded, and whether it stands
for no bytes at all. Characters of no digit are passed over. Two padding marks that complete a
group of four end the text, and what is behind them is not read.
-/

namespace Registrar.Text.Base64

/-- A digit in base 64. -/
def isDigit (c : Char) : Bool :=
  c.isAlphanum || c == '+' || c == '/'

/-- Counts the digits of a text behind some digits and padding marks; none if a group of four
stays incomplete. -/
def digitsFrom (digits pads : Nat) : List Char → Option Nat
  | [] => if digits % 4 = 0 then some digits else none
  | c :: rest =>
    if c == '=' then
      if 2 ≤ digits % 4 then
        if 4 ≤ digits % 4 + (pads + 1) then some digits else digitsFrom digits (pads + 1) rest
      else digitsFrom digits pads rest
    else if isDigit c then digitsFrom (digits + 1) 0 rest
    else digitsFrom digits pads rest

/-- Whether a text stands for no bytes; none if it cannot be decoded. -/
def isEmpty? (s : List Char) : Option Bool :=
  if s.all fun c => c.toNat < 0x80 then (digitsFrom 0 0 s).map (· < 2) else none

end Registrar.Text.Base64
