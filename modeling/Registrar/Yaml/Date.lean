import Registrar.Text.Pattern
import Registrar.Yaml.Fault

/-!
# Dates in YAML

A date has a year, a month and a day, and may have a time and a distance from Greenwich. What a
date is does not matter here, only whether there is one.
-/

namespace Registrar.Yaml

open Text (Pattern)
open Text.Pattern

namespace Date

/-- A digit. -/
def digit : Pattern := oneOf "0123456789"

/-- One digit or two. -/
def oneOrTwo : Pattern := seq digit (optional digit)

/-- Spaces and tabs. -/
def blank : Pattern := oneOf " \t"

/-- The time behind a day. -/
def time : Pattern :=
  inRow [alt (oneOf "Tt") (some' blank), oneOrTwo, char ':', times 2 digit, char ':',
    times 2 digit, optional (seq (char '.') (many digit)),
    optional (seq (many blank) (alt (char 'Z')
      (inRow [oneOf "+-", oneOrTwo, optional (seq (char ':') (times 2 digit))])))]

/-- The plain scalars that are dates. -/
def plain : Pattern :=
  alt (inRow [times 4 digit, char '-', times 2 digit, char '-', times 2 digit])
    (inRow [times 4 digit, char '-', oneOrTwo, char '-', oneOrTwo, time])

/-- The texts that a tag may call dates. -/
def tagged : Pattern :=
  inRow [times 4 digit, char '-', oneOrTwo, char '-', oneOrTwo, optional time]

/-- The runs of digits in a text as numbers. -/
def numbers (s : List Char) : List Nat :=
  let (found, last) := s.foldl
    (fun (state : List Nat × Option Nat) c =>
      if c.isDigit then
        (state.1, some (state.2.getD 0 * 10 + (c.toNat - 0x30)))
      else (state.1 ++ state.2.toList, none)) ([], none)
  found ++ last.toList

/-- A year with a 29th of February. -/
def isLeapYear (year : Nat) : Bool :=
  year % 4 = 0 && (year % 100 ≠ 0 || year % 400 = 0)

/-- The number of days of a month. -/
def daysIn (year month : Nat) : Nat :=
  if month = 2 then (if isLeapYear year then 29 else 28)
  else if [4, 6, 9, 11].contains month then 30
  else 31

/-- A day of the calendar. -/
def isDay (year month day : Nat) : Bool :=
  0 < year && 1 ≤ month && month ≤ 12 && 1 ≤ day && day ≤ daysIn year month

/-- The signs and digits of the distance from Greenwich in the time of a date. -/
def zone (s : List Char) : List Char :=
  (s.dropWhile fun c => c ≠ ':').dropWhile fun c => c ≠ '+' && c ≠ '-'

/-- A distance from Greenwich of less than a day. -/
def isZone (zone : List Char) : Bool :=
  match numbers zone with
  | [hours] => hours < 24
  | hours :: minutes :: _ => hours * 60 + minutes < 24 * 60
  | [] => true

/-- There is such a date. -/
def check (s : List Char) : Except Fault Unit :=
  if !tagged.accepts s then .error .notDate
  else
    let ok := match numbers s with
      | [year, month, day] => isDay year month day
      | year :: month :: day :: hour :: minute :: second :: _ =>
        isDay year month day && hour < 24 && minute < 60 && second < 60 && isZone (zone s)
      | _ => false
    if ok then .ok () else .error .noSuchValue

end Date

end Registrar.Yaml
