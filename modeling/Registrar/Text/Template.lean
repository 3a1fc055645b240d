import Registrar.Text.Decimal
import Registrar.Text.Quoted

/-!
# Templates with named fields

A template is literal text with fields between braces; a brace that is text is doubled. A field
names a value, can pick single characters of it by index, can quote it, and can pad or cut it by
a layout after a colon. The layout may itself hold fields, one level deep.

A field can also take an attribute of a text. What attributes a text has, and how they are written,
is not fixed here but given: they can show where a text lies in memory, which changes from run to
run. `takesAttribute` says whether a template depends on them.

`parse` cuts a template into pieces and `expand` writes the pieces in order, so of two faults the
one further left is reported. What a field inserts is written as it is and never read again.
-/

namespace Registrar.Text.Template

/-- Why a template cannot be written. -/
inductive Error where
  /-- The template or a layout is not well formed. -/
  | malformed
  /-- A field names no value. -/
  | unknownName (name : String)
  /-- A field is numbered, but values have names only. -/
  | position
  /-- An index lies beyond the end of the value. -/
  | index
  /-- An index is no number. -/
  | textIndex
  /-- There is no such attribute. -/
  | attribute
  /-- An attribute takes no index, or no layout. -/
  | unfit
  deriving DecidableEq, Repr

/-- A field between braces. -/
structure Field where
  /-- The name with its indices. -/
  name : List Char
  /-- The letter after the exclamation mark. -/
  conversion : Option Char
  /-- The layout after the colon. -/
  layout : List Char
  deriving DecidableEq, Repr

/-- A part of a template. -/
inductive Piece where
  /-- A literal character. -/
  | char (c : Char)
  /-- A field. -/
  | field (f : Field)
  /-- The rest of the template cannot be read. -/
  | malformed
  deriving DecidableEq, Repr

/-- Reads a field name up to the brace, colon or exclamation mark behind it. Between square
brackets these characters belong to the name. -/
def readName (inIndex : Bool) : List Char → Option (List Char × Char × List Char)
  | [] => none
  | c :: rest =>
    if inIndex then
      (readName (c ≠ ']') rest).map fun (name, stop, rest) => (c :: name, stop, rest)
    else if c = '{' then none
    else if c = '}' ∨ c = ':' ∨ c = '!' then some ([], c, rest)
    else (readName (c = '[') rest).map fun (name, stop, rest) => (c :: name, stop, rest)

/-- Reads a layout up to the brace that closes its field; `depth` counts the fields inside the
layout that are still open. -/
def readLayout (depth : Nat) : List Char → Option (List Char × List Char)
  | [] => none
  | c :: rest =>
    if c = '{' then (readLayout (depth + 1) rest).map fun (l, rest) => (c :: l, rest)
    else if c = '}' then
      match depth with
      | 0 => some ([], rest)
      | d + 1 => (readLayout d rest).map fun (l, rest) => (c :: l, rest)
    else (readLayout depth rest).map fun (l, rest) => (c :: l, rest)

/-- Reads a field behind its opening brace. -/
def readField (s : List Char) : Option (Field × List Char) :=
  match readName false s with
  | none => none
  | some (name, '}', rest) => some (⟨name, none, []⟩, rest)
  | some (name, ':', rest) =>
    (readLayout 0 rest).map fun (layout, rest) => (⟨name, none, layout⟩, rest)
  | some (name, _, rest) =>
    match rest with
    | c :: '}' :: rest => some (⟨name, some c, []⟩, rest)
    | c :: ':' :: rest =>
      (readLayout 0 rest).map fun (layout, rest) => (⟨name, some c, layout⟩, rest)
    | _ => none

theorem readName_length {b : Bool} {s name rest : List Char} {stop : Char}
    (h : readName b s = some (name, stop, rest)) : rest.length < s.length := by
  induction s generalizing b name with
  | nil => simp [readName] at h
  | cons c tail ih =>
    unfold readName at h
    split at h
    · obtain ⟨⟨n, t, r⟩, hr, he⟩ := Option.map_eq_some_iff.mp h
      cases he
      exact Nat.lt_succ_of_lt (ih hr)
    · split at h
      · simp at h
      · split at h
        · cases h
          exact Nat.lt_succ_self _
        · obtain ⟨⟨n, t, r⟩, hr, he⟩ := Option.map_eq_some_iff.mp h
          cases he
          exact Nat.lt_succ_of_lt (ih hr)

theorem readLayout_length {depth : Nat} {s layout rest : List Char}
    (h : readLayout depth s = some (layout, rest)) : rest.length < s.length := by
  induction s generalizing depth layout with
  | nil => simp [readLayout] at h
  | cons c tail ih =>
    unfold readLayout at h
    split at h
    · obtain ⟨⟨l, r⟩, hr, he⟩ := Option.map_eq_some_iff.mp h
      cases he
      exact Nat.lt_succ_of_lt (ih hr)
    · split at h
      · split at h
        · cases h
          exact Nat.lt_succ_self _
        · obtain ⟨⟨l, r⟩, hr, he⟩ := Option.map_eq_some_iff.mp h
          cases he
          exact Nat.lt_succ_of_lt (ih hr)
      · obtain ⟨⟨l, r⟩, hr, he⟩ := Option.map_eq_some_iff.mp h
        cases he
        exact Nat.lt_succ_of_lt (ih hr)

/-- A field takes at least its closing brace. -/
theorem readField_length {s rest : List Char} {f : Field} (h : readField s = some (f, rest)) :
    rest.length < s.length := by
  unfold readField at h
  split at h
  · simp at h
  · rename_i hn
    cases h
    exact readName_length hn
  · rename_i hn
    obtain ⟨⟨l, r⟩, hr, he⟩ := Option.map_eq_some_iff.mp h
    cases he
    exact Nat.lt_trans (readLayout_length hr) (readName_length hn)
  · rename_i hn
    have hlen := readName_length hn
    split at h
    · cases h
      simp only [List.length_cons] at hlen
      omega
    · obtain ⟨⟨l, r⟩, hr, he⟩ := Option.map_eq_some_iff.mp h
      cases he
      have := readLayout_length hr
      simp only [List.length_cons] at hlen
      omega
    · simp at h

/-- The pieces of a template; nothing follows a malformed one. -/
def parse : List Char → List Piece
  | [] => []
  | '{' :: '{' :: rest => .char '{' :: parse rest
  | '}' :: '}' :: rest => .char '}' :: parse rest
  | '}' :: _ => [.malformed]
  | '{' :: rest =>
    match h : readField rest with
    | none => [.malformed]
    | some (f, rest') =>
      have := readField_length h
      .field f :: parse rest'
  | c :: rest => .char c :: parse rest
termination_by s => s.length

/-- Where the value stands in a wider field. -/
inductive Align where
  | left
  | right
  | center
  deriving DecidableEq, Repr

/-- How a value is padded and cut. -/
structure Layout where
  /-- The padding character. -/
  fill : Char := ' '
  /-- Where the value stands. -/
  align : Align := .left
  /-- The least width. -/
  width : Nat := 0
  /-- The greatest number of characters of the value that are written. -/
  limit : Option Nat := none

/-- An alignment character. The equals sign is one too, but no text can be aligned by it. -/
def align? : Char → Option (Option Align)
  | '<' => some (some .left)
  | '>' => some (some .right)
  | '^' => some (some .center)
  | '=' => some none
  | _ => none

/-- Reads a number at the head of a layout, none when it is too large; without digits the
number is missing and nothing is read. -/
def readNumber (s : List Char) : Option (Option Nat × List Char) :=
  let digits := s.takeWhile fun c => (decimalValue? c).isSome
  match numeral digits with
  | .tooLarge => none
  | .notNumeral => some (none, s)
  | .value n => some (some n, s.drop digits.length)

/-- Reads the limit and the type letter at the end of a layout. -/
def readLimit (layout : Layout) : List Char → Option Layout
  | [] => some layout
  | ['s'] => some layout
  | '.' :: rest =>
    match readNumber rest with
    | some (some n, []) => some { layout with limit := some n }
    | some (some n, ['s']) => some { layout with limit := some n }
    | _ => none
  | _ => none

/-- Reads a layout behind its alignment. A zero in front of the width is the padding character,
unless another one is given. -/
def readWidth (layout : Layout) (filled : Bool) (s : List Char) : Option Layout :=
  let (layout, s) := match s with
    | '0' :: rest => if filled then (layout, s) else ({ layout with fill := '0' }, rest)
    | _ => (layout, s)
  match readNumber s with
  | none => none
  | some (width, rest) => readLimit { layout with width := width.getD 0 } rest

/-- Reads a whole layout. Signs, separators of thousands and types other than text are refused. -/
def readWhole (s : List Char) : Option Layout :=
  match s with
  | fill :: a :: rest =>
    match align? a with
    | some align => align.bind fun align => readWidth { fill, align } true rest
    | none =>
      match align? fill with
      | some align => align.bind fun align => readWidth { align } false (a :: rest)
      | none => readWidth {} false s
  | [a] =>
    match align? a with
    | some align => align.map fun align => { align }
    | none => readWidth {} false s
  | [] => some {}

/-- Writes a value in its layout. -/
def Layout.apply (l : Layout) (value : List Char) : List Char :=
  let value := match l.limit with
    | some n => value.take n
    | none => value
  let missing := l.width - value.length
  let before := match l.align with
    | .left => 0
    | .right => missing
    | .center => missing / 2
  List.replicate before l.fill ++ value ++ List.replicate (missing - before) l.fill

/-- What a field stands for: a text, or something that an attribute leads to. -/
structure Object where
  /-- It as a text. -/
  text : List Char
  /-- It in quotes. -/
  quoted : List Char
  /-- It in quotes and in ASCII. -/
  quotedAscii : List Char
  /-- It in a layout. -/
  laidOut : List Char → Except Error (List Char)

/-- A text is padded and cut by its layout. -/
def Object.ofText (s : List Char) : Object :=
  { text := s
    quoted := Quoted.encode s
    quotedAscii := Quoted.encodeAscii s
    laidOut := fun layout =>
      match readWhole layout with
      | none => .error .malformed
      | some l => .ok (l.apply s) }

/-- What stands behind a text and a point: the attribute that is named there, with what is picked
from it in turn. -/
abbrev Attributes := List Char → List Char → Except Error Object

/-- Texts without attributes. -/
def noAttributes : Attributes :=
  fun _ _ => .error .attribute

/-- The characters of a field name in front of what is picked. -/
def isHead (c : Char) : Bool :=
  c ≠ '.' && c ≠ '['

theorem length_lt_of_dropWhile {s after : List Char} {test : Char → Bool} {c : Char}
    (h : s.dropWhile test = c :: after) : after.length < s.length := by
  have hsublist : (c :: after).Sublist s := h ▸ List.dropWhile_sublist test
  exact hsublist.length_le

section Values

variable (attributes : Attributes)

/-- Picks characters and attributes of a text, as a field asks for behind its name. -/
def pick (value : List Char) : List Char → Except Error Object
  | [] => .ok (.ofText value)
  | '.' :: rest =>
    if (rest.takeWhile isHead).isEmpty then .error .malformed
    else attributes value rest
  | '[' :: rest =>
    match h : rest.dropWhile (· ≠ ']') with
    | [] => .error .malformed
    | _ :: after =>
      have := length_lt_of_dropWhile h
      let inside := rest.takeWhile (· ≠ ']')
      match numeral inside with
      | .tooLarge => .error .malformed
      | .notNumeral => if inside.isEmpty then .error .malformed else .error .textIndex
      | .value n =>
        match value[n]? with
        | none => .error .index
        | some c => pick [c] after
  | _ :: _ => .error .malformed
termination_by s => s.length

/-- What a field name stands for. -/
def resolve (lookup : String → Option String) (name : List Char) : Except Error Object :=
  let head := name.takeWhile isHead
  match numeral head with
  | .tooLarge => .error .malformed
  | .value _ => .error .position
  | .notNumeral =>
    if head.isEmpty then .error .position
    else match lookup (String.ofList head) with
      | none => .error (.unknownName (String.ofList head))
      | some value => pick attributes value.toList (name.dropWhile isHead)

/-- Applies the conversion of a field: quoted, quoted in ASCII, as a text, or as it is. -/
def convert : Option Char → Object → Except Error Object
  | none, value => .ok value
  | some 's', value => .ok (.ofText value.text)
  | some 'r', value => .ok (.ofText value.quoted)
  | some 'a', value => .ok (.ofText value.quotedAscii)
  | some _, _ => .error .malformed

/-- Writes one field, given how a layout that holds fields is written. -/
def expandField (lookup : String → Option String)
    (expandLayout : List Char → Except Error (List Char)) (f : Field) :
    Except Error (List Char) := do
  let value ← resolve attributes lookup f.name
  let value ← convert f.conversion value
  let layout ← if f.layout.contains '{' then expandLayout f.layout else pure f.layout
  value.laidOut layout

/-- Writes the pieces of a template, given how a layout that holds fields is written. -/
def expandPieces (lookup : String → Option String)
    (expandLayout : List Char → Except Error (List Char)) :
    List Piece → Except Error (List Char)
  | [] => .ok []
  | .char c :: rest => do
    return c :: (← expandPieces lookup expandLayout rest)
  | .malformed :: _ => .error .malformed
  | .field f :: rest => do
    let value ← expandField attributes lookup expandLayout f
    return value ++ (← expandPieces lookup expandLayout rest)

/-- Writes a layout that holds fields; the depth bounds how often one may stand in another. -/
def expandLayout (lookup : String → Option String) : Nat → List Char → Except Error (List Char)
  | 0, _ => .error .malformed
  | depth + 1, layout =>
    expandPieces attributes lookup (expandLayout lookup depth) (parse layout)

/-- The text of a template under the given values. -/
def expand (lookup : String → Option String) (template : String) : Except Error String :=
  (expandPieces attributes lookup (expandLayout attributes lookup 1) (parse template.toList)).map
    String.ofList

end Values

/-! ### Templates that take no attribute -/

/-- An attribute is asked for behind a field name. -/
def asksAttribute : List Char → Bool
  | '.' :: _ => true
  | '[' :: rest =>
    match h : rest.dropWhile (· ≠ ']') with
    | [] => false
    | _ :: after =>
      have := length_lt_of_dropWhile h
      asksAttribute after
  | _ => false
termination_by s => s.length

/-- A field takes an attribute itself or in its layout, given which layouts do. -/
def Field.takesAttribute (layoutTakes : List Char → Bool) (f : Field) : Bool :=
  asksAttribute (f.name.dropWhile isHead) || f.layout.contains '{' && layoutTakes f.layout

/-- Some of the pieces of a template take an attribute, given which layouts do. -/
def piecesTake (layoutTakes : List Char → Bool) (pieces : List Piece) : Bool :=
  pieces.any fun
    | .field f => f.takesAttribute layoutTakes
    | _ => false

/-- A layout takes an attribute; the depth bounds how often one may stand in another. -/
def layoutTakes : Nat → List Char → Bool
  | 0, _ => false
  | depth + 1, layout => piecesTake (layoutTakes depth) (parse layout)

/-- A template takes an attribute. -/
def takesAttribute (template : String) : Bool :=
  piecesTake (layoutTakes 1) (parse template.toList)

end Registrar.Text.Template
