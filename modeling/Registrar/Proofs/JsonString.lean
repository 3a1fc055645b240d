import Mathlib.Data.List.Basic
import Mathlib.Data.Nat.Init
import Registrar.Text.Json

/-!
# Reading JSON strings back

Behind its opening quote a string is read as UTF-16 units, which an escape can give directly, up to
the next quote that is not escaped; of the units, a pair of surrogates is one character and a
surrogate alone is none. A written string is pure ASCII, and its characters are read back whatever
they are.
-/

namespace Registrar.Text

namespace Json

/-! ### UTF-16 -/

/-- The characters of a list of UTF-16 units; none if a surrogate stands alone. -/
def decodeUnits? : List Nat → Option (List Char)
  | [] => some []
  | u :: rest =>
    if u < 0xD800 ∨ 0xE000 ≤ u then (decodeUnits? rest).map (Char.ofNat u :: ·)
    else match rest with
      | [] => none
      | v :: rest =>
        if u < 0xDC00 ∧ 0xDC00 ≤ v ∧ v < 0xE000 then
          (decodeUnits? rest).map
            (Char.ofNat (0x10000 + (u - 0xD800) * 0x400 + (v - 0xDC00)) :: ·)
        else none

/-- The units of a character stand for the character. -/
theorem decodeUnits?_units_append (c : Char) (rest : List Nat) :
    decodeUnits? (units c ++ rest) = (decodeUnits? rest).map (c :: ·) := by
  have hvalid : c.toNat < 0xD800 ∨ 0xDFFF < c.toNat ∧ c.toNat < 0x110000 := c.valid
  rw [units]
  split
  · rename_i hsmall
    have hunit : c.toNat < 0xD800 ∨ 0xE000 ≤ c.toNat := by omega
    rw [List.singleton_append, decodeUnits?.eq_def]
    simp only [if_pos hunit, Char.ofNat_toNat]
  · rename_i hlarge
    have hhigh : ¬ (0xD800 + (c.toNat - 0x10000) / 0x400 < 0xD800 ∨
        0xE000 ≤ 0xD800 + (c.toNat - 0x10000) / 0x400) := by omega
    have hpair : 0xD800 + (c.toNat - 0x10000) / 0x400 < 0xDC00 ∧
        0xDC00 ≤ 0xDC00 + (c.toNat - 0x10000) % 0x400 ∧
        0xDC00 + (c.toNat - 0x10000) % 0x400 < 0xE000 := by omega
    have hvalue : 0x10000 + (0xD800 + (c.toNat - 0x10000) / 0x400 - 0xD800) * 0x400 +
        (0xDC00 + (c.toNat - 0x10000) % 0x400 - 0xDC00) = c.toNat := by omega
    rw [List.cons_append, List.singleton_append, decodeUnits?.eq_def]
    simp only [if_neg hhigh, if_pos hpair, hvalue, Char.ofNat_toNat]

/-- The units of a text stand for the text. -/
theorem decodeUnits?_flatMap_units (cs : List Char) : decodeUnits? (cs.flatMap units) = some cs := by
  induction cs with
  | nil => rfl
  | cons c cs ih => rw [List.flatMap_cons, decodeUnits?_units_append, ih, Option.map_some]

/-! ### Strings -/

/-- The value of a hexadecimal digit. -/
def hexValue? (c : Char) : Option Nat :=
  if '0' ≤ c ∧ c ≤ '9' then some (c.toNat - 0x30)
  else if 'a' ≤ c ∧ c ≤ 'f' then some (c.toNat - 0x57)
  else if 'A' ≤ c ∧ c ≤ 'F' then some (c.toNat - 0x37)
  else none

/-- The unit of an escape with one letter. -/
def letterUnit? (c : Char) : Option Nat :=
  if c = '"' ∨ c = '\\' ∨ c = '/' then some c.toNat
  else if c = 'b' then some 0x08
  else if c = 'f' then some 0x0C
  else if c = 'n' then some 0x0A
  else if c = 'r' then some 0x0D
  else if c = 't' then some 0x09
  else none

/-- The units of the character or escape that a text starts with, and the text behind it. Quotes and
control characters do not stand for themselves. -/
def readUnit? : List Char → Option (List Nat × List Char)
  | '\\' :: 'u' :: a :: b :: c :: d :: rest => do
    return ([(((← hexValue? a) * 16 + (← hexValue? b)) * 16 + (← hexValue? c)) * 16 +
      (← hexValue? d)], rest)
  | '\\' :: c :: rest => (letterUnit? c).map fun u => ([u], rest)
  | c :: rest => if c = '"' ∨ c = '\\' ∨ c.toNat < 0x20 then none else some (units c, rest)
  | [] => none

/-- What stands behind a character is shorter than the text. -/
theorem length_lt_of_readUnit? {text rest : List Char} {us : List Nat}
    (h : readUnit? text = some (us, rest)) : rest.length < text.length := by
  rw [readUnit?.eq_def] at h
  split at h
  · simp only [Option.bind_eq_bind, Option.bind_eq_some_iff, Option.pure_def, Option.some.injEq,
      Prod.mk.injEq] at h
    obtain ⟨-, -, -, -, -, -, -, -, -, rfl⟩ := h
    simp only [List.length_cons]
    omega
  · obtain ⟨u, -, h⟩ := Option.map_eq_some_iff.mp h
    cases h
    simp only [List.length_cons]
    omega
  · split at h
    · cases h
    · cases h
      simp
  · cases h

/-- The units of a string up to its quote, and the text behind it. -/
def readUnits? (text : List Char) : Option (List Nat × List Char) :=
  match _h : readUnit? text with
  | some (us, rest) => (readUnits? rest).map fun read => (us ++ read.1, read.2)
  | none =>
    match text with
    | '"' :: rest => some ([], rest)
    | _ => none
termination_by text.length
decreasing_by exact length_lt_of_readUnit? _h

/-- A quote ends a string. -/
theorem readUnits?_quote (rest : List Char) : readUnits? ('"' :: rest) = some ([], rest) := by
  rw [readUnits?]
  rfl

/-- A string goes on behind a character. -/
theorem readUnits?_of_readUnit? {text rest : List Char} {us : List Nat}
    (h : readUnit? text = some (us, rest)) :
    readUnits? text = (readUnits? rest).map fun read => (us ++ read.1, read.2) := by
  rw [readUnits?]
  split
  · simp_all
  · simp_all

/-- What stands behind a string is shorter than the text. -/
theorem length_lt_of_readUnits? {text rest : List Char} {us : List Nat}
    (h : readUnits? text = some (us, rest)) : rest.length < text.length := by
  fun_induction readUnits? text generalizing us with
  | case1 text vs behind hunit ih =>
    obtain ⟨⟨ws, rest'⟩, hread, heq⟩ := Option.map_eq_some_iff.mp h
    cases heq
    have hlonger := length_lt_of_readUnit? hunit
    have hshorter := ih hread
    omega
  | case2 rest' hunit =>
    cases h
    simp
  | case3 text hunit hquote => cases h

/-- The value of a hexadecimal digit is read off it. -/
theorem hexValue?_hexDigit {n : Nat} (h : n < 16) : hexValue? (Quoted.hexDigit n) = some n := by
  revert n
  decide

/-- A unit is read from its four digits. -/
theorem readUnit?_escape {u : Nat} (h : u < 0x10000) (rest : List Char) :
    readUnit? ('\\' :: 'u' :: Quoted.hexDigits 4 u ++ rest) = some ([u], rest) := by
  have hvalue : ∀ n, hexValue? (Quoted.hexDigit (n % 16)) = some (n % 16) :=
    fun n => hexValue?_hexDigit (Nat.mod_lt n (by decide))
  have hsum : ((u / 16 / 16 / 16 % 16 * 16 + u / 16 / 16 % 16) * 16 + u / 16 % 16) * 16 + u % 16 =
      u := by omega
  simp only [Quoted.hexDigits, List.nil_append, List.cons_append, readUnit?, hvalue,
    Option.bind_eq_bind, Option.bind_some, Option.pure_def, hsum]

/-- Escapes of units are read as these units. -/
theorem readUnits?_escapes {us : List Nat} (h : ∀ u ∈ us, u < 0x10000) (rest : List Char) :
    readUnits? ((us.flatMap fun u => '\\' :: 'u' :: Quoted.hexDigits 4 u) ++ rest) =
      (readUnits? rest).map fun read => (us ++ read.1, read.2) := by
  induction us with
  | nil => simp
  | cons u us ih =>
    obtain ⟨hu, hus⟩ := List.forall_mem_cons.mp h
    rw [List.flatMap_cons, List.append_assoc, readUnits?_of_readUnit? (readUnit?_escape hu _),
      ih hus, Option.map_map]
    rfl

/-- The units of a character are at most two bytes long. -/
theorem units_lt (c : Char) : ∀ u ∈ units c, u < 0x10000 := by
  have hvalid : c.toNat < 0xD800 ∨ 0xDFFF < c.toNat ∧ c.toNat < 0x110000 := c.valid
  intro u hu
  rw [units] at hu
  split at hu
  · rw [List.mem_singleton] at hu
    omega
  · simp only [List.mem_cons, List.not_mem_nil, or_false] at hu
    omega

/-- A character that needs no escape is read as its units. -/
theorem readUnit?_plain {c : Char} (hquote : c ≠ '"') (hslash : c ≠ '\\') (hplain : 0x20 ≤ c.toNat)
    (rest : List Char) : readUnit? (c :: rest) = some (units c, rest) := by
  have hkept : ¬ (c = '"' ∨ c = '\\' ∨ c.toNat < 0x20) := by simp [hquote, hslash, hplain]
  rw [readUnit?.eq_def]
  split
  · rename_i heq
    exact absurd (List.cons.inj heq).1 hslash
  · rename_i heq
    exact absurd (List.cons.inj heq).1 hslash
  · rename_i heq
    cases heq
    rw [if_neg hkept]
  · rename_i heq
    cases heq

/-- A written character is read as its units. -/
theorem readUnits?_escapeChar (c : Char) (rest : List Char) :
    readUnits? (escapeChar c ++ rest) =
      (readUnits? rest).map fun read => (units c ++ read.1, read.2) := by
  rw [escapeChar]
  split_ifs with hmark hline hreturn htab hfeed hback hplain
  · rcases hmark with rfl | rfl
    · exact readUnits?_of_readUnit? rfl
    · exact readUnits?_of_readUnit? rfl
  · exact hline ▸ readUnits?_of_readUnit? rfl
  · exact hreturn ▸ readUnits?_of_readUnit? rfl
  · exact htab ▸ readUnits?_of_readUnit? rfl
  · exact hfeed ▸ readUnits?_of_readUnit? rfl
  · exact hback ▸ readUnits?_of_readUnit? rfl
  · rw [not_or] at hmark
    exact readUnits?_of_readUnit? (readUnit?_plain hmark.1 hmark.2 hplain.1 rest)
  · exact readUnits?_escapes (units_lt c) rest

/-- The string behind a quote, up to the closing quote, and the text behind it. -/
def readString? (text : List Char) : Option (String × List Char) := do
  let (us, rest) ← readUnits? text
  let cs ← decodeUnits? us
  return (String.ofList cs, rest)

/-- What stands behind a string is shorter than the text. -/
theorem length_lt_of_readString? {text rest : List Char} {s : String}
    (h : readString? text = some (s, rest)) : rest.length < text.length := by
  simp only [readString?, Option.bind_eq_bind, Option.bind_eq_some_iff, Option.pure_def,
    Option.some.injEq, Prod.mk.injEq, Prod.exists] at h
  obtain ⟨us, behind, hunits, cs, -, -, rfl⟩ := h
  exact length_lt_of_readUnits? hunits

/-- The written characters of a text are read as its units. -/
theorem readUnits?_flatMap_escapeChar (cs rest : List Char) :
    readUnits? (cs.flatMap escapeChar ++ '"' :: rest) = some (cs.flatMap units, rest) := by
  induction cs with
  | nil => exact readUnits?_quote rest
  | cons c cs ih =>
    rw [List.flatMap_cons, List.append_assoc, readUnits?_escapeChar, ih]
    rfl

/-- A written string is read back. -/
theorem readString?_quote (s : String) (rest : List Char) :
    ∃ text, quote s ++ rest = '"' :: text ∧ readString? text = some (s, rest) := by
  refine ⟨s.toList.flatMap escapeChar ++ '"' :: rest, ?_, ?_⟩
  · simp [quote]
  · simp only [readString?, readUnits?_flatMap_escapeChar, Option.bind_eq_bind, Option.bind_some,
      decodeUnits?_flatMap_units, Option.pure_def, String.ofList_toList]

/-! ### ASCII -/

/-- A text of ASCII characters. -/
def IsAscii (text : List Char) : Prop :=
  ∀ c ∈ text, c.toNat < 0x80

@[simp]
theorem isAscii_nil : IsAscii [] := by
  simp [IsAscii]

@[simp]
theorem isAscii_cons (c : Char) (text : List Char) :
    IsAscii (c :: text) ↔ c.toNat < 0x80 ∧ IsAscii text :=
  List.forall_mem_cons

@[simp]
theorem isAscii_append (front back : List Char) :
    IsAscii (front ++ back) ↔ IsAscii front ∧ IsAscii back :=
  List.forall_mem_append

/-- Hexadecimal digits are ASCII. -/
theorem isAscii_hexDigits (width n : Nat) : IsAscii (Quoted.hexDigits width n) := by
  have hdigit : ∀ d < 16, (Quoted.hexDigit d).toNat < 0x80 := by decide
  induction width generalizing n with
  | zero => exact isAscii_nil
  | succ width ih => simp [Quoted.hexDigits, ih, hdigit _ (Nat.mod_lt n (by decide))]

/-- Escapes of units are ASCII. -/
theorem isAscii_escapes (us : List Nat) :
    IsAscii (us.flatMap fun u => '\\' :: 'u' :: Quoted.hexDigits 4 u) := by
  induction us with
  | nil => exact isAscii_nil
  | cons u us ih => simp [ih, isAscii_hexDigits]

/-- A written character is ASCII. -/
theorem isAscii_escapeChar (c : Char) : IsAscii (escapeChar c) := by
  rw [escapeChar]
  split_ifs with hmark hline hreturn htab hfeed hback hplain
  · rcases hmark with rfl | rfl <;> simp
  · simp
  · simp
  · simp
  · simp
  · simp
  · rw [isAscii_cons]
    exact ⟨by omega, isAscii_nil⟩
  · exact isAscii_escapes _

/-- A written string is ASCII. -/
theorem isAscii_quote (s : String) : IsAscii (quote s) := by
  have hchars : IsAscii (s.toList.flatMap escapeChar) := by
    intro c hc
    obtain ⟨d, -, hc⟩ := List.mem_flatMap.mp hc
    exact isAscii_escapeChar d c hc
  simp [quote, hchars]

end Json

end Registrar.Text
