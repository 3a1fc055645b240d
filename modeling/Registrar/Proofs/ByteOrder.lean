import Mathlib.Algebra.Ring.Nat
import Mathlib.Order.Monotone.Basic
import Mathlib.Tactic.SplitIfs
import Registrar.Text.Utf8

/-!
# The order of bytes

UTF-8 keeps the order of texts: a text stands before another one in code-point order exactly if its
bytes stand before the other's bytes. The bytes of a character are its digits to base 64, the first
of them in a lead byte that is the greater the more digits there are. Of two characters the smaller
one therefore has the smaller byte where their bytes differ first, whatever follows them.
-/

namespace Registrar.Text.Utf8

/-! ## The bytes of a character -/

/-- The continuation bytes of a code point: so many of its last digits to base 64. -/
def tails (v : Nat) : Nat → Bytes
  | 0 => []
  | n + 1 => UInt8.ofNat (v / 64 ^ n % 64 + 0x80) :: tails v n

/-- The number of continuation bytes of a code point. -/
def tailCount (v : Nat) : Nat :=
  if v ≤ 0x7F then 0 else if v ≤ 0x7FF then 1 else if v ≤ 0xFFFF then 2 else 3

/-- The least number in a lead byte in front of so many continuation bytes. -/
def leadMark : Nat → Nat
  | 0 => 0
  | 1 => 0xC0
  | 2 => 0xE0
  | 3 => 0xF0
  | _ => 0xF8

/-- The number in the lead byte of a code point: its first digits above the mark. -/
def leadOf (v : Nat) : Nat :=
  v / 64 ^ tailCount v + leadMark (tailCount v)

theorem tailCount_mono {v w : Nat} (h : v ≤ w) : tailCount v ≤ tailCount w := by
  rw [tailCount, tailCount]
  split_ifs <;> omega

theorem tailCount_le (v : Nat) : tailCount v ≤ 3 := by
  rw [tailCount]
  split_ifs <;> omega

theorem leadMark_mono : Monotone leadMark := by
  apply monotone_nat_of_le_succ
  intro n
  match n with
  | 0 | 1 | 2 | 3 => decide
  | n + 4 => exact Nat.le_refl _

/-- The first digits of a code point do not reach the mark of longer sequences. -/
theorem leadOf_lt {v : Nat} (h : v < 0x110000) : leadOf v < leadMark (tailCount v + 1) := by
  rw [leadOf, tailCount]
  split_ifs <;> simp only [leadMark] <;> omega

theorem leadOf_lt_size {v : Nat} (h : v < 0x110000) : leadOf v < UInt8.size :=
  calc leadOf v
    _ < leadMark (tailCount v + 1) := leadOf_lt h
    _ ≤ leadMark 4 := leadMark_mono (Nat.succ_le_succ (tailCount_le v))
    _ < UInt8.size := by decide

theorem toNat_lt (c : Char) : c.toNat < 0x110000 := by
  rcases c.valid with h | ⟨-, h⟩
  · exact Nat.lt_trans h (by decide)
  · exact h

/-- A character is encoded as its lead byte and its continuation bytes. -/
theorem utf8EncodeChar_eq (c : Char) : String.utf8EncodeChar c =
    UInt8.ofNat (leadOf c.toNat) :: tails c.toNat (tailCount c.toNat) := by
  have hlt := toNat_lt c
  have hval : c.val.toNat = c.toNat := rfl
  rw [String.utf8EncodeChar, leadOf, tailCount]
  simp only [hval]
  split_ifs <;>
    simp only [leadMark, tails, Nat.pow_zero, Nat.reducePow, Nat.div_one, Nat.add_zero]
  · rw [Nat.mod_eq_of_lt (by omega)]
  · rw [Nat.mod_eq_of_lt (by omega)]
  · rw [Nat.mod_eq_of_lt (by omega)]

/-! ## Which bytes come first -/

theorem ofNat_lt_ofNat {a b : Nat} (h : a < b) (hb : b < UInt8.size) :
    UInt8.ofNat a < UInt8.ofNat b := by
  rw [UInt8.lt_iff_toNat_lt, UInt8.toNat_ofNat_of_lt' (Nat.lt_trans h hb),
    UInt8.toNat_ofNat_of_lt' hb]
  exact h

/-- Where the digits in front are alike, the last digits of the smaller number come first. -/
theorem tails_append_lt {v w n : Nat} (h : v < w) (hfront : v / 64 ^ n = w / 64 ^ n)
    (s t : Bytes) : tails v n ++ s < tails w n ++ t := by
  induction n with
  | zero =>
    rw [Nat.pow_zero, Nat.div_one, Nat.div_one] at hfront
    exact absurd hfront (Nat.ne_of_lt h)
  | succ n ih =>
    rw [Nat.pow_succ, ← Nat.div_div_eq_div_mul, ← Nat.div_div_eq_div_mul] at hfront
    have hle : v / 64 ^ n ≤ w / 64 ^ n := Nat.div_le_div_right (Nat.le_of_lt h)
    rw [tails, tails, List.cons_append, List.cons_append, List.cons_lt_cons_iff]
    rcases Nat.lt_or_eq_of_le hle with hlt | heq
    · left
      apply ofNat_lt_ofNat
      · omega
      · simp only [UInt8.size]
        omega
    · right
      rw [heq]
      exact ⟨rfl, ih heq⟩

/-- The lead byte of the smaller number is smaller, or it is the same and so is the number of
continuation bytes. -/
theorem leadOf_cases {v w : Nat} (h : v < w) (hw : w < 0x110000) :
    leadOf v < leadOf w ∨
      leadOf v = leadOf w ∧ tailCount v = tailCount w ∧
        v / 64 ^ tailCount w = w / 64 ^ tailCount w := by
  rcases Nat.lt_or_eq_of_le (tailCount_mono (Nat.le_of_lt h)) with hlt | heq
  · left
    calc leadOf v
      _ < leadMark (tailCount v + 1) := leadOf_lt (Nat.lt_trans h hw)
      _ ≤ leadMark (tailCount w) := leadMark_mono hlt
      _ ≤ leadOf w := Nat.le_add_left _ _
  · have hle : v / 64 ^ tailCount w ≤ w / 64 ^ tailCount w :=
      Nat.div_le_div_right (Nat.le_of_lt h)
    rw [leadOf, leadOf, heq]
    omega

/-- The smaller character has the smaller byte where the bytes of two characters differ first. -/
theorem utf8EncodeChar_append_lt {c d : Char} (h : c < d) (s t : Bytes) :
    String.utf8EncodeChar c ++ s < String.utf8EncodeChar d ++ t := by
  have hlt : c.toNat < d.toNat := h
  rw [utf8EncodeChar_eq, utf8EncodeChar_eq, List.cons_append, List.cons_append,
    List.cons_lt_cons_iff]
  rcases leadOf_cases hlt (toNat_lt d) with hlead | ⟨hlead, hcount, hfront⟩
  · exact .inl (ofNat_lt_ofNat hlead (leadOf_lt_size (toNat_lt d)))
  · right
    rw [hlead, hcount]
    exact ⟨rfl, tails_append_lt hlt hfront s t⟩

/-! ## Texts -/

theorem flatMap_utf8EncodeChar_lt {s t : List Char} (h : s < t) :
    s.flatMap String.utf8EncodeChar < t.flatMap String.utf8EncodeChar := by
  induction s generalizing t with
  | nil =>
    cases t with
    | nil => exact absurd h (List.not_lt_nil _)
    | cons d t =>
      rw [List.flatMap_cons, utf8EncodeChar_eq]
      exact List.nil_lt_cons _ _
  | cons c s ih =>
    cases t with
    | nil => exact absurd h (List.not_lt_nil _)
    | cons d t =>
      rw [List.flatMap_cons, List.flatMap_cons]
      rcases List.cons_lt_cons_iff.mp h with hcd | ⟨rfl, hst⟩
      · exact utf8EncodeChar_append_lt hcd _ _
      · exact List.append_left_lt (ih hst)

/-- The bytes of texts are ordered as the texts are. -/
theorem encode_lt_encode_iff (s t : String) : encode s < encode t ↔ s < t := by
  constructor
  · intro h
    by_contra hst
    by_cases hts : t < s
    · exact List.lt_asymm h (flatMap_utf8EncodeChar_lt hts)
    · rw [String.le_antisymm (String.not_lt.mp hts) (String.not_lt.mp hst)] at h
      exact List.lt_irrefl _ h
  · exact fun h => flatMap_utf8EncodeChar_lt h

end Registrar.Text.Utf8
