import Mathlib.Algebra.Group.Nat.Defs
import Mathlib.Data.List.Infix
import Registrar.Text.Utf8

/-!
# ASCII in decoded bytes

An ASCII byte is never part of a longer glyph, whatever stands in front of it, so it is decoded to
its own character and the bytes on either side of it are decoded on their own. No other bytes are
decoded to an ASCII character: what a longer sequence encodes is larger, and unreadable bytes give
U+FFFD. So an ASCII text occurs in decoded bytes exactly where its own bytes occur.
-/

namespace Registrar.Text.Utf8

/-! ## Decoding step by step -/

theorem glyphsAfter_eq_drop (skip : Nat) (bytes : Bytes) :
    glyphsAfter skip bytes = glyphs (bytes.drop skip) := by
  induction bytes generalizing skip with
  | nil => cases skip <;> rfl
  | cons b rest ih =>
    cases skip with
    | zero => rfl
    | succ skip => exact ih skip

theorem glyphs_cons (b : UInt8) (rest : Bytes) :
    glyphs (b :: rest) = first b rest :: glyphs (rest.drop ((first b rest).2 - 1)) := by
  rw [← glyphsAfter_eq_drop]
  rfl

theorem decodeLossy_cons (b : UInt8) (rest : Bytes) :
    decodeLossy (b :: rest) =
      (first b rest).1.getD '\uFFFD' :: decodeLossy (rest.drop ((first b rest).2 - 1)) := by
  rw [decodeLossy, glyphs_cons, List.map_cons, decodeLossy]

/-- Continuation bytes are read from those that follow. -/
theorem readTails_snd_le (value used : Nat) (low high : UInt8) (owed : Nat) (bytes : Bytes) :
    (readTails value used low high owed bytes).2 ≤ used + bytes.length := by
  induction owed generalizing value used low high bytes with
  | zero => simp [readTails]
  | succ owed ih =>
    cases bytes with
    | nil => simp [readTails]
    | cons b rest =>
      rw [readTails]
      split
      · exact (ih ..).trans (by rw [List.length_cons]; omega)
      · simp

theorem first_snd_sub_one_le (b : UInt8) (rest : Bytes) :
    (first b rest).2 - 1 ≤ rest.length := by
  rw [first]
  cases lead? b with
  | none => simp
  | some l =>
    have hread := readTails_snd_le l.bits 1 l.low l.high l.tails rest
    simp only
    omega

/-! ## ASCII bytes stand for themselves -/

theorem toNat_ofNat_of_isValidChar {n : Nat} (h : n.isValidChar) : (Char.ofNat n).toNat = n := by
  rw [Char.ofNat, dif_pos h]
  rfl

/-- The byte of an ASCII character. -/
def asciiByte (c : Char) : UInt8 :=
  UInt8.ofNat c.toNat

theorem toNat_asciiByte {c : Char} (h : c.toNat < 0x80) : (asciiByte c).toNat = c.toNat := by
  rw [asciiByte, UInt8.toNat_ofNat', Nat.mod_eq_of_lt (by omega)]

theorem asciiByte_lt {c : Char} (h : c.toNat < 0x80) : asciiByte c < 0x80 := by
  rw [UInt8.lt_iff_toNat_lt, toNat_asciiByte h]
  exact h

theorem asciiByte_ofNat {b : UInt8} (h : b < 0x80) : asciiByte (Char.ofNat b.toNat) = b := by
  have hlt : b.toNat < 0x80 := UInt8.lt_iff_toNat_lt.mp h
  rw [asciiByte, toNat_ofNat_of_isValidChar (.inl (by omega)), UInt8.ofNat_toNat]

theorem lead?_of_lt {b : UInt8} (h : b < 0x80) :
    lead? b = some { bits := b.toNat, tails := 0 } := by
  have hlt : b.toNat < 0x80 := by
    simpa using UInt8.lt_iff_toNat_lt.mp h
  rw [lead?, if_pos hlt]

theorem first_of_lt {b : UInt8} (h : b < 0x80) (rest : Bytes) :
    first b rest = (some (Char.ofNat b.toNat), 1) := by
  rw [first, lead?_of_lt h]
  rfl

/-- A lead byte is ASCII, or no byte that it lets follow is ASCII and it spans code points that are
scalar values and not ASCII. -/
theorem lead?_cases {b : UInt8} {l : Lead} (h : lead? b = some l) :
    b < 0x80 ∧ l = { bits := b.toNat, tails := 0 } ∨
      0x80 ≤ l.low ∧ ∃ n, l.tails = n + 1 ∧
        0x80 ≤ (l.bits * 64 + (l.low.toNat - 0x80)) * 64 ^ n ∧
        ((l.bits * 64 + (l.high.toNat - 0x80) + 1) * 64 ^ n ≤ 0xD800 ∨
          0xE000 ≤ (l.bits * 64 + (l.low.toNat - 0x80)) * 64 ^ n ∧
            (l.bits * 64 + (l.high.toNat - 0x80) + 1) * 64 ^ n ≤ 0x110000) := by
  simp only [lead?, ite_eq_iff, Option.some.injEq, reduceCtorEq, and_false, or_false,
    false_or] at h
  rcases h with ⟨hascii, rfl⟩ | ⟨-, hC2, h⟩
  · exact .inl ⟨UInt8.lt_iff_toNat_lt.mpr hascii, rfl⟩
  right
  rcases h with ⟨hE0, rfl⟩ | ⟨hE0, ⟨-, rfl⟩ | ⟨hE0', ⟨-, rfl⟩ | ⟨hED, ⟨hF0, rfl⟩ |
    ⟨hF0, ⟨-, rfl⟩ | ⟨hF0', ⟨hF4, rfl⟩ | ⟨-, -, rfl⟩⟩⟩⟩⟩⟩
  all_goals
    refine ⟨by dsimp only; decide, _, rfl, ?_⟩
    simp only [UInt8.reduceToNat, Nat.reducePow, Nat.reduceSub, Nat.mul_one]
    omega

/-- No continuation byte is read from an ASCII byte on. -/
theorem readTails_append_cons {b : UInt8} (hb : b < 0x80) (value used : Nat) {low : UInt8}
    (hlow : 0x80 ≤ low) (high : UInt8) (owed : Nat) (front rest : Bytes) :
    readTails value used low high owed (front ++ b :: rest) =
      readTails value used low high owed front := by
  induction owed generalizing value used low high front with
  | zero => rfl
  | succ owed ih =>
    cases front with
    | nil =>
      have hout : ¬ low ≤ b := UInt8.not_le.mpr (UInt8.lt_of_lt_of_le hb hlow)
      rw [List.nil_append, readTails, readTails, if_neg (by simp [hout])]
    | cons a front =>
      rw [List.cons_append, readTails, readTails, ih _ _ (by decide)]

theorem first_append_cons {b : UInt8} (hb : b < 0x80) (a : UInt8) (front rest : Bytes) :
    first a (front ++ b :: rest) = first a front := by
  rw [first, first]
  cases hlead : lead? a with
  | none => rfl
  | some l =>
    rcases lead?_cases hlead with ⟨-, rfl⟩ | ⟨hlow, -⟩
    · rfl
    · exact readTails_append_cons hb _ _ hlow _ _ _ _

/-- An ASCII byte is decoded on its own, and so is what stands in front of it and behind it. -/
theorem decodeLossy_append_cons {c : Char} (hc : c.toNat < 0x80) (front rest : Bytes) :
    decodeLossy (front ++ asciiByte c :: rest) = decodeLossy front ++ c :: decodeLossy rest := by
  have hb := asciiByte_lt hc
  induction hlength : front.length using Nat.strong_induction_on generalizing front with
  | _ n ih =>
    subst hlength
    cases front with
    | nil =>
      rw [List.nil_append, decodeLossy_cons, first_of_lt hb, toNat_asciiByte hc, Char.ofNat_toNat]
      rfl
    | cons a front =>
      have hskip := first_snd_sub_one_le a front
      rw [List.cons_append, decodeLossy_cons, decodeLossy_cons, first_append_cons hb,
        List.drop_append_of_le_length hskip, ih _ _ _ rfl, List.cons_append]
      rw [List.length_drop, List.length_cons]
      omega

/-! ## No other bytes do -/

/-- A continuation byte that is read lies in its range, and the others are read behind it. -/
theorem exists_cons_of_readTails_eq_some {value used used' : Nat} {low high : UInt8} {owed : Nat}
    {bytes : Bytes} {c : Char}
    (h : readTails value used low high (owed + 1) bytes = (some c, used')) :
    ∃ (b : UInt8) (rest : Bytes), low.toNat ≤ b.toNat ∧ b.toNat ≤ high.toNat ∧
      readTails (value * 64 + (b.toNat - 0x80)) (used + 1) 0x80 0xBF owed rest =
        (some c, used') := by
  cases bytes with
  | nil => simp [readTails] at h
  | cons b rest =>
    rw [readTails] at h
    split at h
    · rename_i hb
      rw [Bool.and_eq_true, decide_eq_true_eq, decide_eq_true_eq, UInt8.le_iff_toNat_le,
        UInt8.le_iff_toNat_le] at hb
      exact ⟨b, rest, hb.1, hb.2, h⟩
    · cases h

/-- What is read from continuation bytes lies in the range that the bytes before them span. -/
theorem exists_of_readTails_eq_some {value used used' : Nat} {low high : UInt8} {owed : Nat}
    {bytes : Bytes} {c : Char} (hlow : 0x80 ≤ low)
    (h : readTails value used low high (owed + 1) bytes = (some c, used')) :
    ∃ n, c = Char.ofNat n ∧ (value * 64 + (low.toNat - 0x80)) * 64 ^ owed ≤ n ∧
      n < (value * 64 + (high.toNat - 0x80) + 1) * 64 ^ owed := by
  induction owed generalizing value used low high bytes with
  | zero =>
    obtain ⟨b, rest, hlo, hhi, hread⟩ := exists_cons_of_readTails_eq_some h
    rw [readTails, Prod.mk.injEq, Option.some.injEq] at hread
    exact ⟨_, hread.1.symm, by omega, by omega⟩
  | succ owed ih =>
    obtain ⟨b, rest, hlo, hhi, hread⟩ := exists_cons_of_readTails_eq_some h
    obtain ⟨n, hc, hle, hlt⟩ := ih (by decide) hread
    have hpow : ∀ n, n * 64 ^ (owed + 1) = n * 64 * 64 ^ owed := by
      intro n
      rw [Nat.pow_succ, Nat.mul_comm (64 ^ owed), Nat.mul_assoc]
    refine ⟨n, hc, ?_, ?_⟩
    · rw [hpow]
      exact (Nat.mul_le_mul_right _ (by omega)).trans hle
    · rw [hpow]
      refine hlt.trans_le (Nat.mul_le_mul_right _ ?_)
      rw [show (0xBF : UInt8).toNat - 0x80 = 63 from rfl]
      omega

/-- A glyph that does not start with an ASCII byte is not an ASCII character. -/
theorem le_toNat_of_first_eq_some {b : UInt8} (hb : 0x80 ≤ b) {rest : Bytes} {c : Char}
    (h : (first b rest).1 = some c) : 0x80 ≤ c.toNat := by
  rw [first] at h
  cases hlead : lead? b with
  | none => simp [hlead] at h
  | some l =>
    rcases lead?_cases hlead with ⟨hascii, -⟩ | ⟨hlow, n, htails, hstart, hspan⟩
    · exact absurd hascii (UInt8.not_lt.mpr hb)
    simp only [hlead, htails] at h
    obtain ⟨v, rfl, hle, hlt⟩ := exists_of_readTails_eq_some hlow (Prod.ext h rfl)
    have hvalid : v.isValidChar := by
      rcases hspan with hspan | ⟨hstart', hspan⟩
      · exact .inl (hlt.trans_le hspan)
      · exact .inr ⟨by omega, hlt.trans_le hspan⟩
    rw [toNat_ofNat_of_isValidChar hvalid]
    exact hstart.trans hle

/-- Decoded bytes that start with an ASCII character start with its byte. -/
theorem exists_of_decodeLossy_eq_cons {bytes : Bytes} {c : Char} {text : List Char}
    (hc : c.toNat < 0x80) (h : decodeLossy bytes = c :: text) :
    ∃ rest, bytes = asciiByte c :: rest ∧ decodeLossy rest = text := by
  cases bytes with
  | nil => simp [decodeLossy, glyphs, glyphsAfter] at h
  | cons b rest =>
    rw [decodeLossy_cons, List.cons.injEq] at h
    obtain ⟨hhead, htail⟩ := h
    by_cases hb : b < 0x80
    · rw [first_of_lt hb] at hhead htail
      rw [← hhead, Option.getD_some, asciiByte_ofNat hb]
      exact ⟨rest, rfl, htail⟩
    · cases hfirst : (first b rest).1 with
      | none =>
        rw [hfirst] at hhead
        subst hhead
        exact absurd hc (by decide)
      | some c' =>
        rw [hfirst] at hhead
        have hle := le_toNat_of_first_eq_some (UInt8.not_lt.mp hb) hfirst
        rw [← hhead, Option.getD_some] at hc
        omega

/-! ## Occurrences -/

theorem encode_eq_map_asciiByte {text : String} (h : ∀ c ∈ text.toList, c.toNat < 0x80) :
    encode text = text.toList.map asciiByte := by
  rw [encode, ← List.flatMap_pure_eq_map]
  apply List.flatMap_congr
  intro c hc
  exact if_pos (Nat.le_of_lt_succ (h c hc))

/-- An ASCII text starts decoded bytes exactly if its bytes start these. -/
theorem prefix_decodeLossy_iff {text : List Char} (h : ∀ c ∈ text, c.toNat < 0x80)
    (bytes : Bytes) : text <+: decodeLossy bytes ↔ text.map asciiByte <+: bytes := by
  induction text generalizing bytes with
  | nil => simp
  | cons c text ih =>
    rw [List.forall_mem_cons] at h
    rw [List.map_cons, List.cons_prefix_iff, List.cons_prefix_iff]
    constructor
    · rintro ⟨tail, htail, hprefix⟩
      obtain ⟨rest, rfl, rfl⟩ := exists_of_decodeLossy_eq_cons h.1 htail
      exact ⟨rest, rfl, (ih h.2 rest).mp hprefix⟩
    · rintro ⟨rest, rfl, hprefix⟩
      exact ⟨_, decodeLossy_append_cons h.1 [] rest, (ih h.2 rest).mpr hprefix⟩

/-- What ends decoded bytes is decoded from bytes at their end. -/
theorem exists_suffix_of_suffix_decodeLossy {bytes : Bytes} {text : List Char}
    (h : text <:+ decodeLossy bytes) : ∃ rest, rest <:+ bytes ∧ decodeLossy rest = text := by
  induction hlength : bytes.length using Nat.strong_induction_on generalizing bytes with
  | _ n ih =>
    subst hlength
    cases bytes with
    | nil => exact ⟨[], List.suffix_rfl, (List.suffix_nil.mp h).symm⟩
    | cons b tail =>
      rw [decodeLossy_cons, List.suffix_cons_iff] at h
      rcases h with rfl | h
      · exact ⟨b :: tail, List.suffix_rfl, decodeLossy_cons b tail⟩
      · obtain ⟨rest, hrest, htext⟩ :=
          ih _ (by rw [List.length_drop, List.length_cons]; omega) h rfl
        exact ⟨rest, (hrest.trans (List.drop_suffix _ _)).trans (List.suffix_cons b tail), htext⟩

/-- An ASCII text occurs in decoded bytes exactly if its bytes occur in these. -/
theorem infix_decodeLossy_iff {text : String} (h : ∀ c ∈ text.toList, c.toNat < 0x80)
    (bytes : Bytes) : text.toList <:+: decodeLossy bytes ↔ encode text <:+: bytes := by
  rw [encode_eq_map_asciiByte h, List.infix_iff_prefix_suffix, List.infix_iff_prefix_suffix]
  constructor
  · rintro ⟨tail, hprefix, hsuffix⟩
    obtain ⟨rest, hrest, rfl⟩ := exists_suffix_of_suffix_decodeLossy hsuffix
    exact ⟨rest, (prefix_decodeLossy_iff h rest).mp hprefix, hrest⟩
  · rintro ⟨rest, hprefix, front, rfl⟩
    cases htext : text.toList with
    | nil => exact ⟨[], List.prefix_rfl, List.nil_suffix⟩
    | cons c word =>
      rw [htext] at h hprefix
      obtain ⟨tail, rfl, -⟩ := List.cons_prefix_iff.mp hprefix
      have hc := h c List.mem_cons_self
      have htail : decodeLossy (asciiByte c :: tail) = c :: decodeLossy tail :=
        decodeLossy_append_cons hc [] tail
      refine ⟨decodeLossy (asciiByte c :: tail), (prefix_decodeLossy_iff h _).mpr hprefix, ?_⟩
      rw [decodeLossy_append_cons hc, htail]
      exact List.suffix_append _ _

end Registrar.Text.Utf8
