import Registrar.Command
import Registrar.Proofs.FirstFault

/-!
# Error messages on one line

The message for a fault holds the path, a position, and a reason that quotes the source or names a
part of the grammar. A position has digits only, and no character that ends a line is left in quoted
text, whatever the source is. The name of a part of the grammar is printed as it is: the message stays
on its line exactly if the path does and, where a part is missing, the name of the part.
-/

namespace Registrar

namespace Text

/-- No character of a text ends a line. -/
def IsOneLine (s : String) : Prop :=
  ∀ c ∈ s.toList, isLineBreak c = false

instance (s : String) : Decidable (IsOneLine s) :=
  List.decidableBAll (fun c => isLineBreak c = false) s.toList

@[simp]
theorem isOneLine_append (s t : String) : IsOneLine (s ++ t) ↔ IsOneLine s ∧ IsOneLine t := by
  rw [IsOneLine, String.toList_append]
  exact List.forall_mem_append

/-- A number is on one line. -/
@[simp]
theorem isOneLine_repr (n : Nat) : IsOneLine n.repr := by
  intro c hc
  rw [Nat.toList_repr] at hc
  have hdigit := Nat.isDigit_of_mem_toDigits (by decide) (by decide) hc
  simp only [Char.isDigit, Bool.and_eq_true, decide_eq_true_eq, ge_iff_le] at hdigit
  have hlow : 48 ≤ c.toNat := hdigit.1
  have hhigh : c.toNat ≤ 57 := hdigit.2
  simp only [isLineBreak, Bool.or_eq_false_iff, Bool.and_eq_false_iff, decide_eq_false_iff_not,
    beq_eq_false_iff_ne]
  omega

@[simp]
theorem isOneLine_toString (i : Int) : IsOneLine (toString i) := by
  cases i with
  | ofNat n => exact isOneLine_repr n
  | negSucc n =>
    have hminus : IsOneLine "-" := by decide
    exact (isOneLine_append "-" (n + 1).repr).mpr ⟨hminus, isOneLine_repr (n + 1)⟩

namespace Quoted

/-- A character that shows as itself in quoted text ends no line. -/
theorem isLineBreak_of_isPrintable {c : Char} (h : isPrintable c = true) :
    isLineBreak c = false := by
  have hwide : ∀ n, n = 0x85 ∨ n = 0x2028 ∨ n = 0x2029 → inRuns unprintableRuns n = true := by
    rintro n (rfl | rfl | rfl) <;> decide +kernel
  rw [Bool.eq_false_iff]
  intro hbreak
  simp only [isLineBreak, Bool.or_eq_true, Bool.and_eq_true, decide_eq_true_eq, beq_iff_eq]
    at hbreak
  rw [isPrintable] at h
  split at h
  · have hlow : 0x20 ≤ c.toNat := of_decide_eq_true h
    omega
  · have hcode : c.toNat = 0x85 ∨ c.toNat = 0x2028 ∨ c.toNat = 0x2029 := by omega
    rw [hwide c.toNat hcode] at h
    cases h

theorem isLineBreak_hexDigit {n : Nat} (h : n < 16) : isLineBreak (hexDigit n) = false := by
  have hall : ∀ d < 16, isLineBreak (hexDigit d) = false := by decide
  exact hall n h

theorem isLineBreak_of_mem_hexDigits {width n : Nat} {c : Char} (h : c ∈ hexDigits width n) :
    isLineBreak c = false := by
  induction width generalizing n with
  | zero => cases h
  | succ width ih =>
    rw [hexDigits, List.mem_append, List.mem_singleton] at h
    rcases h with h | rfl
    · exact ih h
    · exact isLineBreak_hexDigit (Nat.mod_lt n (by decide))

theorem isLineBreak_of_mem_escapeCode {c d : Char} (h : d ∈ escapeCode c) :
    isLineBreak d = false := by
  rw [escapeCode] at h
  split_ifs at h <;>
  · rcases List.mem_cons.mp h with rfl | h
    · rfl
    · rcases List.mem_cons.mp h with rfl | h
      · rfl
      · exact isLineBreak_of_mem_hexDigits h

/-- Between quotes no character ends a line, not even where the text has one that does. -/
theorem isLineBreak_of_mem_escapeChar {quote c d : Char} (hquote : isLineBreak quote = false)
    (h : d ∈ escapeChar isPrintable quote c) : isLineBreak d = false := by
  have hpair : ∀ x y : Char, isLineBreak x = false → isLineBreak y = false → d ∈ [x, y] →
      isLineBreak d = false := by
    intro x y hx hy hd
    rcases List.mem_cons.mp hd with rfl | hd
    · exact hx
    · rwa [List.mem_singleton.mp hd]
  rw [escapeChar] at h
  split_ifs at h with hmark htab hfeed hreturn hplain
  · refine hpair _ _ rfl ?_ h
    rcases hmark with rfl | rfl
    · exact hquote
    · rfl
  · exact hpair _ _ rfl rfl h
  · exact hpair _ _ rfl rfl h
  · exact hpair _ _ rfl rfl h
  · rw [List.mem_singleton.mp h]
    exact isLineBreak_of_isPrintable hplain
  · exact isLineBreak_of_mem_escapeCode h

/-- Quoted text is on one line. -/
theorem isOneLine_encode (s : List Char) : IsOneLine (String.ofList (encode s)) := by
  have hquote : isLineBreak (quoteFor s) = false := by
    rw [quoteFor]
    split <;> rfl
  intro c hc
  rw [String.toList_ofList, encode, encodeWith] at hc
  rcases List.mem_append.mp hc with hc | hc
  · rcases List.mem_cons.mp hc with rfl | hc
    · exact hquote
    · obtain ⟨d, -, hc⟩ := List.mem_flatMap.mp hc
      exact isLineBreak_of_mem_escapeChar hquote hc
  · rwa [List.mem_singleton.mp hc]

end Quoted

end Text

namespace Go

open Text (IsOneLine)
open Text.Utf8 (Bytes encode)

namespace ParseError

@[simp]
theorem Reason.text_missing (kind : String) : (missing kind).text = "missing " ++ kind := rfl

@[simp]
theorem Reason.text_near (snippet : List Char) :
    (near snippet).text = "syntax error near " ++ String.ofList (Text.Quoted.encode snippet) := rfl

@[simp]
theorem Reason.text_nothing : nothing.text = "syntax error" := rfl

/-- The place of an error is on one line if its path is. -/
theorem isOneLine_location_iff (e : ParseError) : IsOneLine e.location ↔ IsOneLine e.path := by
  have hcolon : IsOneLine ":" := by decide
  rw [location]
  split
  · rfl
  · dsimp only
    rw [Text.isOneLine_append, Text.isOneLine_append, Text.isOneLine_append,
      Text.isOneLine_append, and_iff_left (Text.isOneLine_toString _), and_iff_left hcolon,
      and_iff_left (Text.isOneLine_toString _), and_iff_left hcolon]

/-- A message is on one line if the path and the words of the reason are. -/
theorem isOneLine_message_iff (e : ParseError) :
    IsOneLine e.message ↔ IsOneLine e.path ∧ IsOneLine e.reason.text := by
  have hcolon : IsOneLine ": " := by decide
  rw [message, Text.isOneLine_append, Text.isOneLine_append, and_iff_left hcolon,
    isOneLine_location_iff]

end ParseError

/-- A missing part is reported by its name. -/
theorem reason_faultError_of_missing (source : Bytes) (path : String) {n : Node}
    (h : n.label.missing = true) : (faultError source path n).reason = .missing n.kind := by
  rw [faultError]
  exact if_pos h

/-- Text that the grammar does not know is reported by its first line. -/
theorem reason_faultError_of_not_missing (source : Bytes) (path : String) {n : Node}
    (h : ¬ n.label.missing = true) :
    (faultError source path n).reason = .nothing ∨
      ∃ snippet, (faultError source path n).reason = .near snippet := by
  rw [faultError]
  dsimp only
  rw [if_neg h]
  cases Text.firstLine (n.text source) with
  | none => exact .inl rfl
  | some line => exact .inr ⟨Text.trim line, rfl⟩

/-- The words for a fault are on one line, but for the name of a missing part. -/
theorem isOneLine_reason_faultError_iff (source : Bytes) (path : String) (n : Node) :
    IsOneLine (faultError source path n).reason.text ↔
      (n.label.missing = true → IsOneLine n.kind) := by
  by_cases hmissing : n.label.missing = true
  · have hword : IsOneLine "missing " := by decide
    rw [reason_faultError_of_missing source path hmissing, ParseError.Reason.text_missing,
      Text.isOneLine_append, and_iff_right hword, forall_prop_of_true hmissing]
  · refine iff_of_true ?_ fun h => absurd h hmissing
    rcases reason_faultError_of_not_missing source path hmissing with hreason | ⟨snippet, hreason⟩
    · rw [hreason, ParseError.Reason.text_nothing]
      decide
    · have hwords : IsOneLine "syntax error near " := by decide
      rw [hreason, ParseError.Reason.text_near, Text.isOneLine_append]
      exact ⟨hwords, Text.Quoted.isOneLine_encode snippet⟩

/-- The message for a fault is on one line if its path and the name of a missing part are. -/
theorem isOneLine_message_faultError_iff (source : Bytes) (path : String) (n : Node) :
    IsOneLine (faultError source path n).message ↔
      IsOneLine path ∧ (n.label.missing = true → IsOneLine n.kind) := by
  have hpath : (faultError source path n).path = path := rfl
  rw [ParseError.isOneLine_message_iff, hpath, isOneLine_reason_faultError_iff]

/-- A source with a fault is rejected at its first fault. -/
theorem Node.FlagsFaults.exists_faultError {root : Node} (h : root.FlagsFaults)
    (hfault : ∃ n, root.Within n ∧ n.isFault = true) (source : Bytes) (path : String) :
    ∃ n, root.preorder.find? Node.isFault = some n ∧
      sourceFileOf source path root = .error (faultError source path n) := by
  have hroot : root.label.hasFault = true := h.hasFault_iff.mpr hfault
  obtain ⟨m, hm, hfault⟩ := hfault
  have hsome : (root.preorder.find? Node.isFault).isSome = true :=
    List.find?_isSome.mpr ⟨m, (Node.mem_preorder_iff root m).mpr hm, hfault⟩
  obtain ⟨n, hn⟩ := Option.isSome_iff_exists.mp hsome
  refine ⟨n, hn, ?_⟩
  rw [sourceFileOf, if_pos hroot, h.firstFault?_eq, hn]
  rfl

/-- A rejected file is reported with the message alone. -/
theorem report_fail_parse (files : FileTree) (e : ParseError) (verbose : Bool) :
    (Run.fail files (.read (.parse e))).report verbose = "Error: " ++ e.message ++ "\n" := by
  simp [Run.fail, Fault.message?, Run.stop, Run.report, Notice.line?, String.join]

/-- A source with a fault is rejected with a message that is on one line exactly if the path is and,
where the first fault is a missing part, the name of the part: no other fault and no source breaks
the line. A command that it fails prints this message behind a word, and nothing else. -/
theorem Node.FlagsFaults.message_isOneLine_iff {root : Node} (h : root.FlagsFaults)
    (hfault : ∃ n, root.Within n ∧ n.isFault = true) (source : Bytes) (path : String) :
    ∃ n e, root.preorder.find? Node.isFault = some n ∧
      sourceFileOf source path root = .error e ∧
      (IsOneLine e.message ↔ IsOneLine path ∧ (n.label.missing = true → IsOneLine n.kind)) ∧
      ∀ files verbose,
        (Run.fail files (.read (.parse e))).report verbose = "Error: " ++ e.message ++ "\n" := by
  obtain ⟨n, hn, herror⟩ := h.exists_faultError hfault source path
  exact ⟨n, _, hn, herror, isOneLine_message_faultError_iff source path n,
    fun files verbose => report_fail_parse files _ verbose⟩

/-- Two variables on one line. -/
def unendedSource : Bytes :=
  encode "package p\n\nvar A = 0 var B = 0\n"

/-- The end of a line that is missing between the variables. -/
def missingEnd : Node :=
  .make { kind := "\n", start := 20, stop := 20, named := false, missing := true } []

example : (faultError unendedSource "t.go" missingEnd).message = "t.go:3:10: missing \n" := by
  decide +kernel

/-- A variable with a number as its value, nine bytes long. -/
def numberedVariable (start : Nat) : Node :=
  .make { kind := "var_declaration", start, stop := start + 9 } [
    .make { kind := "var", start, stop := start + 3, named := false } [],
    .make { kind := "var_spec", start := start + 4, stop := start + 9 } [
      .make { kind := "identifier", start := start + 4, stop := start + 5, field := some "name" } [],
      .make { kind := "=", start := start + 6, stop := start + 7, named := false } [],
      .make { kind := "expression_list", start := start + 8, stop := start + 9,
              field := some "value" } [
        .make { kind := "int_literal", start := start + 8, stop := start + 9 } []]]]

/-- A tree of this source, with the end of a line put in. -/
def unendedTree : Node :=
  .make { kind := "source_file", start := 0, stop := 31 } [
    .make { kind := "package_clause", start := 0, stop := 9 } [
      .make { kind := "package", start := 0, stop := 7, named := false } [],
      .make { kind := "package_identifier", start := 8, stop := 9 } []],
    .make { kind := "\n", start := 9, stop := 10, named := false } [],
    numberedVariable 11, missingEnd, numberedVariable 21,
    .make { kind := "\n", start := 30, stop := 31, named := false } []]

theorem flagsFaults_unendedTree : unendedTree.FlagsFaults := by decide +kernel

theorem find?_preorder_unendedTree :
    unendedTree.preorder.find? Node.isFault = some missingEnd := rfl

/-- There is a fault in the tree. -/
theorem exists_isFault_unendedTree : ∃ n, unendedTree.Within n ∧ n.isFault = true :=
  ⟨missingEnd, (Node.mem_preorder_iff _ _).mp (List.mem_of_find?_eq_some find?_preorder_unendedTree),
    rfl⟩

theorem Node.FlagsFaults.message_isOneLine_iff_unendedTree :
    unendedTree.FlagsFaults ∧ (∃ n, unendedTree.Within n ∧ n.isFault = true) ∧
      ∃ e, sourceFileOf unendedSource "t.go" unendedTree = .error e ∧ ¬ IsOneLine e.message := by
  refine ⟨flagsFaults_unendedTree, exists_isFault_unendedTree, ?_⟩
  obtain ⟨n, e, hn, herror, hline, -⟩ := Node.FlagsFaults.message_isOneLine_iff
    flagsFaults_unendedTree exists_isFault_unendedTree unendedSource "t.go"
  obtain rfl : n = missingEnd := Option.some.inj (hn.symm.trans find?_preorder_unendedTree)
  refine ⟨e, herror, fun h => ?_⟩
  have hkind : ¬ IsOneLine "\n" := by decide
  exact hkind ((hline.mp h).2 rfl)

/-- A path on one line does not keep the message on one: the name of the missing end of a line is the
end of a line. -/
theorem not_isOneLine_message :
    ¬ ∀ (source : Bytes) (path : String) (root : Node) (e : ParseError), root.FlagsFaults →
      (∃ n, root.Within n ∧ n.isFault = true) → IsOneLine path →
      sourceFileOf source path root = .error e → IsOneLine e.message := by
  intro h
  obtain ⟨n, hn, herror⟩ := flagsFaults_unendedTree.exists_faultError exists_isFault_unendedTree
    unendedSource "t.go"
  obtain rfl : n = missingEnd := Option.some.inj (hn.symm.trans find?_preorder_unendedTree)
  have hpath : IsOneLine "t.go" := by decide
  have hmessage := h unendedSource "t.go" unendedTree _ flagsFaults_unendedTree
    exists_isFault_unendedTree hpath herror
  have hkind : ¬ IsOneLine "\n" := by decide
  exact hkind (((isOneLine_message_faultError_iff _ _ _).mp hmessage).2 rfl)

end Go

end Registrar
