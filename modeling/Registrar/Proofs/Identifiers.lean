import Registrar.Go.Token
import Registrar.Proofs.FunctionNames

/-!
# Function names as identifiers of Go

By default a registration function is called `init` with the path of its package in camel case
behind it. The path is made of letters, digits and six marks. Camel case drops the four marks that
break words and keeps the other two, plus and tilde, which no identifier has: the name is an
identifier exactly if the path has neither.
-/

namespace Registrar

namespace Go

/-- A name that can be declared. It starts with a letter or an underscore, goes on with letters,
digits and underscores, and is not reserved. -/
structure IsIdentifier (name : String) : Prop where
  /-- The characters of the name. -/
  spelled : ∃ c rest, name.toList = c :: rest ∧ Text.isIdentStart c = true ∧
    ∀ d ∈ rest, Text.isIdentRest d = true
  /-- The name is no reserved word. -/
  notReserved : name ∉ Token.reserved

/-- A name-like text is a name unless it is reserved. -/
theorem Token.nameOrWord_eq_name_iff (s : List Char) :
    nameOrWord s = .name ↔ String.ofList s ∉ reserved := by
  rw [nameOrWord]
  split
  · rename_i hword
    exact iff_of_false nofun fun hfree => hfree (List.contains_iff_mem.mp hword)
  · rename_i hfree
    exact iff_of_true rfl fun hword => hfree (List.contains_iff_mem.mpr hword)

/-- A text that starts a name is read as far as the name goes on. -/
theorem Token.lexeme?_of_isIdentStart {c : Char} (hc : Text.isIdentStart c = true)
    (rest : List Char) :
    lexeme? (c :: rest) = some (nameOrWord (c :: rest.takeWhile Text.isIdentRest),
      (rest.takeWhile Text.isIdentRest).length + 1) := by
  rw [lexeme?, if_pos hc]
  rfl

/-- A text that starts no name is read as something else. -/
theorem Token.lexeme?_ne_name {c : Char} (hc : Text.isIdentStart c = false) (rest : List Char)
    (n : Nat) : lexeme? (c :: rest) ≠ some (.name, n) := by
  rw [lexeme?, if_neg (by simp [hc])]
  split
  · simp
  · split
    · simp
    · split
      · simp
      · split <;> simp [mark?]

/-- Identifiers are the texts that are read as one name. -/
theorem lexeme?_eq_name_iff (name : String) :
    Token.lexeme? name.toList = some (.name, name.toList.length) ↔ IsIdentifier name := by
  constructor
  · intro h
    cases hname : name.toList with
    | nil =>
      rw [hname] at h
      cases h
    | cons c rest =>
      rw [hname] at h
      cases hc : Text.isIdentStart c with
      | false => exact absurd h (Token.lexeme?_ne_name hc rest _)
      | true =>
        rw [Token.lexeme?_of_isIdentStart hc, Option.some.injEq, Prod.mk.injEq] at h
        have hall : rest.takeWhile Text.isIdentRest = rest :=
          (List.takeWhile_prefix _).eq_of_length (Nat.succ.inj h.2)
        refine ⟨⟨c, rest, hname, hc, List.takeWhile_eq_self_iff.mp hall⟩, ?_⟩
        rw [hall, Token.nameOrWord_eq_name_iff, ← hname, String.ofList_toList] at h
        exact h.1
  · rintro ⟨⟨c, rest, hname, hc, hrest⟩, hfree⟩
    have hword : Token.nameOrWord (c :: rest) = .name := by
      rwa [Token.nameOrWord_eq_name_iff, ← hname, String.ofList_toList]
    rw [hname, Token.lexeme?_of_isIdentStart hc, List.takeWhile_eq_self_iff.mpr hrest, hword,
      List.length_cons]

end Go

/-- Behind `init` a text makes an identifier exactly if an identifier can go on with it. -/
theorem isIdentifier_init_append_iff (s : String) :
    Go.IsIdentifier ("init" ++ s) ↔ ∀ c ∈ s.toList, Text.isIdentRest c = true := by
  have hname : ("init" ++ s).toList = 'i' :: ("nit".toList ++ s.toList) := by simp
  constructor
  · rintro ⟨⟨c, rest, heq, -, hrest⟩, -⟩
    obtain ⟨-, rfl⟩ := List.cons.inj (hname.symm.trans heq)
    exact fun d hd => hrest d (List.mem_append_right _ hd)
  · intro h
    refine ⟨⟨'i', _, hname, by decide, ?_⟩, ?_⟩
    · intro d hd
      rcases List.mem_append.mp hd with hd | hd
      · have hnit : "nit".toList.all Text.isIdentRest = true := by decide
        exact List.all_eq_true.mp hnit d hd
      · exact h d hd
    · intro hword
      have hnone : ∀ word ∈ Go.Token.reserved, "init".toList.isPrefixOf word.toList = false := by
        decide
      have hprefix : "init".toList.isPrefixOf ("init" ++ s).toList = true := by simp
      exact Bool.false_ne_true ((hnone _ hword).symm.trans hprefix)

/-! ### Paths of letters, digits and marks -/

/-- A character of an import path. -/
def isImportChar (c : Char) : Bool :=
  c.isAlphanum || "-._~+/".toList.contains c

theorem toNat_lt_of_isImportChar {c : Char} (h : isImportChar c = true) : c.toNat < 0x80 := by
  have hrange : ∀ last : Char, last.toNat < 0x80 → c.val ≤ last.val → c.toNat < 0x80 :=
    fun last hlast hle => Nat.lt_of_le_of_lt (UInt32.le_iff_toNat_le.mp hle) hlast
  rw [isImportChar, Bool.or_eq_true] at h
  rcases h with h | h
  · rcases Bool.or_eq_true_iff.mp h with halpha | hdigit
    · rcases Bool.or_eq_true_iff.mp halpha with hupper | hlower
      · exact hrange 'Z' (by decide) (of_decide_eq_true hupper).2
      · exact hrange 'z' (by decide) (of_decide_eq_true (Bool.and_eq_true_iff.mp hlower).2)
    · exact hrange '9' (by decide) (of_decide_eq_true (Bool.and_eq_true_iff.mp hdigit).2)
  · have hmarks : ("-._~+/".toList.all fun d => d.toNat < 0x80) = true := by decide
    exact of_decide_eq_true (List.all_eq_true.mp hmarks c (List.contains_iff_mem.mp h))

/-- What holds of the first 128 characters holds of every character among them. -/
theorem forall_of_ascii {p : Char → Prop} (h : ∀ n < 0x80, p (Char.ofNat n)) {c : Char}
    (hc : c.toNat < 0x80) : p c :=
  c.ofNat_toNat ▸ h c.toNat hc

/-- Of the characters of ASCII only the small letters are apart from their upper case. -/
theorem Text.upperDistance_of_lt {n : Nat} (hn : n < 0x80) :
    upperDistance n = if 0x61 ≤ n ∧ n ≤ 0x7A then -32 else 0 := by
  have hruns : upperRuns = (0x61, 0x7A, 1, -32) :: upperRuns.tail := rfl
  have hbehind : ∀ run ∈ upperRuns.tail, 0x80 ≤ run.1 := by decide +kernel
  have hnone : upperRuns.tail.find? (fun run =>
      run.1 ≤ n && n ≤ run.2.1 && (n - run.1) % run.2.2.1 == 0) = none := by
    rw [List.find?_eq_none]
    intro run hrun
    have hle := hbehind run hrun
    have hlt : ¬ run.1 ≤ n := by omega
    simp [hlt]
  have hfirst : (decide (0x61 ≤ n) && decide (n ≤ 0x7A) && (n - 0x61) % 1 == 0) =
      decide (0x61 ≤ n ∧ n ≤ 0x7A) := by
    simp [Nat.mod_one]
  rw [upperDistance, hruns, List.find?_cons, hnone, hfirst]
  by_cases hsmall : 0x61 ≤ n ∧ n ≤ 0x7A
  · rw [decide_eq_true hsmall, if_pos hsmall]
  · rw [decide_eq_false hsmall, if_neg hsmall]

/-- In ASCII every character has one character as its upper case. -/
theorem Text.upper_of_lt {c : Char} (hc : c.toNat < 0x80) : upper c = [c.toUpper] := by
  have hbehind : ∀ entry ∈ upperExpansions, 0x80 ≤ entry.1 := by decide +kernel
  have hnone : upperExpansions.find? (fun entry => entry.1 == c.toNat) = none := by
    rw [List.find?_eq_none]
    intro entry hentry heq
    have hle := hbehind entry hentry
    rw [eq_of_beq heq] at hle
    omega
  have hvalue : ∀ n < 0x80, Char.ofNat (((Char.ofNat n).toNat : Int) +
      if 0x61 ≤ (Char.ofNat n).toNat ∧ (Char.ofNat n).toNat ≤ 0x7A then -32 else 0).toNat =
        (Char.ofNat n).toUpper := by
    decide +kernel
  rw [upper, hnone, upperDistance_of_lt hc]
  exact congrArg (fun d => [d]) (forall_of_ascii (p := fun c => Char.ofNat ((c.toNat : Int) +
    if 0x61 ≤ c.toNat ∧ c.toNat ≤ 0x7A then -32 else 0).toNat = c.toUpper) hvalue hc)

/-- Upper case keeps letters and digits what they are, and all else in ASCII as it is. -/
theorem forall_mem_upper_iff {c : Char} (hc : c.toNat < 0x80) :
    (∀ d ∈ Text.upper c, Text.isIdentRest d = true) ↔ Text.isIdentRest c = true := by
  have hall : ∀ n < 0x80, Text.isIdentRest (Char.ofNat n).toUpper =
      Text.isIdentRest (Char.ofNat n) := by
    decide +kernel
  rw [Text.upper_of_lt hc, List.forall_mem_singleton, forall_of_ascii
    (p := fun c => Text.isIdentRest c.toUpper = Text.isIdentRest c) hall hc]

/-- In camel case a path of ASCII characters keeps what breaks no word. -/
theorem forall_mem_camelCase_iff {path : List Char} (h : ∀ c ∈ path, c.toNat < 0x80)
    (startsWord : Bool) :
    (∀ d ∈ camelCase startsWord path, Text.isIdentRest d = true) ↔
      ∀ c ∈ path, isWordBreak c = true ∨ Text.isIdentRest c = true := by
  induction path generalizing startsWord with
  | nil => simp [camelCase]
  | cons c rest ih =>
    obtain ⟨hc, hrest⟩ := List.forall_mem_cons.mp h
    rw [camelCase, List.forall_mem_cons]
    by_cases hbreak : isWordBreak c = true
    · rw [if_pos hbreak, ih hrest]
      simp [hbreak]
    · rw [if_neg hbreak, List.forall_mem_append, ih hrest]
      refine and_congr_left' ?_
      rw [or_iff_right hbreak]
      cases startsWord with
      | false => simp
      | true => exact forall_mem_upper_iff hc

/-- Of the characters of an import path only two neither break words nor stand in identifiers. -/
theorem isWordBreak_or_isIdentRest_iff {c : Char} (h : isImportChar c = true) :
    (isWordBreak c = true ∨ Text.isIdentRest c = true) ↔ c ≠ '~' ∧ c ≠ '+' := by
  have hall : ∀ n < 0x80, isImportChar (Char.ofNat n) = true →
      ((isWordBreak (Char.ofNat n) = true ∨ Text.isIdentRest (Char.ofNat n) = true) ↔
        Char.ofNat n ≠ '~' ∧ Char.ofNat n ≠ '+') := by
    decide +kernel
  exact forall_of_ascii (p := fun c => isImportChar c = true →
    ((isWordBreak c = true ∨ Text.isIdentRest c = true) ↔ c ≠ '~' ∧ c ≠ '+'))
      hall (toNat_lt_of_isImportChar h) h

/-- The default name of a registration function, for a path of the characters that import paths
have, is an identifier exactly if the path has neither a tilde nor a plus. Otherwise Go does not
read the name as one. -/
theorem isIdentifier_init_iff {path : String} (h : ∀ c ∈ path.toList, isImportChar c = true) :
    (Go.IsIdentifier ("init" ++ initSuffixFor path) ↔
      '~' ∉ path.toList ∧ '+' ∉ path.toList) ∧
    (Go.Token.lexeme? ("init" ++ initSuffixFor path).toList =
        some (.name, ("init" ++ initSuffixFor path).toList.length) ↔
      '~' ∉ path.toList ∧ '+' ∉ path.toList) := by
  have hascii : ∀ c ∈ path.toList, c.toNat < 0x80 :=
    fun c hc => toNat_lt_of_isImportChar (h c hc)
  have hmarks : (∀ c ∈ path.toList, isWordBreak c = true ∨ Text.isIdentRest c = true) ↔
      '~' ∉ path.toList ∧ '+' ∉ path.toList := by
    constructor
    · intro hall
      exact ⟨fun hmem => ((isWordBreak_or_isIdentRest_iff (h _ hmem)).mp (hall _ hmem)).1 rfl,
        fun hmem => ((isWordBreak_or_isIdentRest_iff (h _ hmem)).mp (hall _ hmem)).2 rfl⟩
    · rintro ⟨htilde, hplus⟩ c hc
      refine (isWordBreak_or_isIdentRest_iff (h c hc)).mpr ⟨?_, ?_⟩
      · rintro rfl
        exact htilde hc
      · rintro rfl
        exact hplus hc
  have hname : Go.IsIdentifier ("init" ++ initSuffixFor path) ↔
      '~' ∉ path.toList ∧ '+' ∉ path.toList := by
    rw [isIdentifier_init_append_iff, initSuffixFor_eq_camelCase, String.toList_ofList,
      forall_mem_camelCase_iff hascii, hmarks]
  exact ⟨hname, (Go.lexeme?_eq_name_iff _).trans hname⟩

theorem isIdentifier_init_iff_versionedPath :
    (∀ c ∈ "github.com/go-yaml/yaml_v3".toList, isImportChar c = true) ∧
      initSuffixFor "github.com/go-yaml/yaml_v3" = "GithubComGoYamlYamlV3" ∧
      Go.IsIdentifier ("init" ++ initSuffixFor "github.com/go-yaml/yaml_v3") := by
  have hpath : ∀ c ∈ "github.com/go-yaml/yaml_v3".toList, isImportChar c = true :=
    List.all_eq_true.mp (by decide +kernel)
  exact ⟨hpath, by decide +kernel, (isIdentifier_init_iff hpath).1.mpr (by decide)⟩

/-- The default name of a registration function is not always an identifier. -/
theorem not_isIdentifier_init :
    ∃ path : String, (∀ c ∈ path.toList, isImportChar c = true) ∧
      initSuffixFor path = "Libstdc++Sys~1" ∧ ¬ Go.IsIdentifier ("init" ++ initSuffixFor path) := by
  refine ⟨"libstdc++/sys~1", List.all_eq_true.mp (by decide +kernel), by decide +kernel, ?_⟩
  rw [← Go.lexeme?_eq_name_iff]
  decide +kernel

end Registrar
