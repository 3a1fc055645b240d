import Registrar.Discover
import Registrar.Proofs.CodeReading
import Registrar.Proofs.JsonString

/-!
# The package path as a string of Go

The code of a document holds the path of its package between double quotes, once for each registry
and, in a file, once among the imports. Go reads a string between double quotes up to the first
quote that no backslash precedes, and takes what stands between character by character and escape
by escape. The path is printed as it is, so what Go reads there is the path exactly if no character
of the path ends the string, starts an escape or ends the line.
-/

namespace Registrar

namespace Go

open Text.Utf8 (Bytes)
open Text.Json (hexValue?)

/-! ### Strings between double quotes -/

/-- The letters and marks that can stand behind a backslash, with the bytes that they stand for. -/
def letterEscapes : List (Char × UInt8) :=
  [('a', 0x07), ('b', 0x08), ('t', 0x09), ('n', 0x0A), ('v', 0x0B), ('f', 0x0C), ('r', 0x0D),
   ('"', 0x22), ('\\', 0x5C)]

/-- The value of some digits in a base up to sixteen. -/
def numeral? (base : Nat) (digits : List Char) : Option Nat :=
  digits.foldlM (fun n c => ((hexValue? c).filter (· < base)).map (n * base + ·)) 0

/-- An escape with the bytes that it stands for: a letter, the value of a byte in octal or
hexadecimal digits, or the code point of a character in four or eight hexadecimal digits. -/
inductive IsEscape : List Char → Bytes → Prop where
  | letter {c : Char} {b : UInt8} (h : (c, b) ∈ letterEscapes) : IsEscape ['\\', c] [b]
  | octal {digits : List Char} {n : Nat} (hlength : digits.length = 3)
      (hvalue : numeral? 8 digits = some n) (hbyte : n < 256) :
      IsEscape ('\\' :: digits) [UInt8.ofNat n]
  | byte {digits : List Char} {n : Nat} (hlength : digits.length = 2)
      (hvalue : numeral? 16 digits = some n) : IsEscape ('\\' :: 'x' :: digits) [UInt8.ofNat n]
  | short {digits : List Char} {n : Nat} (hlength : digits.length = 4)
      (hvalue : numeral? 16 digits = some n) (hchar : n.isValidChar) :
      IsEscape ('\\' :: 'u' :: digits) (String.utf8EncodeChar (Char.ofNat n))
  | long {digits : List Char} {n : Nat} (hlength : digits.length = 8)
      (hvalue : numeral? 16 digits = some n) (hchar : n.isValidChar) :
      IsEscape ('\\' :: 'U' :: digits) (String.utf8EncodeChar (Char.ofNat n))

/-- A character that stands for itself between double quotes. -/
def IsOrdinary (c : Char) : Prop :=
  c ≠ '"' ∧ c ≠ '\\' ∧ c ≠ '\n'

instance : DecidablePred IsOrdinary := fun _ =>
  inferInstanceAs (Decidable (_ ∧ _ ∧ _))

/-- What stands between double quotes, with the bytes that it denotes: a row of characters that
stand for themselves and of escapes. -/
inductive Denotes : List Char → Bytes → Prop where
  | nil : Denotes [] []
  | char {c : Char} {body : List Char} {value : Bytes} (hc : IsOrdinary c)
      (h : Denotes body value) : Denotes (c :: body) (String.utf8EncodeChar c ++ value)
  | escape {e body : List Char} {bytes value : Bytes} (he : IsEscape e bytes)
      (h : Denotes body value) : Denotes (e ++ body) (bytes ++ value)

/-- A text starts with a string between double quotes, which has a value, and goes on behind it. -/
def ReadsString (text : List Char) (value : Bytes) (rest : List Char) : Prop :=
  ∃ body, text = '"' :: (body ++ '"' :: rest) ∧ Denotes body value

theorem length_le_length_flatMap_utf8EncodeChar (s : List Char) :
    s.length ≤ (s.flatMap String.utf8EncodeChar).length := by
  induction s with
  | nil => exact Nat.le_refl 0
  | cons c s ih =>
    have hc := c.utf8Size_pos
    rw [List.flatMap_cons, List.length_append, String.length_utf8EncodeChar, List.length_cons]
    omega

/-- An escape starts with a backslash. -/
theorem IsEscape.exists_eq_cons {e : List Char} {bytes : Bytes} (h : IsEscape e bytes) :
    ∃ rest, e = '\\' :: rest := by
  cases h <;> exact ⟨_, rfl⟩

/-- An escape is longer than what it stands for. -/
theorem IsEscape.length_lt {e : List Char} {bytes : Bytes} (h : IsEscape e bytes) :
    bytes.length < e.length := by
  cases h with
  | letter h => simp
  | octal hlength => simp [hlength]
  | byte hlength => simp [hlength]
  | @short digits n hlength =>
    have hfour := (Char.ofNat n).utf8Size_le_four
    rw [String.length_utf8EncodeChar, List.length_cons, List.length_cons, hlength]
    omega
  | @long digits n hlength =>
    have hfour := (Char.ofNat n).utf8Size_le_four
    rw [String.length_utf8EncodeChar, List.length_cons, List.length_cons, hlength]
    omega

/-- No string denotes more bytes than it has, and only a row of characters that stand for themselves
denotes as many. -/
theorem Denotes.length_le {body : List Char} {value : Bytes} (h : Denotes body value) :
    value.length ≤ (body.flatMap String.utf8EncodeChar).length ∧
      (value.length = (body.flatMap String.utf8EncodeChar).length → ∀ c ∈ body, IsOrdinary c) := by
  induction h with
  | nil => simp
  | @char c body value hc _ ih =>
    rw [List.flatMap_cons, List.length_append, List.length_append]
    refine ⟨Nat.add_le_add_left ih.1 _, fun hlength => ?_⟩
    exact List.forall_mem_cons.mpr ⟨hc, ih.2 (Nat.add_left_cancel hlength)⟩
  | @escape e body bytes value he _ ih =>
    have hlt := he.length_lt
    have hle := length_le_length_flatMap_utf8EncodeChar e
    rw [List.flatMap_append, List.length_append, List.length_append]
    refine ⟨by omega, fun hlength => ?_⟩
    have hle' := ih.1
    omega

/-- Characters that stand for themselves denote their own bytes and nothing else. -/
theorem denotes_iff_of_forall_isOrdinary {body : List Char} (h : ∀ c ∈ body, IsOrdinary c)
    (value : Bytes) : Denotes body value ↔ value = body.flatMap String.utf8EncodeChar := by
  induction body generalizing value with
  | nil =>
    constructor
    · intro hvalue
      simpa using hvalue.length_le.1
    · rintro rfl
      exact .nil
  | cons c body ih =>
    obtain ⟨hc, hbody⟩ := List.forall_mem_cons.mp h
    constructor
    · intro hvalue
      generalize htext : c :: body = text at hvalue
      cases hvalue with
      | nil => cases htext
      | char _ hrest =>
        cases htext
        rw [List.flatMap_cons, (ih hbody _).mp hrest]
      | escape he _ =>
        obtain ⟨rest, rfl⟩ := he.exists_eq_cons
        exact absurd (List.cons.inj htext).1 hc.2.1
    · rintro rfl
      exact .char hc ((ih hbody _).mpr rfl)

/-- A quote that no escape holds ends the string, so nothing with such a quote denotes anything. -/
theorem not_denotes_append_quote {front : List Char} (h : ∀ c ∈ front, IsOrdinary c)
    (behind : List Char) (value : Bytes) : ¬ Denotes (front ++ '"' :: behind) value := by
  induction front generalizing value with
  | nil =>
    intro hvalue
    generalize htext : [] ++ '"' :: behind = text at hvalue
    cases hvalue with
    | nil => cases htext
    | char hc _ => exact hc.1 (List.cons.inj htext).1.symm
    | escape he _ =>
      obtain ⟨rest, rfl⟩ := he.exists_eq_cons
      exact absurd (List.cons.inj htext).1 (by decide)
  | cons c front ih =>
    obtain ⟨hc, hfront⟩ := List.forall_mem_cons.mp h
    intro hvalue
    generalize htext : c :: front ++ '"' :: behind = text at hvalue
    cases hvalue with
    | nil => cases htext
    | char _ hrest =>
      cases htext
      exact ih hfront _ hrest
    | escape he _ =>
      obtain ⟨rest, rfl⟩ := he.exists_eq_cons
      exact hc.2.1 (List.cons.inj htext).1

/-- Between quotes a text is read as itself, whatever stands behind it, exactly if all of its
characters stand for themselves. -/
theorem readsString_quoted_iff (body behind : List Char) :
    (∀ value rest, ReadsString ('"' :: (body ++ '"' :: behind)) value rest ↔
      value = body.flatMap String.utf8EncodeChar ∧ rest = behind) ↔ ∀ c ∈ body, IsOrdinary c := by
  constructor
  · intro h
    obtain ⟨body', htext, hbody'⟩ := (h _ _).mpr ⟨rfl, rfl⟩
    obtain rfl : body = body' := by simpa using htext
    exact hbody'.length_le.2 rfl
  · intro h value rest
    constructor
    · rintro ⟨body', htext, hbody'⟩
      have htext := (List.cons.inj htext).2
      rcases List.append_eq_append_iff.mp htext with ⟨more, rfl, hmore⟩ | ⟨more, rfl, hmore⟩
      · cases more with
        | nil =>
          obtain rfl : rest = behind := by simpa using hmore.symm
          rw [List.append_nil] at hbody'
          exact ⟨(denotes_iff_of_forall_isOrdinary h value).mp hbody', rfl⟩
        | cons c more =>
          obtain ⟨rfl, -⟩ := List.cons.inj hmore
          exact absurd hbody' (not_denotes_append_quote h more value)
      · cases more with
        | nil =>
          obtain rfl : rest = behind := by simpa using hmore
          rw [List.append_nil] at h ⊢
          exact ⟨(denotes_iff_of_forall_isOrdinary h value).mp hbody', rfl⟩
        | cons c more =>
          obtain ⟨rfl, -⟩ := List.cons.inj hmore
          exact absurd rfl (h '"' (by simp)).1
    · rintro ⟨rfl, rfl⟩
      exact ⟨body, rfl, (denotes_iff_of_forall_isOrdinary h _).mpr rfl⟩

end Go

namespace Document

open Text.Template (Attributes noAttributes)

/-! ### The places of the path -/

/-- A text between double quotes. -/
def quoted (text : String) : String :=
  "\"" ++ text ++ "\""

/-- The function down to the key in the registry of values. -/
def aboveKeys (d : Document) : String :=
  "\nfunc " ++ d.initName ++ "() \x7b\n\t" ++ Dialect.shown d.dialect.valueRegistry ++ "["

/-- What stands between the keys in the two registries. -/
def betweenKeys (d : Document) : String :=
  "] = " ++ Dialect.shown d.dialect.valueMap ++ "\x7b\n" ++
    "\n".intercalate (d.valueSections.map sectionLines) ++ "\t\x7d\n\t" ++
    Dialect.shown d.dialect.typeRegistry ++ "["

/-- The function behind the key in the registry of types. -/
def belowKeys (d : Document) : String :=
  "] = " ++ Dialect.shown d.dialect.typeMap ++ "\x7b\n" ++
    String.join (d.typeSection.bindings.map bindingLine) ++ "\t\x7d\n\x7d\n"

/-- The head of a file down to the imports. -/
def aboveImports (goPackage : String) : String :=
  "// Code generated by bindgen. DO NOT EDIT.\n\npackage " ++ goPackage ++ "\n\nimport (\n"

/-- The lines of some imports. -/
def importLines (paths : List String) : String :=
  String.join (paths.map fun path => "\t" ++ quoted path ++ "\n")

/-- The function prints the path as two keys. -/
theorem code_eq_keys (d : Document) :
    d.code = d.aboveKeys ++ quoted d.packagePath ++ d.betweenKeys ++ quoted d.packagePath ++
      d.belowKeys := by
  apply String.toList_injective
  simp [code, registryLines, aboveKeys, betweenKeys, belowKeys, quoted]

theorem importLine_eq (path : String) :
    "\t\"" ++ path ++ "\"\n" = "\t" ++ quoted path ++ "\n" := by
  apply String.toList_injective
  simp [quoted]

/-- A file prints its imports in front of the function. -/
theorem codeFile_eq_imports (d : Document) (goPackage : String) :
    d.codeFile goPackage = aboveImports goPackage ++ importLines d.imports ++ ")\n" ++ d.code := by
  unfold codeFile fileHead aboveImports importLines
  simp only [importLine_eq]

/-- The path of a package is among the imports of its file. -/
theorem packagePath_mem_imports (d : Document) : d.packagePath ∈ d.imports := by
  rw [imports]
  split
  · rename_i hlisted
    exact List.contains_iff_mem.mp hlisted
  · simp

/-- A document keeps the path that it is built with. -/
theorem packagePath_of_build {attributes : Attributes} {path package initSuffix : String}
    {symbols : SymbolSet} {dialect : Dialect} {d : Document}
    (h : build attributes path package initSuffix symbols dialect = .ok d) :
    d.packagePath = path := by
  obtain ⟨bs, -, rfl⟩ := (build_eq_ok_iff _ _ _ _ _ _).mp h
  rfl

/-- The code of a package prints its path between double quotes as the keys in the two registries,
and a file prints it so among its imports. Whatever stands behind the closing quote, Go reads the
path there, up to that quote, exactly if the path holds no quote, no backslash and no line end. -/
theorem readsString_path_iff {attributes : Attributes} {path package initSuffix : String}
    {symbols : SymbolSet} {dialect : Dialect} {d : Document}
    (h : build attributes path package initSuffix symbols dialect = .ok d) (goPackage : String) :
    Format.go.render d =
      d.aboveKeys ++ quoted path ++ d.betweenKeys ++ quoted path ++ d.belowKeys ∧
    (∃ before after, d.imports = before ++ path :: after ∧
      Format.go.renderFile d goPackage = aboveImports goPackage ++ importLines before ++
        ("\t" ++ quoted path ++ "\n") ++ importLines after ++ ")\n" ++ Format.go.render d) ∧
    ∀ behind : List Char,
      (∀ value rest, Go.ReadsString ((quoted path).toList ++ behind) value rest ↔
        value = Text.Utf8.encode path ∧ rest = behind) ↔
      ∀ c ∈ path.toList, c ≠ '"' ∧ c ≠ '\\' ∧ c ≠ '\n' := by
  have hpath := packagePath_of_build h
  refine ⟨?_, ?_, fun behind => ?_⟩
  · rw [Format.render, code_eq_keys, hpath]
  · obtain ⟨before, after, himports⟩ := List.append_of_mem d.packagePath_mem_imports
    rw [hpath] at himports
    refine ⟨before, after, himports, ?_⟩
    rw [Format.renderFile, codeFile_eq_imports, himports]
    simp only [importLines, List.map_append, List.map_cons, String.join_append, String.join_cons,
      Format.render, String.append_assoc]
  · have htext : (quoted path).toList ++ behind = '"' :: (path.toList ++ '"' :: behind) := by
      simp [quoted]
    rw [htext]
    exact Go.readsString_quoted_iff path.toList behind

theorem readsString_path_iff_dottedPath :
    ∃ d, build noAttributes "gopkg.in/yaml.v3" "yaml" "Yaml"
        (SymbolSet.add {} .funcs ["Marshal"]) {} = .ok d ∧
      d.imports = ["reflect", "gopkg.in/yaml.v3"] ∧
      ∀ behind value rest,
        Go.ReadsString ((quoted "gopkg.in/yaml.v3").toList ++ behind) value rest ↔
          value = Text.Utf8.encode "gopkg.in/yaml.v3" ∧ rest = behind := by
  obtain ⟨d, hd⟩ := exists_build_eq_ok "gopkg.in/yaml.v3" "yaml" "Yaml"
    (SymbolSet.add {} .funcs ["Marshal"]) {} (Dialect.expresses_default _ _ _)
  obtain ⟨-, -, hreads⟩ := readsString_path_iff hd "packages"
  have himports : d.imports = ["reflect", "gopkg.in/yaml.v3"] := by
    obtain ⟨bs, -, rfl⟩ := (build_eq_ok_iff _ _ _ _ _ _).mp hd
    rfl
  exact ⟨d, hd, himports, fun behind => (hreads behind).mpr (by simp)⟩

/-- A package in a directory whose name holds a quote. -/
def quoteFiles : FileTree :=
  { root := .dir [
      ("src", .dir [
        ("a\"b", .dir [("x.go", .file (Text.Utf8.encode "package b\n\nvar A = 0\n"))])])]
    home := [] }

/-- What Go reads at a key is not always the path: behind a directory with a quote in its name it
reads the part of the path up to that quote, and goes on within the path. -/
theorem not_readsString_path :
    ∃ (path : String) (d : Document), discover quoteFiles "src" = .ok [{ path }] ∧
      build noAttributes path "b" "AB" (SymbolSet.add {} .vars ["A"]) {} = .ok d ∧
      Format.go.render d = d.aboveKeys ++ quoted path ++ (d.betweenKeys ++ quoted path ++
        d.belowKeys) ∧
      (∀ behind, Go.ReadsString ((quoted path).toList ++ behind) (Text.Utf8.encode "a")
        ('b' :: '"' :: behind)) ∧
      ∀ behind, ¬ Go.ReadsString ((quoted path).toList ++ behind) (Text.Utf8.encode path)
        behind := by
  obtain ⟨d, hd⟩ := exists_build_eq_ok "a\"b" "b" "AB" (SymbolSet.add {} .vars ["A"]) {}
    (Dialect.expresses_default _ _ _)
  have hpath : d.packagePath = "a\"b" := packagePath_of_build hd
  refine ⟨"a\"b", d, by decide +kernel, hd, ?_, fun behind => ?_, fun behind => ?_⟩
  · rw [Format.render, code_eq_keys, hpath]
    simp only [String.append_assoc]
  · exact ⟨['a'], rfl, .char (by decide) .nil⟩
  · rintro ⟨body, htext, hbody⟩
    have hbody' : "a\"b".toList = body := List.append_cancel_right (List.cons.inj htext).2
    have hfront : ∀ c ∈ ['a'], Go.IsOrdinary c := by simp [Go.IsOrdinary]
    exact Go.not_denotes_append_quote hfront ['b'] _ (hbody' ▸ hbody)

end Document

end Registrar
