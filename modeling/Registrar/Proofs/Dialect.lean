import Mathlib.Data.List.TakeWhile
import Registrar.Document
import Registrar.Proofs.Except

/-!
# Templates that only name fields

A field without index, conversion and layout stands for its value as it is. A template of literal
characters and such fields can therefore be written for all values, the templates of the default
dialect among them, so the default dialect has an expression for every symbol.
-/

namespace Registrar

namespace Text.Template

/-- A field name that is neither a number nor picks anything from its value. -/
def IsPlainName (name : List Char) : Prop :=
  name ≠ [] ∧ numeral name = .notNumeral ∧ ∀ c ∈ name, c ≠ '.' ∧ c ≠ '['

instance (name : List Char) : Decidable (IsPlainName name) :=
  haveI := List.decidableBAll (fun c => c ≠ '.' ∧ c ≠ '[') name
  inferInstanceAs (Decidable (_ ∧ _ ∧ _))

variable (attributes : Attributes)

/-- A plain name resolves to the whole value. -/
theorem resolve_plain {lookup : String → Option String} {name : List Char} {value : String}
    (hname : IsPlainName name) (hvalue : lookup (String.ofList name) = some value) :
    resolve attributes lookup name = .ok (.ofText value.toList) := by
  obtain ⟨hne, hnum, hchars⟩ := hname
  have hhead : ∀ c ∈ name, isHead c = true := by
    intro c hc
    simpa [isHead] using hchars c hc
  have htake : name.takeWhile isHead = name :=
    List.takeWhile_eq_self_iff.mpr hhead
  have hdrop : name.dropWhile isHead = [] :=
    List.dropWhile_eq_nil_iff.mpr hhead
  simp only [resolve, htake, hdrop, hnum, hvalue, List.isEmpty_eq_false_iff.mpr hne, pick]
  rfl

/-- A field that only names a value is written as the value. -/
theorem expandField_plain {lookup : String → Option String}
    {expandLayout : List Char → Except Error (List Char)} {name : List Char} {value : String}
    (hname : IsPlainName name) (hvalue : lookup (String.ofList name) = some value) :
    expandField attributes lookup expandLayout ⟨name, none, []⟩ = .ok value.toList := by
  rw [expandField, resolve_plain attributes hname hvalue]
  have happly : Layout.apply {} value.toList = value.toList := by
    simp [Layout.apply]
  change Except.ok (Layout.apply {} value.toList) = _
  rw [happly]

end Text.Template

namespace Dialect

open Text.Template

/-- The expression that reads a symbol of a category. -/
def accessor (attributes : Attributes) (d : Dialect) :
    Category → String → String → Except AccessorError String
  | .types => d.typeExpression attributes
  | .consts | .vars | .funcs => d.valueExpression attributes

/-- The templates of a dialect give an expression for every listed name. -/
def Expresses (attributes : Attributes) (d : Dialect) (package : String)
    (listed : Category → String → Prop) : Prop :=
  ∀ c name, listed c name → ∃ text, d.accessor attributes c package name = .ok text

/-- A piece that can be written for all packages and symbols: a literal character, or a field
that names the package or the symbol. -/
def IsPlainPiece : Piece → Prop
  | .char _ => True
  | .field f => f.conversion = none ∧ f.layout = [] ∧
      (f.name = "package".toList ∨ f.name = "symbol".toList)
  | .malformed => False

instance : DecidablePred IsPlainPiece
  | .char _ => inferInstanceAs (Decidable True)
  | .field f => inferInstanceAs (Decidable (f.conversion = none ∧ f.layout = [] ∧
      (f.name = "package".toList ∨ f.name = "symbol".toList)))
  | .malformed => inferInstanceAs (Decidable False)

variable (attributes : Attributes)

/-- Plain pieces can be written for every package and symbol. -/
theorem exists_expandPieces_of_plain (e : List Char → Except Error (List Char))
    (package symbol : String) {pieces : List Piece} (h : ∀ piece ∈ pieces, IsPlainPiece piece) :
    ∃ text, expandPieces attributes (fieldValue package symbol) e pieces = .ok text := by
  induction pieces with
  | nil => exact ⟨[], rfl⟩
  | cons piece rest ih =>
    obtain ⟨text, htext⟩ := ih fun p hp => h p (List.mem_cons_of_mem _ hp)
    have hpiece := h piece List.mem_cons_self
    cases piece with
    | char c => exact ⟨c :: text, by rw [expandPieces, htext]; rfl⟩
    | malformed => exact hpiece.elim
    | field f =>
      obtain ⟨name, conversion, layout⟩ := f
      obtain ⟨rfl, rfl, hname⟩ := hpiece
      have hfield : ∃ value,
          expandField attributes (fieldValue package symbol) e ⟨name, none, []⟩ = .ok value := by
        rcases hname with rfl | rfl
        · exact ⟨package.toList, expandField_plain attributes (by decide) rfl⟩
        · exact ⟨symbol.toList, expandField_plain attributes (by decide) rfl⟩
      obtain ⟨value, hvalue⟩ := hfield
      exact ⟨value ++ text, by rw [expandPieces, hvalue, htext]; rfl⟩

/-- A template of plain pieces has an expression for every symbol of every package. -/
theorem exists_expression_of_plain (template : String)
    (hplain : ∀ piece ∈ parse template.toList, IsPlainPiece piece) (package symbol : String) :
    ∃ text, expression attributes (some template) package symbol = .ok text := by
  obtain ⟨text, htext⟩ := exists_expandPieces_of_plain attributes
    (expandLayout attributes (fieldValue package symbol) 1) package symbol hplain
  exact ⟨String.ofList text, by rw [expression, expand, htext]; rfl⟩

/-- The default dialect has an expression for every symbol of every category. -/
theorem expresses_default (package : String) (listed : Category → String → Prop) :
    ({} : Dialect).Expresses attributes package listed := by
  intro c name _
  cases c with
  | types => exact exists_expression_of_plain attributes _ (by decide +kernel) package name
  | consts | vars | funcs =>
    exact exists_expression_of_plain attributes _ (by decide +kernel) package name

end Dialect

end Registrar
