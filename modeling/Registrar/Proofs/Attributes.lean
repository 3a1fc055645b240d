import Registrar.Generator
import Registrar.Proofs.Document

/-!
# What attributes show

What the attributes of a text lead to can change from run to run. A template that takes no attribute
is written alike all the same: its fields pick the same characters, whatever attributes there are.
A dialect of such templates therefore has the same expressions and documents in all runs; any
dialect has them in runs in which attributes lead to the same.
-/

namespace Registrar

namespace Text.Template

/-- Behind an index, an attribute is asked for behind the bracket that closes it. -/
theorem asksAttribute_index {rest after : List Char} {stop : Char}
    (h : rest.dropWhile (· ≠ ']') = stop :: after) :
    asksAttribute ('[' :: rest) = asksAttribute after := by
  rw [asksAttribute]
  split
  · rename_i hnone
    rw [h] at hnone
    cases hnone
  · rename_i hsome
    rw [h] at hsome
    cases hsome
    rfl

/-- Attributes that lead to their own names behind the texts that have them. -/
def namedAttributes : Attributes :=
  fun value name => .ok (.ofText (value ++ '.' :: name))

variable (attributes attributes' : Attributes)

/-- Where no attribute is asked for, the same is picked. -/
theorem pick_congr {name : List Char} (h : asksAttribute name = false) (value : List Char) :
    pick attributes value name = pick attributes' value name := by
  induction name using asksAttribute.induct generalizing value with
  | case1 rest =>
    rw [asksAttribute] at h
    cases h
  | case2 rest hnone =>
    rw [pick, pick]
    split
    · rfl
    · rename_i hsome
      rw [hnone] at hsome
      cases hsome
  | case3 rest stop after hdrop hlength ih =>
    rw [asksAttribute_index hdrop] at h
    rw [pick, pick]
    split
    · rfl
    · rename_i hsome
      rw [hdrop] at hsome
      cases hsome
      simp only [ih h]
  | case4 name hpoint hbracket =>
    cases name with
    | nil => rw [pick, pick]
    | cons c rest =>
      have hc : c ≠ '.' := fun heq => hpoint rest (heq ▸ rfl)
      have hc' : c ≠ '[' := fun heq => hbracket rest (heq ▸ rfl)
      rw [pick.eq_4 _ _ _ _ hc hc', pick.eq_4 _ _ _ _ hc hc']

variable {lookup : String → Option String}

/-- A field name that asks for no attribute stands for the same. -/
theorem resolve_congr {name : List Char} (h : asksAttribute (name.dropWhile isHead) = false) :
    resolve attributes lookup name = resolve attributes' lookup name := by
  simp only [resolve, pick_congr attributes attributes' h]

section Layouts

variable {expandLayout expandLayout' : List Char → Except Error (List Char)}
  {takes : List Char → Bool}
  (hlayout : ∀ layout, takes layout = false → expandLayout layout = expandLayout' layout)
include hlayout

/-- A field that takes no attribute is written alike. -/
theorem expandField_congr {f : Field} (h : f.takesAttribute takes = false) :
    expandField attributes lookup expandLayout f =
      expandField attributes' lookup expandLayout' f := by
  rw [Field.takesAttribute, Bool.or_eq_false_iff] at h
  rw [expandField, expandField, resolve_congr attributes attributes' h.1]
  split
  · rename_i hfields
    rw [hfields, Bool.true_and] at h
    rw [hlayout _ h.2]
  · rfl

/-- Pieces that take no attribute are written alike. -/
theorem expandPieces_congr {pieces : List Piece} (h : piecesTake takes pieces = false) :
    expandPieces attributes lookup expandLayout pieces =
      expandPieces attributes' lookup expandLayout' pieces := by
  induction pieces with
  | nil => rfl
  | cons piece rest ih =>
    rw [piecesTake, List.any_cons, Bool.or_eq_false_iff] at h
    cases piece with
    | malformed => rfl
    | char c => rw [expandPieces, expandPieces, ih h.2]
    | field f =>
      rw [expandPieces, expandPieces, expandField_congr attributes attributes' hlayout h.1, ih h.2]

end Layouts

/-- Layouts whose fields take no attribute are written alike. -/
theorem expandLayout_congr (depth : Nat) :
    ∀ layout, layoutTakes depth layout = false →
      expandLayout attributes lookup depth layout =
        expandLayout attributes' lookup depth layout := by
  induction depth with
  | zero => exact fun _ _ => rfl
  | succ depth ih => exact fun _ h => expandPieces_congr attributes attributes' ih h

/-- A template that takes no attribute is written alike, whatever attributes lead to. -/
theorem expand_congr {template : String} (h : takesAttribute template = false) :
    expand attributes lookup template = expand attributes' lookup template := by
  rw [expand, expand, expandPieces_congr attributes attributes'
    (expandLayout_congr attributes attributes' 1) h]

end Text.Template

namespace Dialect

open Text.Template (Attributes)

variable {d : Dialect} {attributes attributes' : Attributes}

/-- A dialect is read alike in two runs: attributes lead to the same in both, or no template of the
dialect takes any. -/
def ReadsAlike (d : Dialect) (attributes attributes' : Attributes) : Prop :=
  attributes = attributes' ∨ d.takesAttribute = false

/-- The default dialect is read alike in all runs. -/
theorem readsAlike_default (attributes attributes' : Attributes) :
    ({} : Dialect).ReadsAlike attributes attributes' :=
  .inr (by decide +kernel)

/-- A template that takes no attribute, or none at all, has the same expressions in all runs. -/
theorem expression_congr {template : Option String}
    (h : template.any Text.Template.takesAttribute = false) :
    expression attributes template = expression attributes' template := by
  funext package symbol
  cases template with
  | none => rfl
  | some t => rw [expression, expression, Text.Template.expand_congr attributes attributes' h]

/-- A dialect that is read alike has the same expressions. -/
theorem ReadsAlike.accessor_eq (h : d.ReadsAlike attributes attributes') (c : Category) :
    d.accessor attributes c = d.accessor attributes' c := by
  rcases h with rfl | h
  · rfl
  · rw [takesAttribute, Bool.or_eq_false_iff] at h
    cases c with
    | types => exact expression_congr h.2
    | consts | vars | funcs => exact expression_congr h.1

/-- A dialect that is read alike gives the same documents and the same failures. -/
theorem ReadsAlike.build_eq (h : d.ReadsAlike attributes attributes')
    (path package initSuffix : String) (symbols : SymbolSet) :
    Document.build attributes path package initSuffix symbols d =
      Document.build attributes' path package initSuffix symbols d := by
  have hvalues : d.valueExpression attributes = d.valueExpression attributes' :=
    h.accessor_eq .consts
  have htypes : d.typeExpression attributes = d.typeExpression attributes' :=
    h.accessor_eq .types
  rw [Document.build, Document.build, hvalues, htypes]

/-- A point asks for an attribute, an index does not. -/
example : ({ valueAccessor := some "\x7bsymbol.upper\x7d" } : Dialect).takesAttribute = true ∧
    ({ valueAccessor := some "\x7bsymbol[0]!r\x7d" } : Dialect).takesAttribute = false := by
  decide +kernel

end Dialect

namespace Generator

open Text.Template (Attributes)

variable {g : Generator} {attributes : Attributes}

/-- A generator in a run in which attributes lead elsewhere. -/
def withAttributes (g : Generator) (attributes : Attributes) : Generator :=
  { g with attributes }

variable (h : g.dialect.ReadsAlike g.attributes attributes)
include h

/-- A dialect that is read alike gives the same documents of the same packages. -/
theorem buildFrom_withAttributes (tree : SourceTree) (directory path initSuffix : String) :
    (g.withAttributes attributes).buildFrom tree directory path initSuffix =
      g.buildFrom tree directory path initSuffix := by
  simp only [buildFrom, h.build_eq]
  rfl

/-- A dialect that is read alike gives the same documents of the same directories. -/
theorem build_withAttributes (files : FileTree) (root path directory initSuffix : String) :
    (g.withAttributes attributes).build files root path directory initSuffix =
      g.build files root path directory initSuffix := by
  simp only [build, buildFrom_withAttributes h]
  rfl

/-- A dialect that is read alike gives the same texts of the same directories. -/
theorem generate_withAttributes (files : FileTree) (root path directory initSuffix : String) :
    (g.withAttributes attributes).generate files root path directory initSuffix =
      g.generate files root path directory initSuffix := by
  rw [generate, generate, build_withAttributes h]
  rfl

end Generator

end Registrar
