import Registrar.Proofs.Document

/-!
# Substitution in accessor templates

A template can be put together from literal texts, in which every brace is doubled, and fields that
name the package or the symbol. However these stand next to each other, the template is cut where it
was put together, and its expression is the literal texts with the package and the symbol between
them. Braces of the package or the symbol are text like everything else that is inserted.
-/

namespace Registrar

namespace Text.Template

/-- A text with every brace doubled. -/
def doubled (text : List Char) : List Char :=
  text.flatMap fun c => if c = '{' ∨ c = '}' then [c, c] else [c]

/-- A field name that ends where its field ends. -/
def IsFieldName (name : List Char) : Prop :=
  IsPlainName name ∧ ∀ c ∈ name, c ≠ '{' ∧ c ≠ '}' ∧ c ≠ ':' ∧ c ≠ '!'

instance (name : List Char) : Decidable (IsFieldName name) :=
  haveI := List.decidableBAll (fun c => c ≠ '{' ∧ c ≠ '}' ∧ c ≠ ':' ∧ c ≠ '!') name
  inferInstanceAs (Decidable (_ ∧ _))

/-! ## Where a template is cut -/

/-- A character that is no brace stands for itself. -/
theorem parse_cons_of_ne {c : Char} (hopen : c ≠ '{') (hclose : c ≠ '}') (rest : List Char) :
    parse (c :: rest) = .char c :: parse rest :=
  parse.eq_6 c rest (fun _ h => absurd h hopen) (fun _ h => absurd h hclose) hclose hopen

/-- A text with doubled braces is read character by character, whatever follows it. -/
theorem parse_doubled_append (text rest : List Char) :
    parse (doubled text ++ rest) = text.map .char ++ parse rest := by
  induction text with
  | nil => rfl
  | cons c text ih =>
    have hstep : parse (doubled (c :: text) ++ rest) = .char c :: parse (doubled text ++ rest) := by
      rw [doubled, List.flatMap_cons, ← doubled, List.append_assoc]
      by_cases hopen : c = '{'
      · subst hopen
        exact parse.eq_2 _
      · by_cases hclose : c = '}'
        · subst hclose
          exact parse.eq_3 _
        · rw [if_neg (not_or.mpr ⟨hopen, hclose⟩)]
          exact parse_cons_of_ne hopen hclose _
    rw [hstep, ih, List.map_cons, List.cons_append]

/-- The name of a field is read up to the brace that closes the field. -/
theorem readName_append {name : List Char}
    (h : ∀ c ∈ name, c ≠ '[' ∧ c ≠ '{' ∧ c ≠ '}' ∧ c ≠ ':' ∧ c ≠ '!') (rest : List Char) :
    readName false (name ++ '}' :: rest) = some (name, '}', rest) := by
  induction name with
  | nil => rfl
  | cons c name ih =>
    obtain ⟨⟨hindex, hopen, hclose, hcolon, hmark⟩, hname⟩ := List.forall_mem_cons.mp h
    have hstop : ¬ (c = '}' ∨ c = ':' ∨ c = '!') := by
      rintro (h | h | h)
      · exact hclose h
      · exact hcolon h
      · exact hmark h
    rw [List.cons_append, readName, if_neg Bool.false_ne_true, if_neg hopen, if_neg hstop,
      decide_eq_false hindex, ih hname]
    rfl

/-- A field between braces is read as a field, whatever follows it. -/
theorem parse_field_append {name : List Char} (h : IsFieldName name) (rest : List Char) :
    parse ('{' :: (name ++ '}' :: rest)) = .field ⟨name, none, []⟩ :: parse rest := by
  obtain ⟨⟨hne, -, hplain⟩, hstop⟩ := h
  have hread : readField (name ++ '}' :: rest) = some (⟨name, none, []⟩, rest) := by
    have hname := readName_append (fun c hc => ⟨(hplain c hc).2, hstop c hc⟩) rest
    simp only [readField, hname]
  have hsingle : ∀ tail, name ++ '}' :: rest = '{' :: tail → False := by
    intro tail heq
    obtain ⟨c, name, rfl⟩ := List.exists_cons_of_ne_nil hne
    exact (hstop c List.mem_cons_self).1 (List.cons.inj heq).1
  rw [parse.eq_5 _ hsingle]
  split
  · rename_i hnone
    rw [hread] at hnone
    cases hnone
  · rename_i f rest' hsome
    rw [hread] at hsome
    cases hsome
    rfl

/-! ## What is written -/

section Pieces

variable (attributes : Attributes) (lookup : String → Option String)
  (e : List Char → Except Error (List Char))

theorem expandPieces_map_char_append (text : List Char) (pieces : List Piece) :
    expandPieces attributes lookup e (text.map .char ++ pieces) =
      (expandPieces attributes lookup e pieces).map (text ++ ·) := by
  induction text with
  | nil => cases h : expandPieces attributes lookup e pieces <;> simp [Except.map, h]
  | cons c text ih =>
    rw [List.map_cons, List.cons_append, expandPieces, ih]
    cases expandPieces attributes lookup e pieces <;> rfl

variable {lookup}

/-- A field is cut off and written as its value, whatever follows it. -/
theorem expandPieces_parse_field {name : List Char} {value : String} (hname : IsFieldName name)
    (hvalue : lookup (String.ofList name) = some value) (rest : List Char) :
    expandPieces attributes lookup e (parse ('{' :: (name ++ '}' :: rest))) =
      (expandPieces attributes lookup e (parse rest)).map (value.toList ++ ·) := by
  rw [parse_field_append hname, expandPieces, expandField_plain attributes hname.1 hvalue]
  cases expandPieces attributes lookup e (parse rest) <;> rfl

end Pieces

end Text.Template

namespace Dialect

open Text.Template

/-- A part of an accessor template that is put together. -/
inductive Chunk where
  /-- A text that stands for itself. -/
  | literal (text : String)
  /-- The field of the package. -/
  | package
  /-- The field of the symbol. -/
  | symbol
  deriving DecidableEq, Repr

namespace Chunk

/-- A part as it stands in a template. -/
def written : Chunk → String
  | literal text => String.ofList (doubled text.toList)
  | package => "\x7bpackage\x7d"
  | symbol => "\x7bsymbol\x7d"

/-- A part as it stands in an expression. -/
def filled (packageName symbolName : String) : Chunk → String
  | literal text => text
  | package => packageName
  | symbol => symbolName

end Chunk

/-- The template that is put together from some parts. -/
def templateOf (chunks : List Chunk) : String :=
  String.join (chunks.map Chunk.written)

/-- The parts of a template with a package and a symbol in the places of the fields. -/
def fill (package symbol : String) (chunks : List Chunk) : String :=
  String.join (chunks.map (Chunk.filled package symbol))

/-- The dialect with accessor templates that are put together from some parts. -/
def withAccessors (d : Dialect) (values types : List Chunk) : Dialect :=
  { d with
    valueAccessor := some (templateOf values)
    typeAccessor := some (templateOf types) }

variable (attributes : Attributes)

/-- One part of a template is cut off and written, whatever parts follow it. -/
theorem expandPieces_parse_written (e : List Char → Except Error (List Char))
    (packageName symbolName : String) (chunk : Chunk) (rest : List Char) :
    expandPieces attributes (fieldValue packageName symbolName) e
        (parse (chunk.written.toList ++ rest)) =
      (expandPieces attributes (fieldValue packageName symbolName) e (parse rest)).map
        ((chunk.filled packageName symbolName).toList ++ ·) := by
  cases chunk with
  | literal text =>
    rw [Chunk.written, String.toList_ofList, parse_doubled_append, expandPieces_map_char_append,
      Chunk.filled]
  | package =>
    have hfield : IsFieldName "package".toList := by decide
    have hvalue : fieldValue packageName symbolName (String.ofList "package".toList) =
        some packageName := rfl
    exact expandPieces_parse_field attributes e hfield hvalue rest
  | symbol =>
    have hfield : IsFieldName "symbol".toList := by decide
    have hvalue : fieldValue packageName symbolName (String.ofList "symbol".toList) =
        some symbolName := rfl
    exact expandPieces_parse_field attributes e hfield hvalue rest

/-- All parts of a template are cut off and written in order. -/
theorem expandPieces_parse_templateOf (e : List Char → Except Error (List Char))
    (packageName symbolName : String) (chunks : List Chunk) :
    expandPieces attributes (fieldValue packageName symbolName) e
        (parse (templateOf chunks).toList) =
      .ok (fill packageName symbolName chunks).toList := by
  induction chunks with
  | nil =>
    have hempty : parse (templateOf []).toList = [] := parse.eq_1
    rw [hempty]
    rfl
  | cons chunk chunks ih =>
    have htemplate : (templateOf (chunk :: chunks)).toList =
        chunk.written.toList ++ (templateOf chunks).toList := by
      rw [templateOf, List.map_cons, String.join_cons, String.toList_append, templateOf]
    have hfill : (fill packageName symbolName (chunk :: chunks)).toList =
        (chunk.filled packageName symbolName).toList ++
          (fill packageName symbolName chunks).toList := by
      rw [fill, List.map_cons, String.join_cons, String.toList_append, fill]
    rw [htemplate, expandPieces_parse_written, ih, hfill]
    rfl

/-- The expression of a template of some parts. -/
theorem expression_templateOf (chunks : List Chunk) (package symbol : String) :
    expression attributes (some (templateOf chunks)) package symbol =
      .ok (fill package symbol chunks) := by
  rw [expression, expand, expandPieces_parse_templateOf]
  exact congrArg Except.ok String.ofList_toList

/-- Names are bound to the expressions of a template of some parts. -/
theorem bind_expression_templateOf (chunks : List Chunk) (package : String) (names : List String) :
    Document.bind (expression attributes (some (templateOf chunks))) package names =
      .ok (names.map fun name => { symbol := name, accessor := fill package name chunks }) := by
  rw [Document.bind_eq_ok_iff, List.forall₂_map_right_iff, List.forall₂_same]
  exact fun name _ => ⟨rfl, expression_templateOf attributes chunks package name⟩

/-- Accessor templates that are put together from literal texts and fields have the expressions that
are put together alike from the same texts and the package and the symbol, whatever these and their
attributes are, and bindings hold these expressions. -/
theorem expressions_fill_once (d : Dialect) (values types : List Chunk) (package symbol : String)
    (names : List String) :
    (d.withAccessors values types).valueExpression attributes package symbol =
        .ok (fill package symbol values) ∧
      (d.withAccessors values types).typeExpression attributes package symbol =
        .ok (fill package symbol types) ∧
      Document.bind ((d.withAccessors values types).valueExpression attributes) package names =
        .ok (names.map fun name => { symbol := name, accessor := fill package name values }) ∧
      Document.bind ((d.withAccessors values types).typeExpression attributes) package names =
        .ok (names.map fun name => { symbol := name, accessor := fill package name types }) :=
  ⟨expression_templateOf attributes values package symbol,
    expression_templateOf attributes types package symbol,
    bind_expression_templateOf attributes values package names,
    bind_expression_templateOf attributes types package names⟩

/-- Braces of the texts, of the package and of the symbol are written as they are. -/
example : (({} : Dialect).withAccessors
      [.literal "\x7b", .package, .literal "\x7d\x7d", .symbol, .literal "\x7b"] []).valueExpression
      noAttributes "\x7bsymbol\x7d" "\x7d\x7b" =
    .ok "\x7b\x7bsymbol\x7d\x7d\x7d\x7d\x7b\x7b" := by
  decide +kernel

end Dialect

end Registrar
