import Registrar.Document.Format
import Registrar.Proofs.JsonReading

/-!
# Reading documents from JSON

The JSON text of a document is read as its JSON form, in every layout. The form names every value
section if no two of them share a name; no object of it then has a name twice, so nothing is lost
when its members are looked up by name.
-/

namespace Registrar

namespace Text.Json

mutual

/-- No object in a value has two members of one name. -/
def HasDistinctNames : Json → Prop
  | .text _ => True
  | .list items => HaveDistinctNames items
  | .object members => (members.map Prod.fst).Nodup ∧ MembersHaveDistinctNames members

/-- No object in the items of a list has two members of one name. -/
def HaveDistinctNames : List Json → Prop
  | [] => True
  | item :: items => HasDistinctNames item ∧ HaveDistinctNames items

/-- No object in the members of an object has two members of one name. -/
def MembersHaveDistinctNames : List (String × Json) → Prop
  | [] => True
  | (_, value) :: members => HasDistinctNames value ∧ MembersHaveDistinctNames members

end

theorem haveDistinctNames_iff (items : List Json) :
    HaveDistinctNames items ↔ ∀ item ∈ items, item.HasDistinctNames := by
  induction items with
  | nil => simp [HaveDistinctNames]
  | cons item items ih => rw [HaveDistinctNames, ih, List.forall_mem_cons]

theorem membersHaveDistinctNames_iff (members : List (String × Json)) :
    MembersHaveDistinctNames members ↔ ∀ m ∈ members, m.2.HasDistinctNames := by
  induction members with
  | nil => simp [MembersHaveDistinctNames]
  | cons m members ih =>
    obtain ⟨name, value⟩ := m
    rw [MembersHaveDistinctNames, ih, List.forall_mem_cons]

end Text.Json

namespace Document

open Text (Json)

/-- A name that has no bindings yet is added at the end. -/
theorem putBindings_of_notMem {name : String} {bindings : List Binding}
    {table : List (String × List Binding)} (h : name ∉ table.map Prod.fst) :
    putBindings name bindings table = table ++ [(name, bindings)] := by
  induction table with
  | nil => rfl
  | cons entry rest ih =>
    rw [List.map_cons, List.mem_cons, not_or] at h
    rw [putBindings, if_neg (Ne.symm h.1), ih h.2, List.cons_append]

/-- If no two value sections share a name, each of them stands under its own. -/
theorem valuesByName_eq (d : Document) (h : (d.valueSections.map Section.name).Nodup) :
    d.valuesByName = d.valueSections.map fun s => (s.name, s.bindings) := by
  have hrun : ∀ (sections : List Section) (table : List (String × List Binding)),
      (table.map Prod.fst ++ sections.map Section.name).Nodup →
      sections.foldl (fun table s => putBindings s.name s.bindings table) table =
        table ++ sections.map fun s => (s.name, s.bindings) := by
    intro sections
    induction sections with
    | nil => simp
    | cons s sections ih =>
      intro table hnodup
      have hs : s.name ∉ table.map Prod.fst := by
        intro hmem
        exact (List.nodup_append.mp hnodup).2.2 _ hmem _ (by simp) rfl
      rw [List.foldl_cons, putBindings_of_notMem hs, ih]
      · simp
      · simpa using hnodup
  rw [valuesByName, hrun d.valueSections [] (by simpa using h), List.nil_append]

/-- The JSON form of bindings has no name twice. -/
theorem hasDistinctNames_bindingsJson (bindings : List Binding) :
    (bindingsJson bindings).HasDistinctNames := by
  rw [bindingsJson, Json.HasDistinctNames, Json.haveDistinctNames_iff]
  intro item hitem
  obtain ⟨b, -, rfl⟩ := List.mem_map.mp hitem
  simp [Json.HasDistinctNames, Json.MembersHaveDistinctNames]

/-- The JSON form of a document has no name twice if no two value sections share one. -/
theorem hasDistinctNames_toJson (d : Document) (h : (d.valueSections.map Section.name).Nodup) :
    d.toJson.HasDistinctNames := by
  have hvalues : (Json.object (d.valuesByName.map fun s =>
      (s.1, bindingsJson s.2))).HasDistinctNames := by
    rw [d.valuesByName_eq h, Json.HasDistinctNames, Json.membersHaveDistinctNames_iff]
    constructor
    · simpa [Function.comp_def] using h
    · intro m hm
      obtain ⟨s, -, rfl⟩ := List.mem_map.mp hm
      exact hasDistinctNames_bindingsJson s.2
  rw [toJson, Json.HasDistinctNames, Json.membersHaveDistinctNames_iff]
  refine ⟨by simp, ?_⟩
  simp only [List.forall_mem_cons, List.not_mem_nil, false_implies, implies_true, and_true]
  exact ⟨trivial, trivial, trivial, hvalues, hasDistinctNames_bindingsJson _⟩

/-- The indent of the given width, empty for a negative one. -/
def blanks (width : Int) : String :=
  String.ofList (List.replicate width.toNat ' ')

/-- An indent of blanks is white space. -/
theorem isSpaced_blanks (width : Option Int) :
    Json.IsSpaced ((width.map blanks).map String.toList) := by
  intro unit hunit c hc
  cases width with
  | none => cases hunit
  | some width =>
    cases hunit
    rw [blanks, String.toList_ofList] at hc
    rw [List.eq_of_mem_replicate hc]
    rfl

/-- The JSON text of a document, on one line or with an indent of any width, is pure ASCII, ends
with its line and is read as one value: the JSON form of the document, which gives the name of the
function, the path, the package, and every section with its bindings in order. -/
theorem read_render_json (d : Document) (h : (d.valueSections.map Section.name).Nodup)
    (width : Option Int) :
    (∀ c ∈ ((Format.json (width.map blanks)).render d).toList, c.toNat < 0x80) ∧
    (∃ body, (Format.json (width.map blanks)).render d = body ++ "\n") ∧
    Json.read ((Format.json (width.map blanks)).render d) = some (.object [
      ("init", .text ("init" ++ d.initSuffix)),
      ("path", .text d.packagePath),
      ("package", .text d.packageName),
      ("values", .object (d.valueSections.map fun s => (s.name, bindingsJson s.bindings))),
      ("types", bindingsJson d.typeSection.bindings)]) ∧
    d.toJson.HasDistinctNames := by
  have hspaced := isSpaced_blanks width
  have htext : (Format.json (width.map blanks)).render d =
      String.ofList (d.toJson.write ((width.map blanks).map String.toList) 0 ++ ['\n']) := by
    rw [Format.render, jsonText, String.ofList_append]
  have hform : d.toJson = .object [
      ("init", .text ("init" ++ d.initSuffix)),
      ("path", .text d.packagePath),
      ("package", .text d.packageName),
      ("values", .object (d.valueSections.map fun s => (s.name, bindingsJson s.bindings))),
      ("types", bindingsJson d.typeSection.bindings)] := by
    rw [toJson, d.valuesByName_eq h, List.map_map]
    rfl
  refine ⟨?_, ⟨_, rfl⟩, ?_, hasDistinctNames_toJson d h⟩
  · have hascii := Json.isAscii_write hspaced 0 d.toJson
    rw [htext, String.toList_ofList]
    exact (Json.isAscii_append _ _).mpr ⟨hascii, by simp⟩
  · rw [htext, Json.read_write hspaced d.toJson (List.forall_mem_singleton.mpr rfl), hform]

/-- A document whose texts hold what has to be escaped: marks, control characters, and characters
of one and of two UTF-16 units. -/
def escapedDocument : Document where
  initSuffix := "É"
  packagePath := "a\"b\\c/😀"
  packageName := "p\x01\x7f\n"
  valueSections := [
    { name := "constants", bindings := [{ symbol := "Σ", accessor := "\t\"Σ\"\r" }] },
    { name := "variables" }]

/-- The JSON form of the document. -/
def escapedJson : Json :=
  .object [
    ("init", .text "initÉ"), ("path", .text "a\"b\\c/😀"), ("package", .text "p\x01\x7f\n"),
    ("values", .object [
      ("constants", .list [.object [("symbol", .text "Σ"), ("accessor", .text "\t\"Σ\"\r")]]),
      ("variables", .list [])]),
    ("types", .list [])]

theorem read_render_json_escapedDocument :
    (escapedDocument.valueSections.map Section.name).Nodup ∧
      Json.read ((Format.json ((none : Option Int).map blanks)).render escapedDocument) =
        some escapedJson ∧
      Json.read ((Format.json ((some (-1)).map blanks)).render escapedDocument) =
        some escapedJson ∧
      Json.read ((Format.json ((some 2).map blanks)).render escapedDocument) =
        some escapedJson := by
  have hnames : (escapedDocument.valueSections.map Section.name).Nodup := by
    decide
  exact ⟨hnames, (read_render_json escapedDocument hnames none).2.2.1,
    (read_render_json escapedDocument hnames (some (-1))).2.2.1,
    (read_render_json escapedDocument hnames (some 2)).2.2.1⟩

end Document

end Registrar
