import Mathlib.Data.List.TakeWhile
import Registrar.Document.Format
import Registrar.Proofs.Document

/-!
# Reading registration functions back

The code of a document can be read again, given the dialect that it is written in. A symbol ends at
the quote behind it and an expression at the end of its line, and what a line starts with tells a
binding from the end of its section, so no section needs its length in front of it. The reader
accepts a text exactly if it is the code of a document whose path and symbols hold no quote and
whose suffix and expressions hold no line end, and such a document is therefore determined by its
code. Only the package name is left open, which shows in the expressions alone.
-/

namespace Registrar

namespace Text

/-- The text in front of the first `stop` and the text behind it. -/
def cut? (stop : Char) : List Char → Option (List Char × List Char)
  | [] => none
  | c :: rest =>
    if c = stop then some ([], rest)
    else (cut? stop rest).map fun cut => (c :: cut.1, cut.2)

/-- The text in front of a mark at its end. -/
def dropEnd? (mark text : List Char) : Option (List Char) :=
  (text.reverse.dropPrefix? mark.reverse).map List.reverse

/-- A text is cut at its first `stop`. -/
theorem cut?_eq_some_iff {stop : Char} {text front rest : List Char} :
    cut? stop text = some (front, rest) ↔ stop ∉ front ∧ text = front ++ stop :: rest := by
  induction text generalizing front with
  | nil => simp [cut?]
  | cons c text ih =>
    rw [cut?]
    by_cases hc : c = stop
    · subst hc
      rw [if_pos rfl]
      constructor
      · intro h
        cases h
        simp
      · rintro ⟨hfront, htext⟩
        cases front with
        | nil => simpa using htext
        | cons d front => simp_all
    · rw [if_neg hc, Option.map_eq_some_iff]
      constructor
      · rintro ⟨⟨front', rest'⟩, hcut, heq⟩
        cases heq
        obtain ⟨hfront, htext⟩ := ih.mp hcut
        exact ⟨by simp [hfront, Ne.symm hc], by rw [htext, List.cons_append]⟩
      · rintro ⟨hfront, htext⟩
        cases front with
        | nil => exact absurd (List.cons.inj htext).1 hc
        | cons d front =>
          obtain ⟨rfl, htail⟩ := List.cons.inj htext
          exact ⟨(front, rest), ih.mpr ⟨fun hmem => hfront (.tail _ hmem), htail⟩, rfl⟩

/-- A mark at the front of a text is dropped if it stands there. -/
theorem dropPrefix?_eq_some_iff {mark text rest : List Char} :
    text.dropPrefix? mark = some rest ↔ text = mark ++ rest := by
  rw [List.dropPrefix?_eq_some_iff]
  simp

/-- A mark at the end of a text is dropped if it stands there. -/
theorem dropEnd?_eq_some_iff {mark text front : List Char} :
    dropEnd? mark text = some front ↔ text = front ++ mark := by
  rw [dropEnd?, Option.map_eq_some_iff]
  constructor
  · rintro ⟨back, hback, rfl⟩
    rw [dropPrefix?_eq_some_iff] at hback
    rw [← List.reverse_inj, hback]
    simp
  · rintro rfl
    exact ⟨front.reverse, by simp [dropPrefix?_eq_some_iff], front.reverse_reverse⟩

end Text

/-- A binding whose symbol ends at the quote behind it, and whose expression at the end of its
line. -/
def Binding.IsLegible (b : Binding) : Prop :=
  '"' ∉ b.symbol.toList ∧ '\n' ∉ b.accessor.toList

instance : DecidablePred Binding.IsLegible := fun b =>
  inferInstanceAs (Decidable ('"' ∉ b.symbol.toList ∧ '\n' ∉ b.accessor.toList))

namespace Document

open Text (cut? cut?_eq_some_iff dropEnd? dropEnd?_eq_some_iff dropPrefix?_eq_some_iff)
open Text.Template (Attributes noAttributes)

/-! ### Bindings -/

/-- The binding that a text starts with and the text behind its line. -/
def readBinding? (text : List Char) : Option (Binding × List Char) := do
  let text ← text.dropPrefix? "\t\t\"".toList
  let (symbol, text) ← cut? '"' text
  let text ← text.dropPrefix? ": ".toList
  let (line, text) ← cut? '\n' text
  let accessor ← dropEnd? [','] line
  return ({ symbol := String.ofList symbol, accessor := String.ofList accessor }, text)

/-- A binding is read if the text starts with its line. -/
theorem readBinding?_eq_some_iff {text rest : List Char} {b : Binding} :
    readBinding? text = some (b, rest) ↔
      b.IsLegible ∧ text = (bindingLine b).toList ++ rest := by
  simp only [readBinding?, Option.bind_eq_bind, Option.bind_eq_some_iff, Option.pure_def,
    Option.some.injEq, Prod.mk.injEq, Prod.exists, dropPrefix?_eq_some_iff, cut?_eq_some_iff,
    dropEnd?_eq_some_iff]
  constructor
  · rintro ⟨_, rfl, symbol, _, ⟨hsymbol, rfl⟩, _, rfl, _, _, ⟨hline, rfl⟩, accessor, rfl, rfl, rfl⟩
    have haccessor : '\n' ∉ accessor := fun hmem => hline (List.mem_append_left _ hmem)
    exact ⟨⟨by simpa using hsymbol, by simpa using haccessor⟩, by simp [bindingLine]⟩
  · rintro ⟨⟨hsymbol, haccessor⟩, rfl⟩
    have hline : '\n' ∉ b.accessor.toList ++ [','] := by simpa using haccessor
    refine ⟨_, ?_, b.symbol.toList, _, ⟨hsymbol, rfl⟩, _, rfl, _, _, ⟨hline, rfl⟩, _, rfl, ?_, rfl⟩
    · simp [bindingLine]
    · simp

/-- What stands behind a binding is shorter than the text. -/
theorem length_lt_of_readBinding? {text rest : List Char} {b : Binding}
    (h : readBinding? text = some (b, rest)) : rest.length < text.length := by
  rw [(readBinding?_eq_some_iff.mp h).2]
  simp [bindingLine]
  omega

/-- The bindings that a text starts with and the text behind them. -/
def readBindings (text : List Char) : List Binding × List Char :=
  match _h : readBinding? text with
  | none => ([], text)
  | some (b, rest) => (b :: (readBindings rest).1, (readBindings rest).2)
termination_by text.length
decreasing_by all_goals exact length_lt_of_readBinding? _h

/-- A text that starts with no binding is left as it is. -/
theorem readBindings_of_none {text : List Char} (h : readBinding? text = none) :
    readBindings text = ([], text) := by
  rw [readBindings]
  split
  · rfl
  · simp_all

/-- The bindings behind the first one are read the same way. -/
theorem readBindings_of_some {text rest : List Char} {b : Binding}
    (h : readBinding? text = some (b, rest)) :
    readBindings text = (b :: (readBindings rest).1, (readBindings rest).2) := by
  rw [readBindings]
  split
  · simp_all
  · simp_all

/-- Bindings are read if the text starts with their lines, and the reading stops where no further
binding stands. -/
theorem readBindings_eq_iff {text rest : List Char} {bs : List Binding} :
    readBindings text = (bs, rest) ↔ (∀ b ∈ bs, b.IsLegible) ∧
      text = (String.join (bs.map bindingLine)).toList ++ rest ∧ readBinding? rest = none := by
  induction bs generalizing text with
  | nil =>
    constructor
    · intro h
      cases hread : readBinding? text with
      | none =>
        rw [readBindings_of_none hread] at h
        cases h
        exact ⟨by simp, by simp, hread⟩
      | some read =>
        rw [readBindings_of_some hread] at h
        cases h
    · rintro ⟨-, htext, hrest⟩
      have htext : text = rest := by simpa using htext
      rw [htext, readBindings_of_none hrest]
  | cons b bs ih =>
    constructor
    · intro h
      cases hread : readBinding? text with
      | none =>
        rw [readBindings_of_none hread] at h
        cases h
      | some read =>
        obtain ⟨b', behind⟩ := read
        rw [readBindings_of_some hread] at h
        obtain ⟨rfl, hbs⟩ := List.cons.inj (Prod.mk.inj h).1
        obtain ⟨hlegible, htext⟩ := readBinding?_eq_some_iff.mp hread
        obtain ⟨hlegibles, hbehind, hrest⟩ := ih.mp (Prod.ext hbs (Prod.mk.inj h).2)
        refine ⟨List.forall_mem_cons.mpr ⟨hlegible, hlegibles⟩, ?_, hrest⟩
        rw [htext, hbehind]
        simp
    · rintro ⟨hlegible, htext, hrest⟩
      obtain ⟨hlegible, hlegibles⟩ := List.forall_mem_cons.mp hlegible
      have hread : readBinding? text =
          some (b, (String.join (bs.map bindingLine)).toList ++ rest) :=
        readBinding?_eq_some_iff.mpr ⟨hlegible, by rw [htext]; simp⟩
      rw [readBindings_of_some hread, ih.mpr ⟨hlegibles, rfl, hrest⟩]

/-! ### Sections -/

/-- No binding stands where a text does not start like one. -/
theorem readBinding?_eq_none {text : List Char} (h : text.dropPrefix? "\t\t\"".toList = none) :
    readBinding? text = none := by
  rw [readBinding?, h]
  rfl

/-- The section of a name that a text starts with and the text behind it. -/
def readSection? (name : String) (text : List Char) : Option (Section × List Char) := do
  let text ← text.dropPrefix? ("\t\t// " ++ name ++ "\n").toList
  return ({ name, bindings := (readBindings text).1 }, (readBindings text).2)

/-- A section is read if the text starts with its lines and no further binding stands behind
them. -/
theorem readSection?_eq_some_iff {name : String} {text rest : List Char} {s : Section} :
    readSection? name text = some (s, rest) ↔
      s.name = name ∧ (∀ b ∈ s.bindings, b.IsLegible) ∧
      text = (sectionLines s).toList ++ rest ∧ readBinding? rest = none := by
  simp only [readSection?, Option.bind_eq_bind, Option.bind_eq_some_iff, Option.pure_def,
    Option.some.injEq, Prod.mk.injEq, dropPrefix?_eq_some_iff]
  constructor
  · rintro ⟨behind, rfl, rfl, rfl⟩
    obtain ⟨hlegible, hbehind, hnone⟩ := readBindings_eq_iff.mp (Eq.refl (readBindings behind))
    refine ⟨rfl, hlegible, ?_, hnone⟩
    simp only [sectionLines, String.toList_append, List.append_assoc] at hbehind ⊢
    rw [← hbehind]
  · rintro ⟨rfl, hlegible, rfl, hnone⟩
    have hread := readBindings_eq_iff.mpr ⟨hlegible, rfl, hnone⟩
    refine ⟨(String.join (s.bindings.map bindingLine)).toList ++ rest, ?_, ?_, ?_⟩
    · simp [sectionLines]
    · rw [hread]
    · rw [hread]

/-- The sections of the given names that a text starts with, and the text behind them. -/
def readSections? : List String → List Char → Option (List Section × List Char)
  | [], text => some ([], text)
  | [name], text => do
    let (s, text) ← readSection? name text
    return ([s], text)
  | name :: next :: names, text => do
    let (s, text) ← readSection? name text
    let text ← text.dropPrefix? ['\n']
    let (sections, text) ← readSections? (next :: names) text
    return (s :: sections, text)

/-- Sections are read if the text starts with their lines and no further binding stands behind
them. -/
theorem readSections?_eq_some_iff {names : List String} (hnames : names ≠ [])
    {text rest : List Char} {sections : List Section} :
    readSections? names text = some (sections, rest) ↔
      sections.map Section.name = names ∧ (∀ s ∈ sections, ∀ b ∈ s.bindings, b.IsLegible) ∧
      text = ("\n".intercalate (sections.map sectionLines)).toList ++ rest ∧
      readBinding? rest = none := by
  fun_induction readSections? names text generalizing sections with
  | case1 text => exact absurd rfl hnames
  | case2 name text =>
    simp only [Option.bind_eq_bind, Option.bind_eq_some_iff, Option.pure_def, Option.some.injEq,
      Prod.mk.injEq, Prod.exists, readSection?_eq_some_iff]
    constructor
    · rintro ⟨s, _, ⟨rfl, hlegible, rfl, hnone⟩, rfl, rfl⟩
      exact ⟨rfl, by simpa using hlegible, by simp, hnone⟩
    · rintro ⟨hmap, hlegible, rfl, hnone⟩
      obtain ⟨s, rfl, rfl⟩ := List.map_eq_singleton_iff.mp hmap
      exact ⟨s, rest, ⟨rfl, by simpa using hlegible, by simp, hnone⟩, rfl, rfl⟩
  | case3 name next names text ih =>
    simp only [Option.bind_eq_bind, Option.bind_eq_some_iff, Option.pure_def, Option.some.injEq,
      Prod.mk.injEq, Prod.exists, readSection?_eq_some_iff, dropPrefix?_eq_some_iff]
    constructor
    · rintro ⟨s, _, ⟨rfl, hlegible, rfl, -⟩, behind, rfl, sections, _, hread, rfl, rfl⟩
      obtain ⟨hmap, hlegibles, rfl, hnone⟩ := (ih behind (List.cons_ne_nil _ _)).mp hread
      obtain ⟨s', sections, rfl, -, -⟩ := List.map_eq_cons_iff.mp hmap
      refine ⟨by rw [List.map_cons, hmap], List.forall_mem_cons.mpr ⟨hlegible, hlegibles⟩, ?_,
        hnone⟩
      simp
    · rintro ⟨hmap, hlegible, rfl, hnone⟩
      obtain ⟨s, behind, rfl, rfl, hbehind⟩ := List.map_eq_cons_iff.mp hmap
      obtain ⟨s', sections, rfl, -, -⟩ := List.map_eq_cons_iff.mp hbehind
      rw [List.forall_mem_cons] at hlegible
      have hread := (ih _ (List.cons_ne_nil _ _)).mpr ⟨hbehind, hlegible.2, rfl, hnone⟩
      refine ⟨s, _, ⟨rfl, hlegible.1, ?_, ?_⟩, _, rfl, _, rest, hread, rfl, rfl⟩
      · simp
      · exact readBinding?_eq_none rfl

/-! ### Functions -/

/-- The line that starts the statement that fills a registry with a map. -/
def registryHead (registry map : Option String) (path : String) : String :=
  "\t" ++ Dialect.shown registry ++ "[\"" ++ path ++ "\"] = " ++ Dialect.shown map ++ "\x7b\n"

/-- The path in the line that starts the statement of a registry, and the text behind the line. -/
def readPath? (registry map : Option String) (text : List Char) :
    Option (String × List Char) := do
  let text ← text.dropPrefix? ("\t" ++ Dialect.shown registry ++ "[\"").toList
  let (path, text) ← cut? '"' text
  let text ← text.dropPrefix? ("] = " ++ Dialect.shown map ++ "\x7b\n").toList
  return (String.ofList path, text)

/-- A path is read if the text starts with the line that it stands in. -/
theorem readPath?_eq_some_iff {registry map : Option String} {text rest : List Char}
    {path : String} :
    readPath? registry map text = some (path, rest) ↔
      '"' ∉ path.toList ∧ text = (registryHead registry map path).toList ++ rest := by
  simp only [readPath?, Option.bind_eq_bind, Option.bind_eq_some_iff, Option.pure_def,
    Option.some.injEq, Prod.mk.injEq, Prod.exists, dropPrefix?_eq_some_iff, cut?_eq_some_iff]
  constructor
  · rintro ⟨_, rfl, path, _, ⟨hpath, rfl⟩, _, rfl, rfl, rfl⟩
    exact ⟨by simpa using hpath, by simp [registryHead]⟩
  · rintro ⟨hpath, rfl⟩
    refine ⟨_, ?_, path.toList, _, ⟨hpath, rfl⟩, _, rfl, ?_, rfl⟩
    · simp [registryHead]
    · simp

/-- A document whose suffix ends with its line, whose path ends at the quote behind it, and whose
bindings can be read. -/
structure IsLegible (d : Document) : Prop where
  /-- The suffix has no line end. -/
  initSuffix : '\n' ∉ d.initSuffix.toList
  /-- The path has no quote. -/
  packagePath : '"' ∉ d.packagePath.toList
  /-- The bindings of values can be read. -/
  values : ∀ s ∈ d.valueSections, ∀ b ∈ s.bindings, b.IsLegible
  /-- The bindings of types can be read. -/
  types : ∀ b ∈ d.typeSection.bindings, b.IsLegible

instance : DecidablePred IsLegible := fun d =>
  decidable_of_iff ('\n' ∉ d.initSuffix.toList ∧ '"' ∉ d.packagePath.toList ∧
      (∀ s ∈ d.valueSections, ∀ b ∈ s.bindings, b.IsLegible) ∧
      ∀ b ∈ d.typeSection.bindings, b.IsLegible)
    ⟨fun ⟨hsuffix, hpath, hvalues, htypes⟩ => ⟨hsuffix, hpath, hvalues, htypes⟩,
      fun h => ⟨h.initSuffix, h.packagePath, h.values, h.types⟩⟩

/-- The document of a package whose code is given. -/
def readCode? (dialect : Dialect) (package code : String) : Option Document := do
  let text ← code.toList.dropPrefix? "\nfunc init".toList
  let (line, text) ← cut? '\n' text
  let initSuffix ← dropEnd? "() \x7b".toList line
  let (path, text) ← readPath? dialect.valueRegistry dialect.valueMap text
  let (valueSections, text) ← readSections? (valueCategories.map Category.label) text
  let text ← text.dropPrefix? "\t\x7d\n".toList
  let (typePath, text) ← readPath? dialect.typeRegistry dialect.typeMap text
  if typePath = path ∧ (readBindings text).2 = "\t\x7d\n\x7d\n".toList then
    return { initSuffix := String.ofList initSuffix, packagePath := path, packageName := package,
             dialect, valueSections,
             typeSection := { name := Category.types.label, bindings := (readBindings text).1 } }
  else none

/-- No binding stands where a map is closed. -/
theorem readBinding?_closing (rest : List Char) :
    readBinding? ("\t\x7d\n".toList ++ rest) = none :=
  readBinding?_eq_none rfl

/-- The parts of a function that the reader takes one after the other. -/
theorem toList_code (d : Document) :
    d.code.toList = "\nfunc init".toList ++ ((d.initSuffix.toList ++ "() \x7b".toList) ++ '\n' ::
      ((registryHead d.dialect.valueRegistry d.dialect.valueMap d.packagePath).toList ++
        (("\n".intercalate (d.valueSections.map sectionLines)).toList ++ ("\t\x7d\n".toList ++
          ((registryHead d.dialect.typeRegistry d.dialect.typeMap d.packagePath).toList ++
            ((String.join (d.typeSection.bindings.map bindingLine)).toList ++
              "\t\x7d\n\x7d\n".toList)))))) := by
  simp [code, initName, registryLines, registryHead]

/-- A text is read as a document exactly if the document is legible, has the sections of a document
that is built, and has this code. -/
theorem readCode?_eq_some_iff {dialect : Dialect} {package text : String} {d : Document} :
    readCode? dialect package text = some d ↔
      (d.dialect = dialect ∧ d.packageName = package) ∧
      (d.valueSections.map Section.name = valueCategories.map Category.label ∧
        d.typeSection.name = Category.types.label) ∧
      d.IsLegible ∧ text = d.code := by
  have hlabels : valueCategories.map Category.label ≠ [] := List.cons_ne_nil _ _
  simp only [readCode?, Option.bind_eq_bind, Option.bind_eq_some_iff, Option.pure_def,
    Option.ite_none_right_eq_some, Option.some.injEq, Prod.exists, dropPrefix?_eq_some_iff,
    cut?_eq_some_iff, dropEnd?_eq_some_iff, readPath?_eq_some_iff,
    readSections?_eq_some_iff hlabels]
  constructor
  · rintro ⟨_, htext, _, _, ⟨hline, rfl⟩, suffix, rfl, path, _, ⟨hpath, rfl⟩, sections, _,
      ⟨hnames, hvalues, rfl, -⟩, _, rfl, _, lines, ⟨-, rfl⟩, ⟨rfl, hend⟩, rfl⟩
    obtain ⟨htypes, hlines, -⟩ := readBindings_eq_iff.mp (Prod.mk.eta.symm.trans (by rw [hend]))
    have hsuffix : '\n' ∉ suffix := fun hmem => hline (List.mem_append_left _ hmem)
    refine ⟨⟨rfl, rfl⟩, ⟨hnames, rfl⟩, ⟨by simpa using hsuffix, hpath, hvalues, htypes⟩, ?_⟩
    apply String.toList_injective
    simp only [toList_code, String.toList_ofList]
    rw [htext, ← hlines]
  · rintro ⟨⟨rfl, rfl⟩, ⟨hnames, htypes⟩, hlegible, rfl⟩
    have hline : '\n' ∉ d.initSuffix.toList ++ "() \x7b".toList := by
      simpa using hlegible.initSuffix
    have hend : readBindings ((String.join (d.typeSection.bindings.map bindingLine)).toList ++
        "\t\x7d\n\x7d\n".toList) = (d.typeSection.bindings, "\t\x7d\n\x7d\n".toList) :=
      readBindings_eq_iff.mpr ⟨hlegible.types, rfl, readBinding?_closing "\x7d\n".toList⟩
    refine ⟨_, toList_code d, _, _, ⟨hline, rfl⟩, _, rfl, d.packagePath, _,
      ⟨hlegible.packagePath, rfl⟩, d.valueSections, _,
      ⟨hnames, hlegible.values, rfl, readBinding?_closing _⟩, _, rfl, d.packagePath, _,
      ⟨hlegible.packagePath, rfl⟩, ⟨rfl, congrArg Prod.snd hend⟩, ?_⟩
    rw [hend, String.ofList_toList, ← htypes]

/-- The code of a document that is built gives the document back, whatever package it is read
for. -/
theorem readCode?_of_build {attributes : Attributes} {path package initSuffix : String}
    {symbols : SymbolSet} {dialect : Dialect} {d : Document}
    (h : build attributes path package initSuffix symbols dialect = .ok d) (hlegible : d.IsLegible)
    (reading : String) :
    readCode? dialect reading (Format.go.render d) = some { d with packageName := reading } := by
  obtain ⟨bs, -, rfl⟩ := (build_eq_ok_iff _ _ _ _ _ _).mp h
  have hread : IsLegible { ofBindings path package initSuffix dialect bs with
      packageName := reading } :=
    ⟨hlegible.initSuffix, hlegible.packagePath, hlegible.values, hlegible.types⟩
  exact readCode?_eq_some_iff.mpr ⟨⟨rfl, rfl⟩, ⟨rfl, rfl⟩, hread, rfl⟩

/-- The code of a document that is built determines it, the package name apart: the reader gives
the suffix, the path and all bindings back, and documents with the same code agree on them, also
if they come from different runs. -/
theorem code_determines {attributes₁ attributes₂ : Attributes}
    {path₁ path₂ package₁ package₂ suffix₁ suffix₂ : String} {symbols₁ symbols₂ : SymbolSet}
    {dialect : Dialect} {d₁ d₂ : Document}
    (h₁ : build attributes₁ path₁ package₁ suffix₁ symbols₁ dialect = .ok d₁)
    (h₂ : build attributes₂ path₂ package₂ suffix₂ symbols₂ dialect = .ok d₂)
    (hlegible₁ : d₁.IsLegible) (hlegible₂ : d₂.IsLegible) :
    (∀ package, readCode? dialect package (Format.go.render d₁) =
      some { d₁ with packageName := package }) ∧
    (Format.go.render d₁ = Format.go.render d₂ →
      d₁.initSuffix = d₂.initSuffix ∧ d₁.packagePath = d₂.packagePath ∧
      ∀ c : Category, ∃ bindings : List Binding,
        d₁.section? c.label = some { name := c.label, bindings } ∧
        d₂.section? c.label = some { name := c.label, bindings }) := by
  refine ⟨readCode?_of_build h₁ hlegible₁, fun hrender => ?_⟩
  have hread₁ := readCode?_of_build h₁ hlegible₁ ""
  have hread₂ := readCode?_of_build h₂ hlegible₂ ""
  rw [hrender, hread₂, Option.some.injEq, Document.mk.injEq] at hread₁
  obtain ⟨hsuffix, hpath, -, -, hvalues, htypes⟩ := hread₁
  have hsection : ∀ name, d₂.section? name = d₁.section? name := by
    intro name
    rw [section?, hvalues, htypes, section?]
  obtain ⟨bs, -, rfl⟩ := (build_eq_ok_iff _ _ _ _ _ _).mp h₁
  refine ⟨hsuffix.symm, hpath.symm, fun c => ⟨bs c, section?_ofBindings _ _ _ _ bs c, ?_⟩⟩
  rw [hsection, section?_ofBindings]

/-- A dialect whose expressions hold quotes and commas and leave the package out. -/
def lookupDialect : Dialect where
  valueRegistry := some "values\n"
  valueAccessor := some "find(\"\x7bsymbol\x7d\", nil),"
  typeAccessor := none

/-- Two variables. -/
def lookupSymbols : SymbolSet :=
  SymbolSet.add {} .vars ["B", "A"]

/-- What is built of the two variables. -/
def lookupDocument (package : String) : Document :=
  ofBindings "a/b" package "AB" lookupDialect fun c =>
    if c = .vars then [⟨"A", "find(\"A\", nil),"⟩, ⟨"B", "find(\"B\", nil),"⟩] else []

theorem code_determines_lookupDocument :
    lookupDocument "b" ≠ lookupDocument "c" ∧
    (lookupDocument "b").code = (lookupDocument "c").code ∧
    ∀ c : Category, ∃ bindings : List Binding,
      (lookupDocument "b").section? c.label = some { name := c.label, bindings } ∧
      (lookupDocument "c").section? c.label = some { name := c.label, bindings } := by
  have hbuild : ∀ package ∈ ["b", "c"],
      (build noAttributes "a/b" package "AB" lookupSymbols lookupDialect).toOption =
        some (lookupDocument package) := by
    decide +kernel
  have hlegible : ∀ package ∈ ["b", "c"], (lookupDocument package).IsLegible := by
    decide +kernel
  have hcode : (lookupDocument "b").code = (lookupDocument "c").code := rfl
  have hagree := (code_determines
    ((Except.toOption_eq_some_iff _ _).mp (hbuild "b" (by simp)))
    ((Except.toOption_eq_some_iff _ _).mp (hbuild "c" (by simp)))
    (hlegible "b" (by simp)) (hlegible "c" (by simp))).2 hcode
  exact ⟨by decide, hcode, hagree.2.2⟩

end Document

end Registrar
