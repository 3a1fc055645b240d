import Registrar.Proofs.Dialect
import Registrar.Proofs.Survivors

/-!
# What a document lists

A document can be built exactly when its dialect has an expression for every symbol. It then has a
section for each category, whose symbols are those of the category in increasing order, each bound
to its expression.
-/

namespace Registrar

namespace Document

/-- A document lists names by category: the value sections stand in printing order, and the
section of each category has exactly its names, in strictly increasing order. -/
structure Lists (d : Document) (listed : Category → String → Prop) : Prop where
  /-- The sections of values are those of the three categories. -/
  valueNames : d.valueSections.map Section.name = ["constants", "variables", "functions"]
  /-- The section of types carries its own name. -/
  typesName : d.typeSection.name = "types"
  /-- Every section is increasing and holds the names of its category. -/
  symbols : ∀ c, ∃ s, d.section? c.label = some s ∧ s.symbols.Pairwise (· < ·) ∧
    ∀ name, name ∈ s.symbols ↔ listed c name

/-- Binding succeeds when every name has an expression, and keeps the names in order. -/
theorem bind_eq_ok_iff (expression : String → String → Except AccessorError String)
    (package : String) (names : List String) (bs : List Binding) :
    bind expression package names = .ok bs ↔
      List.Forall₂ (fun name b => b.symbol = name ∧ expression package name = .ok b.accessor)
        names bs := by
  rw [bind, Except.mapM_eq_ok_iff]
  have hone : ∀ name b, (do
      return { symbol := name, accessor := ← expression package name } :
        Except AccessorError Binding) = .ok b ↔
      b.symbol = name ∧ expression package name = .ok b.accessor := by
    rintro name ⟨symbol, accessor⟩
    rw [Except.bind_eq_ok_iff]
    constructor
    · rintro ⟨text, htext, h⟩
      cases h
      exact ⟨rfl, htext⟩
    · rintro ⟨rfl, h⟩
      exact ⟨accessor, h, rfl⟩
  simp only [hone]

/-- The bound symbols are the names, in their order. -/
theorem symbols_of_bind {expression : String → String → Except AccessorError String}
    {package : String} {names : List String} {bs : List Binding}
    (h : bind expression package names = .ok bs) : bs.map Binding.symbol = names := by
  have hall := (bind_eq_ok_iff _ _ _ _).mp h
  induction hall with
  | nil => rfl
  | cons hb _ ih => rw [List.map_cons, hb.1, ih (by rwa [bind_eq_ok_iff])]

/-- The document of a symbol set, given the bindings of each category. -/
def ofBindings (path package initSuffix : String) (dialect : Dialect)
    (bs : Category → List Binding) : Document :=
  { initSuffix, packagePath := path, packageName := package, dialect
    valueSections := valueCategories.map fun c => { name := c.label, bindings := bs c }
    typeSection := { name := "types", bindings := bs .types } }

variable {attributes : Text.Template.Attributes}

/-- A document is built from the bindings of all categories. -/
theorem build_eq_ok_iff (path package initSuffix : String) (symbols : SymbolSet)
    (dialect : Dialect) (d : Document) :
    build attributes path package initSuffix symbols dialect = .ok d ↔
      ∃ bs : Category → List Binding,
        (∀ c, bind (dialect.accessor attributes c) package (symbols.sorted c) = .ok (bs c)) ∧
        d = ofBindings path package initSuffix dialect bs := by
  have hvalues : ∀ sections, (valueCategories.mapM fun c => do
      return { name := c.label
               bindings := ← bind (dialect.valueExpression attributes) package
                 (symbols.sorted c) : Section }) =
        .ok sections ↔
      ∃ cs vs fs,
        bind (dialect.valueExpression attributes) package (symbols.sorted .consts) = .ok cs ∧
        bind (dialect.valueExpression attributes) package (symbols.sorted .vars) = .ok vs ∧
        bind (dialect.valueExpression attributes) package (symbols.sorted .funcs) = .ok fs ∧
        sections = [⟨Category.consts.label, cs⟩, ⟨Category.vars.label, vs⟩,
          ⟨Category.funcs.label, fs⟩] := by
    intro sections
    simp only [valueCategories, Except.mapM_eq_ok_iff, List.forall₂_cons_left_iff,
      List.forall₂_nil_left_iff, Except.bind_eq_ok_iff, Except.pure_eq_ok_iff]
    constructor
    · rintro ⟨_, _, ⟨cs, hcs, rfl⟩, ⟨_, _, ⟨vs, hvs, rfl⟩, ⟨_, _, ⟨fs, hfs, rfl⟩, rfl, rfl⟩, rfl⟩,
        rfl⟩
      exact ⟨cs, vs, fs, hcs, hvs, hfs, rfl⟩
    · rintro ⟨cs, vs, fs, hcs, hvs, hfs, rfl⟩
      exact ⟨_, _, ⟨cs, hcs, rfl⟩, ⟨_, _, ⟨vs, hvs, rfl⟩, ⟨_, _, ⟨fs, hfs, rfl⟩, rfl, rfl⟩, rfl⟩,
        rfl⟩
  rw [build, Except.bind_eq_ok_iff]
  simp only [hvalues]
  constructor
  · rintro ⟨_, ⟨cs, vs, fs, hcs, hvs, hfs, rfl⟩, h⟩
    obtain ⟨ts, hts, h⟩ := (Except.bind_eq_ok_iff _ _ _).mp h
    cases h
    refine ⟨fun c => Category.rec cs vs ts fs c, ?_, rfl⟩
    intro c
    cases c with
    | consts => exact hcs
    | vars => exact hvs
    | types => exact hts
    | funcs => exact hfs
  · rintro ⟨bs, hbs, rfl⟩
    refine ⟨_, ⟨_, _, _, hbs .consts, hbs .vars, hbs .funcs, rfl⟩, ?_⟩
    exact (Except.bind_eq_ok_iff _ _ _).mpr ⟨_, hbs .types, rfl⟩

/-- A document keeps the suffix that it is built with. -/
theorem initSuffix_of_build {path package initSuffix : String} {symbols : SymbolSet}
    {dialect : Dialect} {d : Document}
    (h : build attributes path package initSuffix symbols dialect = .ok d) :
    d.initSuffix = initSuffix := by
  obtain ⟨bs, -, rfl⟩ := (build_eq_ok_iff _ _ _ _ _ _).mp h
  rfl

/-- If every symbol has an expression, there is a document. -/
theorem exists_build_eq_ok (path package initSuffix : String) (symbols : SymbolSet)
    (dialect : Dialect)
    (h : dialect.Expresses attributes package fun c name => name ∈ symbols.sorted c) :
    ∃ d, build attributes path package initSuffix symbols dialect = .ok d := by
  have hbind : ∀ c, ∃ bs,
      bind (dialect.accessor attributes c) package (symbols.sorted c) = .ok bs := by
    intro c
    apply Except.exists_mapM_eq_ok
    intro name hname
    obtain ⟨text, htext⟩ := h c name hname
    exact ⟨⟨name, text⟩, by rw [htext]; rfl⟩
  choose bs hbs using hbind
  exact ⟨_, (build_eq_ok_iff _ _ _ _ _ _).mpr ⟨bs, hbs, rfl⟩⟩

/-- If there is a document, every symbol has an expression. -/
theorem expresses_of_build {path package initSuffix : String} {symbols : SymbolSet}
    {dialect : Dialect} {d : Document}
    (h : build attributes path package initSuffix symbols dialect = .ok d) :
    dialect.Expresses attributes package fun c name => name ∈ symbols.sorted c := by
  obtain ⟨bs, hbs, -⟩ := (build_eq_ok_iff _ _ _ _ _ _).mp h
  intro c name hname
  have hall := (bind_eq_ok_iff _ _ _ _).mp (hbs c)
  obtain ⟨i, hi, rfl⟩ := List.getElem_of_mem hname
  have hi' : i < (bs c).length := hall.length_eq ▸ hi
  exact ⟨_, (List.forall₂_iff_get.mp hall).2 i hi hi' |>.2⟩

/-- The section of a category is found under the category's name. -/
theorem section?_ofBindings (path package initSuffix : String) (dialect : Dialect)
    (bs : Category → List Binding) (c : Category) :
    (ofBindings path package initSuffix dialect bs).section? c.label =
      some { name := c.label, bindings := bs c } := by
  cases c <;> rfl

/-- A document that is built lists the symbols of its set. -/
theorem lists_of_build {path package initSuffix : String} {symbols : SymbolSet}
    {dialect : Dialect} {d : Document}
    (h : build attributes path package initSuffix symbols dialect = .ok d) :
    d.Lists fun c name => name ∈ (symbols.get c).keys := by
  obtain ⟨bs, hbs, rfl⟩ := (build_eq_ok_iff _ _ _ _ _ _).mp h
  refine ⟨rfl, rfl, fun c => ⟨_, section?_ofBindings _ _ _ _ bs c, ?_⟩⟩
  have hsymbols : (Section.mk c.label (bs c)).symbols = symbols.sorted c := symbols_of_bind (hbs c)
  rw [hsymbols]
  exact ⟨NameMap.keys_ordered _, fun _ => Iff.rfl⟩

end Document

end Registrar
