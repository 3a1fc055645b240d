import Registrar.Proofs.Attributes
import Registrar.Proofs.CodeReading

/-!
# One more symbol is one more line

The code of a document consists of the bindings of the four categories and of what stands between
them, which depends neither on how many bindings there are nor on whether there are any. A symbol
that joins a category takes its place in the order of its symbols and leaves all other bindings as
they are. The code therefore gets one line more, and everything else in it stays. The two codes can
come from two runs, as long as these read the dialect alike.
-/

namespace Registrar

/-- A name that joins a set stands behind the smaller names and in front of the larger ones. -/
theorem NameSet.exists_keys_add_eq {s : NameSet} {name : String} (h : name ∉ s.keys) :
    ∃ smaller larger, s.keys = smaller ++ larger ∧
      (s.add name).keys = smaller ++ name :: larger := by
  have hjoined : name ∈ (s.add name).keys := (NameMap.mem_keys_insert _ _ _ _).mpr (.inl rfl)
  obtain ⟨smaller, larger, hkeys⟩ := List.append_of_mem hjoined
  have hordered : (smaller ++ name :: larger).Pairwise (· < ·) := hkeys ▸ NameMap.keys_ordered _
  have hrest : (smaller ++ larger).Pairwise (· < ·) :=
    hordered.sublist ((List.sublist_cons_self name larger).append_left smaller)
  have hnew : name ∉ smaller ++ larger :=
    (List.nodup_middle.mp (hordered.imp String.ne_of_lt)).notMem
  refine ⟨smaller, larger, s.keys_ordered.eq_of_mem_iff hrest fun other => ?_, hkeys⟩
  by_cases hother : other = name
  · subst hother
    exact iff_of_false h hnew
  · have hmem := NameMap.mem_keys_insert s name () other
    rw [← NameSet.add, hkeys] at hmem
    simpa [hother] using hmem.symm

/-- A name that joins a category changes no other category. -/
theorem SymbolSet.sorted_add_of_ne {c c' : Category} (h : c' ≠ c) (symbols : SymbolSet)
    (names : List String) : (symbols.add c names).sorted c' = symbols.sorted c' := by
  rw [sorted, get_add, if_neg h, sorted]

/-- A category keeps its symbols when others join it or another one. -/
theorem SymbolSet.mem_sorted_add {symbols : SymbolSet} {c c' : Category} {names : List String}
    {name : String} (h : name ∈ symbols.sorted c') : name ∈ (symbols.add c names).sorted c' := by
  rw [sorted, get_add]
  split
  · rename_i hc
    subst hc
    exact (NameSet.mem_keys_addAll _ _ _).mpr (.inl h)
  · exact h

namespace Document

open Text.Template (noAttributes namedAttributes)

/-! ### Bindings -/

/-- Where a name is bound between others, their bindings stay. -/
theorem bind_insert {expression : String → String → Except AccessorError String}
    {package name text : String} {smaller larger : List String} {bs : List Binding}
    (h : bind expression package (smaller ++ larger) = .ok bs)
    (hname : expression package name = .ok text) :
    ∃ before after, bs = before ++ after ∧ before.map Binding.symbol = smaller ∧
      after.map Binding.symbol = larger ∧
      bind expression package (smaller ++ name :: larger) =
        .ok (before ++ { symbol := name, accessor := text } :: after) := by
  rw [bind, List.mapM_append, Except.bind_eq_ok_iff] at h
  obtain ⟨before, hbefore, h⟩ := h
  obtain ⟨after, hafter, h⟩ := (Except.bind_eq_ok_iff _ _ _).mp h
  cases h
  refine ⟨before, after, rfl, symbols_of_bind hbefore, symbols_of_bind hafter, ?_⟩
  rw [bind, List.mapM_append, List.mapM_cons, hbefore, hafter, hname]
  rfl

/-! ### The parts of a function -/

/-- The categories in the order in which their bindings are printed. -/
def printedCategories : List Category :=
  valueCategories ++ [.types]

/-- The bindings of a category. -/
def bindingsOf (d : Document) (c : Category) : List Binding :=
  ((d.section? c.label).map Section.bindings).getD []

/-- The lines of some bindings. -/
def bindingLines (bs : List Binding) : String :=
  String.join (bs.map bindingLine)

/-- What stands in front of the bindings of a category and behind those of the category before. -/
def heading (d : Document) : Category → String
  | .consts => "\nfunc " ++ d.initName ++ "() \x7b\n" ++
      registryHead d.dialect.valueRegistry d.dialect.valueMap d.packagePath ++
      "\t\t// " ++ Category.consts.label ++ "\n"
  | .vars => "\n\t\t// " ++ Category.vars.label ++ "\n"
  | .funcs => "\n\t\t// " ++ Category.funcs.label ++ "\n"
  | .types => "\t\x7d\n" ++
      registryHead d.dialect.typeRegistry d.dialect.typeMap d.packagePath

/-- The bindings of a category below their heading. -/
def block (d : Document) (c : Category) : String :=
  d.heading c ++ bindingLines (d.bindingsOf c)

/-- The code in front of the bindings of a category, down to their own heading. -/
def codeAbove (d : Document) (c : Category) : String :=
  String.join ((printedCategories.takeWhile (· ≠ c)).map d.block) ++ d.heading c

/-- The code behind the bindings of a category. -/
def codeBelow (d : Document) (c : Category) : String :=
  String.join ((printedCategories.dropWhile (· ≠ c)).tail.map d.block) ++ "\t\x7d\n\x7d\n"

variable (path package initSuffix : String) (dialect : Dialect)

theorem bindingsOf_ofBindings (bs : Category → List Binding) (c : Category) :
    (ofBindings path package initSuffix dialect bs).bindingsOf c = bs c := by
  rw [bindingsOf, section?_ofBindings]
  rfl

theorem heading_ofBindings (bs bs' : Category → List Binding) (c : Category) :
    (ofBindings path package initSuffix dialect bs).heading c =
      (ofBindings path package initSuffix dialect bs').heading c := by
  cases c <;> rfl

/-- The code is made of one block for each category. -/
theorem code_eq_join_blocks (bs : Category → List Binding) :
    (ofBindings path package initSuffix dialect bs).code =
      String.join (printedCategories.map (ofBindings path package initSuffix dialect bs).block) ++
        "\t\x7d\n\x7d\n" := by
  apply String.toList_injective
  rw [toList_code]
  simp [printedCategories, valueCategories, block, heading, initName, bindingLines,
    bindingsOf_ofBindings]
  simp [ofBindings, valueCategories, sectionLines]

/-- Each category is printed once, behind some categories and in front of the others. -/
theorem printedCategories_eq (c : Category) :
    printedCategories = printedCategories.takeWhile (· ≠ c) ++
      c :: (printedCategories.dropWhile (· ≠ c)).tail := by
  cases c <;> rfl

/-- The bindings of a category stand between the code above and the code below them. -/
theorem code_ofBindings (bs : Category → List Binding) (c : Category) :
    (ofBindings path package initSuffix dialect bs).code =
      (ofBindings path package initSuffix dialect bs).codeAbove c ++ bindingLines (bs c) ++
        (ofBindings path package initSuffix dialect bs).codeBelow c := by
  rw [code_eq_join_blocks, printedCategories_eq c, List.map_append, List.map_cons,
    String.join_append, String.join_cons, block, bindingsOf_ofBindings, codeAbove, codeBelow]
  simp only [String.append_assoc]

section Change

variable {bs bs' : Category → List Binding} {c : Category} (h : ∀ c' ≠ c, bs' c' = bs c')
include h

/-- The block of a category is the same where its bindings are. -/
theorem map_block_congr {categories : List Category} (hc : c ∉ categories) :
    categories.map (ofBindings path package initSuffix dialect bs').block =
      categories.map (ofBindings path package initSuffix dialect bs).block := by
  apply List.map_congr_left
  intro c' hc'
  have hne : c' ≠ c := fun heq => hc (heq ▸ hc')
  rw [block, block, bindingsOf_ofBindings, bindingsOf_ofBindings, h c' hne,
    heading_ofBindings _ _ _ _ bs' bs]

/-- The code above the bindings of a category does not depend on them. -/
theorem codeAbove_congr :
    (ofBindings path package initSuffix dialect bs').codeAbove c =
      (ofBindings path package initSuffix dialect bs).codeAbove c := by
  have habove : c ∉ printedCategories.takeWhile (· ≠ c) := by cases c <;> decide
  rw [codeAbove, codeAbove, map_block_congr _ _ _ _ h habove, heading_ofBindings _ _ _ _ bs' bs]

/-- The code below the bindings of a category does not depend on them. -/
theorem codeBelow_congr :
    (ofBindings path package initSuffix dialect bs').codeBelow c =
      (ofBindings path package initSuffix dialect bs).codeBelow c := by
  have hbelow : c ∉ (printedCategories.dropWhile (· ≠ c)).tail := by cases c <;> decide
  rw [codeBelow, codeBelow, map_block_congr _ _ _ _ h hbelow]

end Change

/-! ### A symbol that joins a category -/

variable {package dialect} {attributes attributes' : Text.Template.Attributes} {symbols : SymbolSet}
  {c : Category} {name : String}

/-- What a symbol that joins a category does to the bindings: its own stands between those of the
smaller and those of the larger symbols, and all others stay. -/
theorem exists_bindings_add (hnew : name ∉ symbols.sorted c)
    (hexp : dialect.Expresses attributes package
      fun c' other => other ∈ (symbols.add c [name]).sorted c') :
    ∃ (bs bs' : Category → List Binding) (b : Binding) (before after : List Binding),
      build attributes path package initSuffix symbols dialect =
        .ok (ofBindings path package initSuffix dialect bs) ∧
      build attributes path package initSuffix (symbols.add c [name]) dialect =
        .ok (ofBindings path package initSuffix dialect bs') ∧
      b.symbol = name ∧ dialect.accessor attributes c package name = .ok b.accessor ∧
      bs c = before ++ after ∧ bs' c = before ++ b :: after ∧ (∀ c' ≠ c, bs' c' = bs c') ∧
      (before.map Binding.symbol ++ name :: after.map Binding.symbol).Pairwise (· < ·) := by
  obtain ⟨smaller, larger, hkeys, hjoined⟩ := NameSet.exists_keys_add_eq hnew
  have hsorted : (symbols.add c [name]).sorted c = smaller ++ name :: larger := by
    rw [SymbolSet.sorted, SymbolSet.get_add, if_pos rfl]
    exact hjoined
  have hexp' : dialect.Expresses attributes package fun c' other => other ∈ symbols.sorted c' :=
    fun c' other hother => hexp c' other (SymbolSet.mem_sorted_add hother)
  have hmem : name ∈ (symbols.add c [name]).sorted c := by
    rw [hsorted]
    exact List.mem_append_right smaller List.mem_cons_self
  obtain ⟨text, htext⟩ := hexp c name hmem
  obtain ⟨d, hd⟩ := exists_build_eq_ok path package initSuffix symbols dialect hexp'
  obtain ⟨bs, hbs, rfl⟩ := (build_eq_ok_iff _ _ _ _ _ _).mp hd
  have hbind : bind (dialect.accessor attributes c) package (smaller ++ larger) = .ok (bs c) := by
    rw [← hbs c]
    exact congrArg _ hkeys.symm
  obtain ⟨before, after, hc, rfl, rfl, hinsert⟩ := bind_insert hbind htext
  refine ⟨bs, Function.update bs c (before ++ { symbol := name, accessor := text } :: after),
    { symbol := name, accessor := text }, before, after, hd, ?_, rfl, htext, hc,
    Function.update_self .., fun c' hne => Function.update_of_ne hne .., ?_⟩
  · refine (build_eq_ok_iff _ _ _ _ _ _).mpr ⟨_, fun c' => ?_, rfl⟩
    by_cases hne : c' = c
    · subst hne
      rw [hsorted, hinsert, Function.update_self]
    · rw [SymbolSet.sorted_add_of_ne hne, hbs c', Function.update_of_ne hne]
  · rw [← hsorted]
    exact NameMap.keys_ordered _

/-- A symbol that joins a category adds one line to the code: its own line, between those of the
smaller and those of the larger symbols of the category. Every other character of the code stays,
and so does the head of a file with the code. The symbol can join between two runs that read the
dialect alike. -/
theorem render_add (hnew : name ∉ symbols.sorted c)
    (halike : dialect.ReadsAlike attributes attributes')
    (hexp : dialect.Expresses attributes package
      fun c' other => other ∈ (symbols.add c [name]).sorted c') :
    ∃ d d' text before after,
      build attributes path package initSuffix symbols dialect = .ok d ∧
      build attributes' path package initSuffix (symbols.add c [name]) dialect = .ok d' ∧
      dialect.accessor attributes' c package name = .ok text ∧
      d.section? c.label = some { name := c.label, bindings := before ++ after } ∧
      (∀ b ∈ before, b.symbol < name) ∧ (∀ b ∈ after, name < b.symbol) ∧
      Format.go.render d = d.codeAbove c ++ bindingLines before ++
        (bindingLines after ++ d.codeBelow c) ∧
      Format.go.render d' = d.codeAbove c ++ bindingLines before ++
        ("\t\t\"" ++ name ++ "\": " ++ text ++ ",\n") ++
        (bindingLines after ++ d.codeBelow c) ∧
      ∀ goPackage, d'.fileHead goPackage = d.fileHead goPackage := by
  obtain ⟨bs, bs', b, before, after, hd, hd', rfl, htext, hbs, hbs', hothers, hordered⟩ :=
    exists_bindings_add path initSuffix hnew hexp
  rw [halike.build_eq] at hd'
  rw [halike.accessor_eq] at htext
  obtain ⟨-, hlarger, hsmaller⟩ := List.pairwise_append.mp hordered
  refine ⟨_, _, b.accessor, before, after, hd, hd', htext, ?_, ?_, ?_, ?_, ?_, fun _ => rfl⟩
  · rw [section?_ofBindings, hbs]
  · intro x hx
    exact hsmaller _ (List.mem_map_of_mem hx) _ List.mem_cons_self
  · intro x hx
    exact (List.pairwise_cons.mp hlarger).1 _ (List.mem_map_of_mem hx)
  · rw [Format.render, code_ofBindings _ _ _ _ bs c, hbs]
    simp only [bindingLines, List.map_append, String.join_append, String.append_assoc]
  · rw [Format.render, code_ofBindings _ _ _ _ bs' c, hbs', codeAbove_congr _ _ _ _ hothers,
      codeBelow_congr _ _ _ _ hothers]
    simp only [bindingLines, bindingLine, List.map_append, List.map_cons, String.join_append,
      String.join_cons, String.append_assoc]

/-- A constant and a function of the same name. -/
def sharedSymbols : SymbolSet :=
  (SymbolSet.add {} .consts ["Sep"]).add .funcs ["Sep", "Run"]

theorem render_add_sharedSymbols :
    "Sep" ∉ sharedSymbols.sorted .vars ∧
    ∃ d d' text before after,
      build noAttributes "a/b" "b" "AB" sharedSymbols {} = .ok d ∧
      build namedAttributes "a/b" "b" "AB" (sharedSymbols.add .vars ["Sep"]) {} = .ok d' ∧
      ({} : Dialect).accessor namedAttributes .vars "b" "Sep" = .ok text ∧
      d.section? "variables" = some { name := "variables", bindings := before ++ after } ∧
      (∀ b ∈ before, b.symbol < "Sep") ∧ (∀ b ∈ after, "Sep" < b.symbol) ∧
      Format.go.render d = d.codeAbove .vars ++ bindingLines before ++
        (bindingLines after ++ d.codeBelow .vars) ∧
      Format.go.render d' = d.codeAbove .vars ++ bindingLines before ++
        ("\t\t\"Sep\": " ++ text ++ ",\n") ++ (bindingLines after ++ d.codeBelow .vars) ∧
      ∀ goPackage, d'.fileHead goPackage = d.fileHead goPackage := by
  have hnew : "Sep" ∉ sharedSymbols.sorted .vars := by decide
  have halike : ({} : Dialect).ReadsAlike noAttributes namedAttributes :=
    Dialect.readsAlike_default noAttributes namedAttributes
  exact ⟨hnew, render_add "a/b" "AB" hnew halike (Dialect.expresses_default _ _ _)⟩

end Document

end Registrar
