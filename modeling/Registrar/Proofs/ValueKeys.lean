import Mathlib.Data.List.Lattice
import Mathlib.Data.List.Pairwise
import Registrar.Proofs.Document

/-!
# The keys of the value map

Constants, variables and functions are printed as the keys of one map. Each section is free of
repetitions, but a name that is a constant in one file and a variable or function in another
stands in two sections, so the keys are distinct exactly when no name survives as two kinds of
value.
-/

namespace Registrar

namespace Document

open Text.Template (Attributes noAttributes)

/-- The symbols of the value sections, which become the keys of one map. -/
def valueKeys (d : Document) : List String :=
  d.valueSections.flatMap Section.symbols

/-- The keys are the symbols of the three value categories, one category after the other. -/
theorem valueKeys_of_build {attributes : Attributes} {path package initSuffix : String}
    {symbols : SymbolSet} {dialect : Dialect} {d : Document}
    (h : build attributes path package initSuffix symbols dialect = .ok d) :
    d.valueKeys = valueCategories.flatMap symbols.sorted := by
  obtain ⟨bs, hbs, rfl⟩ := (build_eq_ok_iff _ _ _ _ _ _).mp h
  have hsymbols : ∀ c, (Section.mk c.label (bs c)).symbols = symbols.sorted c :=
    fun c => symbols_of_bind (hbs c)
  simp only [valueKeys, ofBindings, valueCategories, List.map_cons, List.map_nil,
    List.flatMap_cons, List.flatMap_nil, hsymbols]

/-- The keys of a symbol set are distinct when no name is in two value categories. -/
theorem nodup_flatMap_sorted_iff (symbols : SymbolSet) :
    (valueCategories.flatMap symbols.sorted).Nodup ↔
      ∀ name, ∀ c ∈ valueCategories, ∀ c' ∈ valueCategories,
        name ∈ symbols.sorted c → name ∈ symbols.sorted c' → c = c' := by
  have hcat : valueCategories.Nodup := by decide
  have hone : ∀ c ∈ valueCategories, (symbols.sorted c).Nodup :=
    fun c _ => NameMap.keys_nodup _
  rw [List.nodup_flatMap, and_iff_right hone]
  constructor
  · intro hdisjoint name c hc c' hc' hname hname'
    by_contra hne
    have hsymm : Std.Symm (Function.onFun List.Disjoint symbols.sorted) :=
      ⟨fun _ _ h => List.Disjoint.symm h⟩
    exact hdisjoint.forall hc hc' hne hname hname'
  · intro hunique
    refine hcat.imp_of_mem ?_
    intro c c' hc hc' hne name hname hname'
    exact hne (hunique name c hc c' hc' hname hname')

/-- The keys of the value map of a package are distinct exactly when no name survives as two
kinds of value. -/
theorem nodup_valueKeys_iff (attributes : Attributes) (p : Package) (excluded : NameSet)
    (path initSuffix : String) (dialect : Dialect) (d : Document)
    (h : build attributes path p.name initSuffix (SymbolSet.ofPackage excluded p) dialect = .ok d) :
    d.valueKeys.Nodup ↔
      ∀ name, ∀ c ∈ valueCategories, ∀ c' ∈ valueCategories,
        p.Survives excluded c name → p.Survives excluded c' name → c = c' := by
  rw [valueKeys_of_build h, nodup_flatMap_sorted_iff]
  simp only [SymbolSet.mem_sorted_iff]

/-- A package that declares one name as a constant in a file and as a variable in another. -/
def separatorPackage : Package :=
  (Package.addFile { name := "p" } {
    path := "p/a_linux.go", package := "p",
    declarations := [{ body := .group .const [{ names := ["Sep"] }] }] }).addFile {
    path := "p/a_windows.go", package := "p",
    declarations := [{ body := .group .var [{ names := ["Sep"] }] }] }

theorem nodup_valueKeys_iff_separatorPackage :
    ∃ d, build noAttributes "p" separatorPackage.name "P"
        (SymbolSet.ofPackage .empty separatorPackage) {} = .ok d ∧
      (d.valueKeys.Nodup ↔
        ∀ name, ∀ c ∈ valueCategories, ∀ c' ∈ valueCategories,
          separatorPackage.Survives .empty c name →
            separatorPackage.Survives .empty c' name → c = c') := by
  obtain ⟨d, hd⟩ := exists_build_eq_ok "p" separatorPackage.name "P"
    (SymbolSet.ofPackage .empty separatorPackage) {} (Dialect.expresses_default _ _ _)
  exact ⟨d, hd, nodup_valueKeys_iff noAttributes separatorPackage .empty "p" "P" {} d hd⟩

/-- The keys of a value map are not always distinct. -/
theorem valueKeys_not_nodup :
    ∃ d, build noAttributes "p" separatorPackage.name "P"
        (SymbolSet.ofPackage .empty separatorPackage) {} = .ok d ∧ ¬ d.valueKeys.Nodup := by
  obtain ⟨d, hd⟩ := exists_build_eq_ok "p" separatorPackage.name "P"
    (SymbolSet.ofPackage .empty separatorPackage) {} (Dialect.expresses_default _ _ _)
  refine ⟨d, hd, ?_⟩
  rw [valueKeys_of_build hd]
  decide +kernel

end Document

end Registrar
