import Registrar.Proofs.Attributes
import Registrar.Proofs.Exactness

/-!
# The layout of a package does not matter

Two packages say the same when they have the same set of declarations up to what is left out here:
in which files and in which order the declarations stand, how often one is repeated, in which order
a group lists its specs and a spec its names, and the positions that a declaration remembers.
Packages that say the same have the same symbols, so a generator gives the same text for
directories whose packages have the same names and whose chosen packages say the same, in one run
or in two runs that read its dialect alike.
-/

namespace Registrar

/-- Every member of one list has its like in the other, in whatever order and however often. -/
def SameMembers {α β : Type} (like : α → β → Prop) (l : List α) (l' : List β) : Prop :=
  (∀ a ∈ l, ∃ b ∈ l', like a b) ∧ ∀ b ∈ l', ∃ a ∈ l, like a b

/-- Two specs with the same doc and the same set of names. -/
def Spec.SaysSame (s t : Spec) : Prop :=
  s.doc = t.doc ∧ s.names ⊆ t.names ∧ t.names ⊆ s.names

/-- Two groups of one kind with the same set of specs, or two functions alike in name and
receiver. -/
def Decl.Body.SaysSame : Decl.Body → Decl.Body → Prop
  | .group kind specs, .group kind' specs' => kind = kind' ∧ SameMembers Spec.SaysSame specs specs'
  | .func name isMethod, .func name' isMethod' => name = name' ∧ isMethod = isMethod'
  | .group _ _, .func _ _ => False
  | .func _ _, .group _ _ => False

/-- Two declarations with the same doc that introduce the same. -/
def Decl.SaysSame (d e : Decl) : Prop :=
  d.doc = e.doc ∧ d.body.SaysSame e.body

/-- Two packages with the same set of declarations. -/
def Package.SaysSame (p q : Package) : Prop :=
  SameMembers Decl.SaysSame p.declarations q.declarations

instance {α β : Type} (like : α → β → Prop) [∀ a b, Decidable (like a b)] (l : List α)
    (l' : List β) : Decidable (SameMembers like l l') :=
  inferInstanceAs (Decidable (_ ∧ _))

instance (s t : Spec) : Decidable (s.SaysSame t) :=
  inferInstanceAs (Decidable (_ ∧ _ ∧ _))

instance : (b b' : Decl.Body) → Decidable (b.SaysSame b')
  | .group kind specs, .group kind' specs' =>
    inferInstanceAs (Decidable (kind = kind' ∧ SameMembers Spec.SaysSame specs specs'))
  | .func name isMethod, .func name' isMethod' =>
    inferInstanceAs (Decidable (name = name' ∧ isMethod = isMethod'))
  | .group _ _, .func _ _ => inferInstanceAs (Decidable False)
  | .func _ _, .group _ _ => inferInstanceAs (Decidable False)

instance (d e : Decl) : Decidable (d.SaysSame e) :=
  inferInstanceAs (Decidable (_ ∧ _))

instance (p q : Package) : Decidable (p.SaysSame q) :=
  inferInstanceAs (Decidable (SameMembers Decl.SaysSame _ _))

/-- A property that likes share is found in both lists or in neither. -/
theorem SameMembers.exists_iff {α β : Type} {like : α → β → Prop} {l : List α} {l' : List β}
    (h : SameMembers like l l') {P : α → Prop} {Q : β → Prop}
    (hlike : ∀ a b, like a b → (P a ↔ Q b)) : (∃ a ∈ l, P a) ↔ ∃ b ∈ l', Q b := by
  constructor
  · rintro ⟨a, ha, hp⟩
    obtain ⟨b, hb, hab⟩ := h.1 a ha
    exact ⟨b, hb, (hlike a b hab).mp hp⟩
  · rintro ⟨b, hb, hq⟩
    obtain ⟨a, ha, hab⟩ := h.2 b hb
    exact ⟨a, ha, (hlike a b hab).mpr hq⟩

/-- Specs that say the same offer the same names. -/
theorem Spec.SaysSame.offers_iff {s t : Spec} (h : s.SaysSame t) (name : String) :
    s.Offers name ↔ t.Offers name := by
  obtain ⟨hdoc, hst, hts⟩ := h
  have hnames : name ∈ s.names ↔ name ∈ t.names := ⟨fun hn => hst hn, fun hn => hts hn⟩
  rw [Spec.Offers, Spec.Offers, hdoc, hnames]

/-- Groups that say the same offer the same names. -/
theorem Decl.SaysSame.groupOffers_iff {d e : Decl} (h : d.SaysSame e) (kind : GroupKind)
    (name : String) : d.GroupOffers kind name ↔ e.GroupOffers kind name := by
  obtain ⟨body, doc, path, line⟩ := d
  obtain ⟨body', doc', path', line'⟩ := e
  obtain ⟨hdoc, hbody⟩ := h
  cases hdoc
  cases body with
  | func f isMethod =>
    cases body' with
    | func f' isMethod' => simp [Decl.GroupOffers]
    | group kind' specs' => exact hbody.elim
  | group kind₁ specs =>
    cases body' with
    | func f' isMethod' => exact hbody.elim
    | group kind₂ specs' =>
      obtain ⟨rfl, hspecs⟩ := hbody
      have hoffers := hspecs.exists_iff fun s t hst => hst.offers_iff name
      simp only [Decl.GroupOffers, Decl.Body.group.injEq, and_assoc, exists_and_left,
        exists_eq_left', hoffers]

/-- Functions that say the same offer the same name. -/
theorem Decl.SaysSame.functionOffers_iff {d e : Decl} (h : d.SaysSame e) (name : String) :
    d.FunctionOffers name ↔ e.FunctionOffers name := by
  obtain ⟨body, doc, path, line⟩ := d
  obtain ⟨body', doc', path', line'⟩ := e
  obtain ⟨hdoc, hbody⟩ := h
  cases hdoc
  cases body with
  | group kind specs =>
    cases body' with
    | group kind' specs' => simp [Decl.FunctionOffers]
    | func f' isMethod' => exact hbody.elim
  | func f isMethod =>
    cases body' with
    | group kind' specs' => exact hbody.elim
    | func f' isMethod' =>
      obtain ⟨rfl, rfl⟩ := hbody
      rfl

/-- Declarations that say the same make the same names public. -/
theorem Decl.SaysSame.offers_iff {d e : Decl} (h : d.SaysSame e) (excluded : NameSet)
    (c : Category) (name : String) : d.Offers excluded c name ↔ e.Offers excluded c name := by
  cases c with
  | consts => exact and_congr_left' (h.groupOffers_iff .const name)
  | vars => exact and_congr_left' (h.groupOffers_iff .var name)
  | types => exact h.groupOffers_iff .type name
  | funcs => exact h.functionOffers_iff name

/-- Packages that say the same have the same symbols. -/
theorem Package.SaysSame.ofPackage_eq {p q : Package} (h : p.SaysSame q) (excluded : NameSet) :
    SymbolSet.ofPackage excluded p = SymbolSet.ofPackage excluded q := by
  apply SymbolSet.ext_keys
  intro c name
  have hoffers := h.exists_iff fun d e hde => hde.offers_iff excluded c name
  simp only [SymbolSet.ofPackage, SymbolSet.mem_foldl_addDecl_iff, SymbolSet.keys_get_empty,
    List.not_mem_nil, false_or, hoffers]

namespace Generator

/-- Source trees whose packages have the same names, and whose chosen packages say the same, give
the same document. -/
theorem buildFrom_eq_of_saysSame (g : Generator) {t₁ t₂ : SourceTree}
    (directory path initSuffix : String) (hnamed₁ : t₁.IsNamed) (hnamed₂ : t₂.IsNamed)
    (hkeys : ∀ name, name ∈ t₁.keys ↔ name ∈ t₂.keys)
    (hsame : ∀ p₁ p₂, g.strategy.select t₁ = .ok (some p₁) → g.strategy.select t₂ = .ok (some p₂) →
      p₁.SaysSame p₂) :
    g.buildFrom t₁ directory path initSuffix = g.buildFrom t₂ directory path initSuffix := by
  have hcandidates := candidatePackages_eq_of_mem_keys_iff hkeys
  have hsel₁ := g.strategy.select_eq t₁
  have hsel₂ := g.strategy.select_eq t₂
  rw [← hcandidates] at hsel₂
  cases hchoose : g.strategy.choose (candidatePackages t₁) with
  | error candidates =>
    rw [hchoose] at hsel₁ hsel₂
    rw [buildFrom_of_select_error g t₁ _ _ _ hsel₁, buildFrom_of_select_error g t₂ _ _ _ hsel₂]
  | ok choice =>
    cases choice with
    | none =>
      rw [hchoose] at hsel₁ hsel₂
      rw [buildFrom_of_select_none g t₁ _ _ _ hsel₁, buildFrom_of_select_none g t₂ _ _ _ hsel₂]
    | some name =>
      obtain ⟨p₁, hp₁⟩ := Strategy.exists_get?_of_choose hchoose
      obtain ⟨p₂, hp₂⟩ := Strategy.exists_get?_of_choose (hcandidates ▸ hchoose)
      have hpick₁ : g.strategy.select t₁ = .ok (some p₁) := by
        rw [hsel₁, hchoose, ← hp₁]
        rfl
      have hpick₂ : g.strategy.select t₂ = .ok (some p₂) := by
        rw [hsel₂, hchoose, ← hp₂]
        rfl
      have hname : p₁.name = p₂.name :=
        (hnamed₁.name_eq hp₁).trans (hnamed₂.name_eq hp₂).symm
      rw [buildFrom_of_select_some g t₁ _ _ _ hpick₁, buildFrom_of_select_some g t₂ _ _ _ hpick₂,
        (hsame p₁ p₂ hpick₁ hpick₂).ofPackage_eq, hname]

/-- The layout of a package does not show in what is generated: directories whose packages have the
same names, and whose chosen packages have the same set of declarations, give the same text or the
same failure in any two runs that read the dialect alike. -/
theorem generate_eq_of_saysSame (g : Generator) {attributes : Text.Template.Attributes}
    (halike : g.dialect.ReadsAlike g.attributes attributes) {files₁ files₂ : FileTree}
    {t₁ t₂ : SourceTree} (root path directory initSuffix : String)
    (hparse₁ : Go.parseDir g.readTree files₁ (joinPath root directory) = .ok t₁)
    (hparse₂ : Go.parseDir g.readTree files₂ (joinPath root directory) = .ok t₂)
    (hkeys : ∀ name, name ∈ t₁.keys ↔ name ∈ t₂.keys)
    (hsame : ∀ p₁ p₂, g.strategy.select t₁ = .ok (some p₁) → g.strategy.select t₂ = .ok (some p₂) →
      p₁.SaysSame p₂) :
    g.generate files₁ root path directory initSuffix =
      (g.withAttributes attributes).generate files₂ root path directory initSuffix := by
  have hbuild : g.build files₁ root path directory initSuffix =
      g.build files₂ root path directory initSuffix := by
    rw [build_of_parseDir g t₁ directory path initSuffix hparse₁,
      build_of_parseDir g t₂ directory path initSuffix hparse₂]
    exact g.buildFrom_eq_of_saysSame _ _ _ (SourceTree.isNamed_of_parseDir hparse₁)
      (SourceTree.isNamed_of_parseDir hparse₂) hkeys hsame
  rw [generate_withAttributes halike, generate, generate, hbuild]

/-- The package of `splitFiles` in one file, turned around and with a repetition. -/
def mergedFiles : FileTree :=
  directoryOf [("a.go", "package p\n\n// Deprecated.\nvar Lost = 6\n\nconst Skip, Old = 5, 4\n" ++
    "\nfunc Skip() \x7b\x7d\n\nfunc Skip() \x7b\x7d\n" ++
    "\nconst (\n\t// Deprecated: gone.\n\tOld = 3\n\thidden, Limit = 2, 1\n)\n")]

/-- The package that is parsed from `mergedFiles`. -/
def mergedPackage : Package :=
  Package.addFile { name := "p" } {
    path := "./p/a.go", package := "p", declarations := [
      { path := "./p/a.go", line := 4, doc := some "Deprecated.\n", body := .group .var [
          { names := ["Lost"], line := 4 }] },
      { path := "./p/a.go", line := 6, body := .group .const [
          { names := ["Skip", "Old"], line := 6 }] },
      { path := "./p/a.go", line := 8, body := .func "Skip" false },
      { path := "./p/a.go", line := 10, body := .func "Skip" false },
      { path := "./p/a.go", line := 12, body := .group .const [
          { names := ["Old"], doc := some "Deprecated: gone.\n", line := 14 },
          { names := ["hidden", "Limit"], line := 15 }] }] }

theorem generate_eq_of_saysSame_mergedFiles :
    generate {} splitFiles "." "p" "p" "P" =
      (withAttributes {} Text.Template.namedAttributes).generate mergedFiles "." "p" "p" "P" := by
  have hfiles : Go.parseFiles Go.readSource mergedFiles (joinPath "." "p") =
      .ok mergedPackage.files.values := by
    decide +kernel
  have hparse : Go.parseDir Go.readSource mergedFiles (joinPath "." "p") =
      .ok (NameMap.empty.insert "p" mergedPackage) :=
    Go.parseDir_of_parseFiles hfiles
  apply generate_eq_of_saysSame {} (Dialect.readsAlike_default _ _) "." "p" "p" "P"
    parseDir_splitFiles hparse
  · exact fun name => Iff.rfl
  · intro p₁ p₂ h₁ h₂
    cases h₁
    cases h₂
    decide +kernel

end Generator

end Registrar
