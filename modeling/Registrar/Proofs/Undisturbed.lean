import Registrar.Proofs.Failure
import Registrar.Proofs.OutputFiles

/-!
# A walk that leaves its sources alone

A walk writes files in its output directory only. When that is none of its source directories, each
package is visited with the sources that it had in the beginning, so what the walk builds does not
depend on the order of its packages.
-/

namespace Registrar

namespace Walk.Plan

variable {w : Walk} {p : Plan} {made found : FileTree} {out : List String} {e : PackageEntry}
  {d : Document}

/-- The output directory is none of the source directories. -/
def IsApart (w : Walk) (p : Plan) (tree : FileTree) (out : List String) : Prop :=
  ∀ e ∈ p.entries, ¬ tree.IsDirAt (joinPath w.root e.directory) out

instance (w : Walk) (p : Plan) (tree : FileTree) (out : List String) :
    Decidable (p.IsApart w tree out) :=
  inferInstanceAs (Decidable (∀ e ∈ p.entries, _))

theorem IsApart.ne_out (h : p.IsApart w made out) (he : e ∈ p.entries) (names : List String)
    (hdir : made.IsDirAt (joinPath w.root e.directory) names) : names ≠ out := by
  rintro rfl
  exact h e he hdir

/-- A document that is not written ends a walk with the failure of the system. -/
theorem exists_file_of_writeDocument {files : FileTree} {f : Fault}
    (h : p.writeDocument files e d = .error f) : ∃ err, f = .file err := by
  rw [writeDocument, Except.bind_eq_error_iff] at h
  rcases h with h | ⟨_, -, h⟩
  · obtain ⟨err, -, rfl⟩ := (Except.mapError_eq_error_iff _ _ _).mp h
    exact ⟨err, rfl⟩
  · cases h

/-- A package is built alike from files that have changed in the output directory only. -/
theorem build_eq_ok_iff_of_changedIn (hmade : made.IsSound) (hapart : p.IsApart w made out)
    (he : e ∈ p.entries) (hchanged : found.ChangedIn made out) (choice : Option Document) :
    p.generator.build found w.root e.path e.directory e.initSuffix = .ok choice ↔
      p.generator.build made w.root e.path e.directory e.initSuffix = .ok choice := by
  have hnames := hapart.ne_out he
  exact ⟨Generator.build_of_keepsSources (hchanged.keepsSources_symm hmade hnames),
    Generator.build_of_keepsSources (hchanged.keepsSources hmade hnames)⟩

/-- A package fails with a message, whatever has changed in the output directory, if its directory
is a path and the templates have an expression for all its names. -/
theorem message?_ne_none_of_changedIn (hmade : made.IsSound) (hapart : p.IsApart w made out)
    (he : e ∈ p.entries) (hchanged : found.ChangedIn made out)
    (hzero : '\x00' ∉ (joinPath w.root e.directory).toList)
    (hformats : p.generator.Formats made (joinPath w.root e.directory)) {f : Fault}
    (hbuild : p.generator.build found w.root e.path e.directory e.initSuffix = .error f) :
    f.message? ≠ none := by
  intro hmessage
  have hback := hchanged.keepsSources_symm hmade (hapart.ne_out he)
  rcases (Generator.build_unreported_iff hchanged.sound).mp ⟨f, hbuild, hmessage⟩ with h | h
  · exact hzero h
  · exact h (hformats.of_keepsSources hback)

section Apart

variable (hmade : made.IsSound) (hp : p.out.IsAnchored) (hout : made.IsDirAt p.out.toText out)
  (hapart : p.IsApart w made out)
include hmade hp hout hapart

/-- A package is visited with the sources that it had in the beginning. -/
theorem build_eq_ok_iff_of_mem_visits (hvisit : (e, found) ∈ p.visits w made p.entries)
    (choice : Option Document) :
    p.generator.build found w.root e.path e.directory e.initSuffix = .ok choice ↔
      p.generator.build made w.root e.path e.directory e.initSuffix = .ok choice :=
  build_eq_ok_iff_of_changedIn hmade hapart (mem_of_mem_visits hvisit)
    (changedIn_of_mem_visits hp hmade hout hvisit) choice

/-- A visited package fails with a message, if its directory is a path and the templates have an
expression for all its names. -/
theorem message?_ne_none_of_mem_visits (hvisit : (e, found) ∈ p.visits w made p.entries)
    (hzero : '\x00' ∉ (joinPath w.root e.directory).toList)
    (hformats : p.generator.Formats made (joinPath w.root e.directory)) {f : Fault}
    (hbuild : p.generator.build found w.root e.path e.directory e.initSuffix = .error f) :
    f.message? ≠ none :=
  message?_ne_none_of_changedIn hmade hapart (mem_of_mem_visits hvisit)
    (changedIn_of_mem_visits hp hmade hout hvisit) hzero hformats hbuild

variable (hgoes : ∀ e found, (e, found) ∈ p.visits w made p.entries →
  ∀ f, p.outcome w found e ≠ .stopped f)
include hgoes

/-- A walk that nothing stops writes the documents that its packages had in the beginning. -/
theorem mem_log_iff_build : (e, d) ∈ p.log w made p.entries ↔ e ∈ p.entries ∧
    p.generator.build made w.root e.path e.directory e.initSuffix = .ok (some d) := by
  rw [mem_log_iff]
  constructor
  · rintro ⟨found, hvisit, _, _, hwrote⟩
    exact ⟨mem_of_mem_visits hvisit, (build_eq_ok_iff_of_mem_visits hmade hp hout hapart hvisit _).mp
      (of_outcome_eq_wrote hwrote).1⟩
  · rintro ⟨he, hbuild⟩
    obtain ⟨found, hvisit⟩ := exists_mem_visits hgoes he
    have hfound := (build_eq_ok_iff_of_mem_visits hmade hp hout hapart hvisit _).mpr hbuild
    cases hwrite : p.writeDocument found e d with
    | error f =>
      exact absurd (outcome_eq_stopped_iff.mpr (.inr ⟨d, hfound, hwrite⟩)) (hgoes e found hvisit f)
    | ok x => exact ⟨found, hvisit, x.1, x.2, outcome_eq_wrote_iff.mpr ⟨hfound, hwrite⟩⟩

/-- A walk that nothing stops passes over the packages that could not be built in the beginning. -/
theorem exists_isPassedOver_iff_build :
    (∃ found, (e, found) ∈ p.visits w made p.entries ∧ (p.outcome w found e).IsPassedOver) ↔
      e ∈ p.entries ∧
        ∃ f, p.generator.build made w.root e.path e.directory e.initSuffix = .error f := by
  have hfails : ∀ {x y : Except Fault (Option Document)},
      (∀ choice, x = .ok choice ↔ y = .ok choice) → (∃ f, x = .error f) → ∃ f, y = .error f := by
    rintro x (f | choice) hiff ⟨_, rfl⟩
    · exact ⟨f, rfl⟩
    · cases (hiff choice).mpr rfl
  constructor
  · rintro ⟨found, hvisit, hpassed⟩
    obtain ⟨-, f, hbuild, -⟩ := outcome_isPassedOver_iff.mp hpassed
    exact ⟨mem_of_mem_visits hvisit,
      hfails (build_eq_ok_iff_of_mem_visits hmade hp hout hapart hvisit) ⟨f, hbuild⟩⟩
  · rintro ⟨he, hbuild⟩
    obtain ⟨found, hvisit⟩ := exists_mem_visits hgoes he
    obtain ⟨f, hfound⟩ := hfails
      (fun choice => (build_eq_ok_iff_of_mem_visits hmade hp hout hapart hvisit choice).symm) hbuild
    refine ⟨found, hvisit, outcome_isPassedOver_iff.mpr ?_⟩
    by_contra hnot
    refine hgoes e found hvisit f (outcome_eq_stopped_iff.mpr (.inl ⟨hfound, fun hkeep => ?_⟩))
    by_contra hmessage
    exact hnot ⟨hkeep, f, hfound, hmessage⟩

end Apart

end Walk.Plan

end Registrar
