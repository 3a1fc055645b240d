import Registrar.Proofs.Walk
import Registrar.Proofs.Writing

/-!
# How a walk comes to its plan

A walk loads its configuration, makes its output directory and only then finds its packages, so the
plan belongs to a tree that holds the output directory and all files that were there before.
-/

namespace Registrar

namespace Config

variable {host : Host} {root : Path} {c : Config} {p : Path}

/-- The output directory of a configuration is below the one of its file. -/
theorem directory_of_ofSettings {settings : List (Yaml.Value × Yaml.Value)}
    (h : ofSettings root settings = .ok c) (hp : c.output.directory = some p) :
    ∃ text, p = root.join (Path.ofText text) := by
  simp only [ofSettings, Except.bind_eq_ok_iff, Except.pure_eq_ok_iff] at h
  obtain ⟨_, -, _, -, _, -, _, -, _, -, _, -, output, houtput, _, -, rfl⟩ := h
  simp only [outputOf, Except.bind_eq_ok_iff, Except.pure_eq_ok_iff] at houtput
  obtain ⟨text, -, _, -, rfl⟩ := houtput
  split at hp
  · cases hp
  · exact ⟨text, (Option.some.inj hp).symm⟩

/-- The output directory of a configuration in a file is below the one of the file. -/
theorem directory_of_ofBytes {file : String} {content : Text.Utf8.Bytes}
    (h : ofBytes host root file content = .ok c) (hp : c.output.directory = some p) :
    ∃ text, p = root.join (Path.ofText text) := by
  unfold ofBytes at h
  split at h
  · cases h
  · split at h
    · exact directory_of_ofSettings h hp
    · split at h
      · unfold ofValue at h
        split at h
        · exact directory_of_ofSettings h hp
        · split at h
          · exact directory_of_ofSettings h hp
          · cases h
      · cases h
      · cases h

/-- A configuration file is looked for at an absolute path. -/
theorem anchor_of_fileAt {tree : FileTree} {path file : Path} (h : fileAt tree path = .ok file) :
    file.anchor = "/" := by
  unfold fileAt at h
  split at h
  · cases h
    rfl
  · split at h
    · cases h
      rfl
    · cases h

/-- A configuration file is looked for where a path without a tilde stands for. -/
theorem locate_eq_ok_iff {tree : FileTree} {path file : Path} :
    locate host tree path = .ok file ↔
      ∃ expanded, path.expandHome host.userHome = some expanded ∧
        fileAt tree expanded = .ok file := by
  rw [locate]
  cases path.expandHome host.userHome with
  | none => simp
  | some expanded => simp [Except.mapError_eq_ok_iff]

/-- The output directory of a configuration is an anchored path. -/
theorem isAnchored_directory {tree : FileTree} {path : Option String}
    (h : load host tree path = .ok c) (hp : c.output.directory = some p) : p.IsAnchored := by
  obtain ⟨file, hfile, h⟩ := (Except.bind_eq_ok_iff _ _ _).mp h
  obtain ⟨_, -, hat⟩ := locate_eq_ok_iff.mp hfile
  have hanchor : file.anchor = "/" := anchor_of_fileAt hat
  have hroot : file.parent.IsAnchored := .inr (.inl hanchor)
  split at h
  · split at h
    · cases h
      cases hp
    · cases h
  · obtain ⟨content, -, h⟩ := (Except.bind_eq_ok_iff _ _ _).mp h
    obtain ⟨text, rfl⟩ := directory_of_ofBytes h hp
    exact hroot.join (Path.isAnchored_ofText text)

end Config

namespace Walk

/-- What a walk has when it comes to its packages: the configuration, the files with the output
directory, and the plan. -/
structure Plans (host : Host) (w : Walk) (files : FileTree) (c : Config) (made : FileTree)
    (p : Plan) : Prop where
  root : files.isDir w.root = true
  config : w.settings.loadConfig host files = .ok c
  out : w.outDir? c = some p.out
  makes : files.makeDirs p.out = .ok made
  plan : w.plan host c p.out made = .ok p

variable {host : Host} {w : Walk} {files made : FileTree} {c : Config} {p : Plan}

/-- What a walk has when it comes to its packages, if it does. -/
def plans? (host : Host) (w : Walk) (files : FileTree) : Option (Config × FileTree × Plan) :=
  if files.isDir w.root then do
    let c ← (w.settings.loadConfig host files).toOption
    let out ← w.outDir? c
    let made ← (files.makeDirs out).toOption
    let p ← (w.plan host c out made).toOption
    return (c, made, p)
  else none

/-- What a plan is made of. -/
theorem parts_of_plan {out : Path} (h : w.plan host c out files = .ok p) :
    p.out = out ∧ w.settings.generator host c = .ok p.generator ∧
      w.entries c files = .ok p.entries ∧
      p.package = Settings.orElse w.package c.output.package := by
  simp only [plan, Except.bind_eq_ok_iff, Except.pure_eq_ok_iff] at h
  obtain ⟨_, hgenerator, _, hentries, rfl⟩ := h
  exact ⟨rfl, hgenerator, hentries, rfl⟩

theorem plans?_eq_some_iff :
    w.plans? host files = some (c, made, p) ↔ w.Plans host files c made p := by
  unfold plans?
  split
  · rename_i hroot
    simp only [Option.bind_eq_bind, Option.bind_eq_some_iff, Except.toOption_eq_some_iff,
      Option.pure_def, Option.some.injEq, Prod.mk.injEq]
    constructor
    · rintro ⟨_, hconfig, out, hout, _, hmakes, _, hplan, rfl, rfl, rfl⟩
      obtain rfl := (parts_of_plan hplan).1
      exact ⟨hroot, hconfig, hout, hmakes, hplan⟩
    · rintro ⟨-, hconfig, hout, hmakes, hplan⟩
      exact ⟨c, hconfig, p.out, hout, made, hmakes, p, hplan, rfl, rfl, rfl⟩
  · rename_i hroot
    simp only [reduceCtorEq, false_iff]
    exact fun h => hroot h.root

/-- What holds of the plan of a walk can be checked. -/
instance {P : Config → FileTree → Plan → Prop} [∀ c made p, Decidable (P c made p)] (host : Host)
    (w : Walk) (files : FileTree) :
    Decidable (∃ c made p, w.Plans host files c made p ∧ P c made p) :=
  decidable_of_iff (∃ x ∈ w.plans? host files, P x.1 x.2.1 x.2.2) (by
    simp only [Prod.exists, Option.mem_def, plans?_eq_some_iff])

namespace Plans

/-- A walk that comes to its plan carries it out. -/
theorem run_eq (h : w.Plans host files c made p) : w.run host files = p.run w made := by
  simp only [run, h.root, h.config, h.out, h.makes, h.plan, Bool.not_true, Bool.false_eq_true,
    if_false]

/-- A walk comes to one plan at most. -/
theorem unique {c' : Config} {made' : FileTree} {p' : Plan} (h : w.Plans host files c made p)
    (h' : w.Plans host files c' made' p') : (c, made, p) = (c', made', p') :=
  Option.some.inj ((plans?_eq_some_iff.mpr h).symm.trans (plans?_eq_some_iff.mpr h'))

/-- What the plan of a walk is made of. -/
theorem parts (h : w.Plans host files c made p) :
    w.settings.generator host c = .ok p.generator ∧ w.entries c made = .ok p.entries ∧
      p.package = Settings.orElse w.package c.output.package :=
  (parts_of_plan h.plan).2

/-- The output directory of a plan is an anchored path. -/
theorem isAnchored_out (h : w.Plans host files c made p) : p.out.IsAnchored := by
  have hout := h.out
  rw [outDir?] at hout
  split at hout
  · exact Config.isAnchored_directory ((Except.mapError_eq_ok_iff _ _ _).mp h.config) hout
  · rw [← Option.some.inj hout]
    exact Path.isAnchored_ofText _

/-- A walk comes to its packages with all the files that were there, and with its output
directory. -/
theorem exists_out (h : w.Plans host files c made p) (hfiles : files.IsSound) :
    made.IsSound ∧ made.Extends files ∧ ∃ out, made.IsDirAt p.out.toText out :=
  hfiles.of_makeDirs h.makes

end Plans

end Walk

end Registrar
