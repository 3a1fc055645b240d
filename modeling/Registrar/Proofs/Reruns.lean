import Registrar.Proofs.Attributes
import Registrar.Proofs.Plans

/-!
# Running a command again

A command that runs again on the same files finds the same configuration and the same sources, but
attributes can lead elsewhere. As long as the dialect of the configuration is read alike, both runs
print and show the same, leave the same files and end alike.
-/

namespace Registrar

open Text.Template (Attributes)

variable {host : Host} {attributes : Attributes} {files : FileTree} {c : Config}

/-- A host in a run in which attributes lead elsewhere. -/
def Host.withAttributes (host : Host) (attributes : Attributes) : Host :=
  { host with attributes }

namespace Settings

variable {s : Settings}

/-- A generator has the dialect of its configuration and the attributes of its host. -/
theorem of_generator {generator : Generator} (h : s.generator host c = .ok generator) :
    generator.dialect = c.dialect ∧ generator.attributes = host.attributes := by
  simp only [Settings.generator, Generator.create, Except.mapError_eq_ok_iff,
    Except.bind_eq_ok_iff, Except.pure_eq_ok_iff] at h
  obtain ⟨_, -, _, -, rfl⟩ := h
  exact ⟨rfl, rfl⟩

/-- A run in which attributes lead elsewhere has the same generator but for the attributes. -/
theorem generator_withAttributes :
    s.generator (host.withAttributes attributes) c =
      (s.generator host c).map (·.withAttributes attributes) := by
  rw [Settings.generator, Settings.generator, Generator.create, Generator.create]
  cases Strategy.registry.get (s.options c).strategy with
  | error e => rfl
  | ok strategy => cases Format.registry.get (s.options c).format <;> rfl

/-- The dialect of a generator is read alike where the one of its configuration is. -/
theorem readsAlike_of_generator {generator : Generator} (h : s.generator host c = .ok generator)
    (halike : c.dialect.ReadsAlike host.attributes attributes) :
    generator.dialect.ReadsAlike generator.attributes attributes := by
  obtain ⟨hdialect, hattributes⟩ := of_generator h
  rwa [hdialect, hattributes]

end Settings

/-- The code of a package is printed alike again, if the dialect is read alike. -/
theorem Generate.run_withAttributes {g : Generate}
    (hconfig : g.settings.loadConfig host files = .ok c)
    (halike : c.dialect.ReadsAlike host.attributes attributes) :
    g.run (host.withAttributes attributes) files = g.run host files := by
  have hconfig' : g.settings.loadConfig (host.withAttributes attributes) files = .ok c := hconfig
  rw [run, run, hconfig, hconfig', Except.ok_bind, Except.ok_bind,
    Settings.generator_withAttributes]
  cases hgenerator : g.settings.generator host c with
  | error f => rfl
  | ok generator =>
    have hprint : g.print (generator.withAttributes attributes) files =
        g.print generator files := by
      rw [print, print, Generator.generate_withAttributes
        (Settings.readsAlike_of_generator hgenerator halike)]
      rfl
    simp only [Except.map, hprint]

namespace Walk

namespace Plan

variable {w : Walk} {p : Plan}

/-- A plan in a run in which attributes lead elsewhere. -/
def withAttributes (p : Plan) (attributes : Attributes) : Plan :=
  { p with generator := p.generator.withAttributes attributes }

/-- The names of the files do not depend on attributes, and neither does which of them collide. -/
theorem collision?_withAttributes (seen : List (String × PackageEntry))
    (entries : List PackageEntry) :
    (p.withAttributes attributes).collision? seen entries = p.collision? seen entries := by
  induction entries generalizing seen with
  | nil => rfl
  | cons e rest ih =>
    rw [collision?, collision?]
    simp only [ih]
    rfl

variable (halike : p.generator.dialect.ReadsAlike p.generator.attributes attributes)
include halike

/-- The same becomes of a package, if the dialect is read alike. -/
theorem outcome_withAttributes (e : PackageEntry) :
    (p.withAttributes attributes).outcome w files e = p.outcome w files e := by
  have hbuild : (p.withAttributes attributes).generator.build files w.root e.path e.directory
      e.initSuffix = p.generator.build files w.root e.path e.directory e.initSuffix :=
    Generator.build_withAttributes halike _ _ _ _ _
  have hwrite : (p.withAttributes attributes).writeDocument files e = p.writeDocument files e := rfl
  unfold outcome
  rw [hbuild, hwrite]

/-- The same packages are written alike again, if the dialect is read alike. -/
theorem writeAll_withAttributes (failed : Bool) (entries : List PackageEntry) :
    writeAll w (p.withAttributes attributes) failed files entries =
      writeAll w p failed files entries := by
  induction entries generalizing failed files with
  | nil => rfl
  | cons e rest ih =>
    rw [writeAll, writeAll, writeNext, writeNext, outcome_withAttributes halike]
    simp only [ih]
    rfl

/-- A plan is carried out alike again, if the dialect is read alike. -/
theorem run_withAttributes :
    (p.withAttributes attributes).run w files = p.run w files := by
  rw [run, run, collision?_withAttributes]
  simp only [writeAll_withAttributes halike]
  rfl

end Plan

variable {w : Walk}

/-- A walk under the default dialect reads it alike in all runs. -/
theorem Plans.readsAlike_of_dialect {made : FileTree} {p : Plan} (h : w.Plans host files c made p)
    (hdialect : p.generator.dialect = {}) (attributes : Attributes) :
    c.dialect.ReadsAlike host.attributes attributes := by
  rw [← (Settings.of_generator h.parts.1).1, hdialect]
  exact Dialect.readsAlike_default _ _

/-- A run in which attributes lead elsewhere has the same plan but for the attributes. -/
theorem plan_withAttributes (out : Path) :
    w.plan (host.withAttributes attributes) c out files =
      (w.plan host c out files).map (·.withAttributes attributes) := by
  rw [plan, plan, Settings.generator_withAttributes]
  cases w.settings.generator host c with
  | error f => rfl
  | ok generator =>
    simp only [Except.map, Except.ok_bind]
    cases w.entries c files <;> rfl

/-- The files of packages are written alike again, if the dialect is read alike. -/
theorem run_withAttributes (hconfig : w.settings.loadConfig host files = .ok c)
    (halike : c.dialect.ReadsAlike host.attributes attributes) :
    w.run (host.withAttributes attributes) files = w.run host files := by
  have hconfig' : w.settings.loadConfig (host.withAttributes attributes) files = .ok c := hconfig
  simp only [run, hconfig, hconfig']
  split
  · rfl
  · split
    · rfl
    · split
      · rfl
      · rw [plan_withAttributes]
        cases hplan : w.plan host c _ _ with
        | error f => rfl
        | ok p =>
          have hgenerator := (parts_of_plan hplan).2.1
          exact Plan.run_withAttributes (Settings.readsAlike_of_generator hgenerator halike)

end Walk

end Registrar
