import Registrar.Proofs.Agreement

/-!
# Commands under an accepted configuration

A configuration is accepted without a look at what its names stand for, so a command can still come
to a strategy or a format that nobody registered, to a source directory that is no path, or to a
template that has no expression for a name. Nothing handles these failures. They are the only ones
that end a command which can write its files.
-/

namespace Registrar

/-- A run ends by itself: with status zero or two, or with a message and status one. -/
def Run.Ends (r : Run) : Prop :=
  r.status = .ok 0 ∨ r.status = .ok 2 ∨ r.status = .ok 1 ∧ ∃ text, r.notices = [.failure text]

/-- A failure that nothing handles does not let a run end by itself. -/
theorem Run.not_ends_of_error {r : Run} {f : Fault} (h : r.status = .error f) : ¬ r.Ends := by
  simp [Ends, h]

theorem Run.ends_stop (files : FileTree) (text : String) : (Run.stop files text 1).Ends :=
  .inr (.inr ⟨rfl, text, rfl⟩)

/-- A failure that is reported lets a run end by itself. -/
theorem Run.ends_fail_iff (files : FileTree) (f : Fault) {r : Run}
    (h : r.status = (Run.fail files f).status) : r.Ends ↔ f.message? ≠ none := by
  rw [status_fail] at h
  by_cases hmessage : f.message? = none <;> simp [Ends, h, hmessage]

namespace Registry

/-- The keys that have an item are the registered ones. -/
theorem exists_get_eq_ok_iff {α : Type} (r : Registry α) (key : String) :
    (∃ item, r.get key = .ok item) ↔ key ∈ r.keys := by
  have hfind : (r.find? key).isSome = true ↔ key ∈ r.keys := by
    simp [find?, keys]
  rw [← hfind, get]
  cases r.find? key <;> simp

end Registry

namespace Settings

/-- The strategy and the format that count under the settings are registered. -/
def Knows (s : Settings) (c : Config) : Prop :=
  s.strategy.getD c.strategy ∈ Strategy.registry.keys ∧
    s.format.getD c.format ∈ Format.registry.keys

instance (s : Settings) (c : Config) : Decidable (s.Knows c) :=
  inferInstanceAs (Decidable (_ ∧ _))

/-- There is a generator for a registered strategy and format, and an unhandled failure for
others. -/
theorem generator_cases (host : Host) (s : Settings) (c : Config) :
    (s.Knows c ∧ ∃ generator, s.generator host c = .ok generator) ∨
      ¬ s.Knows c ∧ ∃ e, s.generator host c = .error (.unknownKey e) := by
  rw [Knows, ← Registry.exists_get_eq_ok_iff, ← Registry.exists_get_eq_ok_iff, generator,
    Generator.create, options]
  cases Strategy.registry.get (s.strategy.getD c.strategy) with
  | error e => exact .inr ⟨by simp, e, rfl⟩
  | ok strategy =>
    cases Format.registry.get (s.format.getD c.format) with
    | error e => exact .inr ⟨by simp, e, rfl⟩
    | ok format => exact .inl ⟨⟨⟨strategy, rfl⟩, format, rfl⟩, _, rfl⟩

end Settings

namespace Generate

variable {host : Host} {g : Generate} {files : FileTree} {c : Config} {generator : Generator}

/-- Printing with a generator ends by itself unless the generator fails without a message. -/
theorem ends_print_iff (g : Generate) (generator : Generator) (files : FileTree) :
    (g.print generator files).Ends ↔
      ¬ ∃ f, generator.build files g.root g.path g.directory g.initSuffix = .error f ∧
        f.message? = none := by
  cases hbuild : generator.build files g.root g.path g.directory g.initSuffix with
  | error f =>
    rw [Run.ends_fail_iff files f (status_print_of_build_error hbuild)]
    simp
  | ok choice =>
    have hstatus : (g.print generator files).status = .ok 0 := by
      cases choice with
      | none => exact (print_of_build_none hbuild).1
      | some d => exact (print_of_build_some hbuild).1
    simp [Run.Ends, hstatus]

/-- Printing ends by itself, when the directory is there, exactly if the strategy and the format are
registered and the templates have an expression for all names. -/
theorem ends_iff (hfiles : files.IsSound) (hconfig : g.settings.loadConfig host files = .ok c) :
    (g.run host files).Ends ↔ (files.isDir (joinPath g.root g.directory) = true →
      g.settings.Knows c ∧ ∀ generator, g.settings.generator host c = .ok generator →
        generator.Formats files (joinPath g.root g.directory)) := by
  cases hdir : files.isDir (joinPath g.root g.directory) with
  | false =>
    have hrun : g.run host files =
        .stop files ("Directory not found: " ++ joinPath g.root g.directory) 1 := by
      simp [run, hdir]
    simp [hrun, Run.ends_stop]
  | true =>
    rw [imp_iff_right rfl]
    rcases g.settings.generator_cases host c with ⟨hknows, generator, hgenerator⟩ |
      ⟨hknows, e, hgenerator⟩
    · obtain ⟨names, hnames⟩ := (FileTree.isDir_iff _ _).mp hdir
      rw [run_eq_print hdir hconfig hgenerator, ends_print_iff,
        Generator.build_unreported_iff hfiles, or_iff_right hnames.notMem_zero, not_not,
        and_iff_right hknows]
      simp only [hgenerator, Except.ok.injEq, forall_eq']
    · have hstatus : (g.run host files).status = .error (.unknownKey e) := by
        simp [run, hdir, hconfig, hgenerator, Run.fail, Fault.message?]
      simp [Run.not_ends_of_error hstatus, hknows]

end Generate

namespace Walk

variable {host : Host} {w : Walk} {files made : FileTree} {c : Config} {p : Plan}

/-- A plan is made for a registered strategy and format, unless the system keeps the packages from
being found. -/
theorem plan_cases (host : Host) (w : Walk) (c : Config) (out : Path) (files : FileTree) :
    (¬ w.settings.Knows c ∧ ∃ e, w.plan host c out files = .error (.unknownKey e)) ∨
      w.settings.Knows c ∧ ((∃ err, w.plan host c out files = .error (.file err)) ∨
        ∃ p, w.plan host c out files = .ok p) := by
  rw [plan]
  rcases w.settings.generator_cases host c with ⟨hknows, generator, hgenerator⟩ |
    ⟨hknows, e, hgenerator⟩
  · rw [hgenerator, Except.ok_bind]
    refine .inr ⟨hknows, ?_⟩
    rw [entries]
    split
    · cases discover files w.root with
      | error err => exact .inl ⟨err, rfl⟩
      | ok entries => exact .inr ⟨_, rfl⟩
    · exact .inr ⟨_, rfl⟩
  · rw [hgenerator]
    exact .inl ⟨hknows, e, rfl⟩

/-- How a walk with a configuration ends before it comes to its packages, if it does not. -/
theorem run_cases (hconfig : w.settings.loadConfig host files = .ok c) :
    (∃ text, w.run host files = .stop files text 1 ∧
      (files.isDir w.root = false ∨ w.outDir? c = none)) ∨
    (∃ err, (w.run host files).status = .error (.file err)) ∨
    (∃ e, (w.run host files).status = .error (.unknownKey e) ∧ ¬ w.settings.Knows c ∧
      files.isDir w.root = true ∧ (w.outDir? c).isSome = true) ∨
    w.settings.Knows c ∧ ∃ made p, w.Plans host files c made p := by
  cases hroot : files.isDir w.root with
  | false => exact .inl ⟨_, by simp only [run, hroot]; rfl, .inl rfl⟩
  | true =>
    cases hout : w.outDir? c with
    | none => exact .inl ⟨_, by simp only [run, hroot, hconfig, hout]; rfl, .inr rfl⟩
    | some out =>
      cases hmakes : files.makeDirs out with
      | error err => exact .inr (.inl ⟨err, by simp only [run, hroot, hconfig, hout, hmakes]; rfl⟩)
      | ok made =>
        have hfails : ∀ f, w.plan host c out made = .error f → w.run host files = .fail made f := by
          intro f hplan
          simp only [run, hroot, hconfig, hout, hmakes, hplan, Bool.not_true, Bool.false_eq_true,
            if_false]
        rcases w.plan_cases host c out made with ⟨hknows, e, hplan⟩ |
          ⟨hknows, ⟨err, hplan⟩ | ⟨p, hplan⟩⟩
        · exact .inr (.inr (.inl ⟨e, by rw [hfails _ hplan]; rfl, hknows, rfl, rfl⟩))
        · exact .inr (.inl ⟨err, by rw [hfails _ hplan]; rfl⟩)
        · obtain rfl := (parts_of_plan hplan).1
          exact .inr (.inr (.inr ⟨hknows, made, p, hroot, hconfig, hout, hmakes, hplan⟩))

/-- A walk that can write its files ends by itself exactly if no package that it comes to fails
without a message. -/
theorem Plan.ends_writeAll_iff
    (hwrite : ∀ err, (writeAll w p false files p.entries).status ≠ .error (.file err)) :
    (writeAll w p false files p.entries).Ends ↔
      ∀ e found, (e, found) ∈ p.visits w files p.entries →
        ¬ ∃ f, p.generator.build found w.root e.path e.directory e.initSuffix = .error f ∧
          f.message? = none := by
  constructor
  · rintro hends e found hvisit ⟨f, hbuild, hmessage⟩
    have hstop : p.outcome w found e = .stopped f :=
      outcome_eq_stopped_iff.mpr (.inl ⟨hbuild, fun _ => hmessage⟩)
    exact (Run.ends_fail_iff found f (status_writeAll_of_stopped hvisit hstop)).mp hends hmessage
  · intro hreported
    by_cases hstops : ∃ e found f, (e, found) ∈ p.visits w files p.entries ∧
        p.outcome w found e = .stopped f
    · obtain ⟨e, found, f, hvisit, hstop⟩ := hstops
      have hstatus : (writeAll w p false files p.entries).status = (Run.fail found f).status :=
        status_writeAll_of_stopped hvisit hstop
      rcases outcome_eq_stopped_iff.mp hstop with ⟨hbuild, -⟩ | ⟨d, -, hwritten⟩
      · exact (Run.ends_fail_iff found f hstatus).mpr fun hmessage =>
          hreported e found hvisit ⟨f, hbuild, hmessage⟩
      · obtain ⟨err, rfl⟩ := exists_file_of_writeDocument hwritten
        exact absurd hstatus (hwrite err)
    · obtain ⟨-, hfails, hfine⟩ := status_writeAll_of_not_stopped false
        fun e found hvisit f hstop => hstops ⟨e, found, f, hvisit, hstop⟩
      by_cases hfailed : false = true ∨ ∃ e found, (e, found) ∈ p.visits w files p.entries ∧
          (p.outcome w found e).IsPassedOver
      · exact .inr (.inl (hfails hfailed))
      · exact .inl (hfine hfailed)

/-- A walk that comes to its packages and can write its files ends by itself exactly if the names of
the files collide, or if every package that it comes to has a directory which is a path, and names
for which the templates have an expression. -/
theorem Plans.ends_run_iff (hfiles : files.IsSound) (h : w.Plans host files c made p)
    (hwrite : ∀ err, (w.run host files).status ≠ .error (.file err)) :
    (w.run host files).Ends ↔ ((p.entries.map p.fileName).Nodup →
      ∀ e found, (e, found) ∈ p.visits w made p.entries →
        '\x00' ∉ (joinPath w.root e.directory).toList ∧
          p.generator.Formats found (joinPath w.root e.directory)) := by
  obtain ⟨hmade, -, out, hout⟩ := h.exists_out hfiles
  by_cases hnames : (p.entries.map p.fileName).Nodup
  · rw [h.run_eq, Plan.run_eq_writeAll w made hnames] at hwrite ⊢
    rw [Plan.ends_writeAll_iff hwrite, imp_iff_right hnames]
    refine forall₃_congr fun e found hvisit => ?_
    have hchanged := Plan.changedIn_of_mem_visits h.isAnchored_out hmade hout hvisit
    rw [Generator.build_unreported_iff hchanged.sound, not_or, not_not]
  · have hleaves := h.run_eq ▸ Plan.leaves_run_of_not_nodup w made hnames
    exact iff_of_true (.inr (.inl (congrArg Prod.snd hleaves))) fun hnodup => absurd hnodup hnames

/-- A walk that can write its files ends by itself exactly if the strategy and the format are
registered, when it comes to them, and every package that it comes to has a directory which is a
path, and names for which the templates have an expression. -/
theorem ends_iff (hfiles : files.IsSound) (hconfig : w.settings.loadConfig host files = .ok c)
    (hwrite : ∀ err, (w.run host files).status ≠ .error (.file err)) :
    (w.run host files).Ends ↔
      (files.isDir w.root = true → (w.outDir? c).isSome = true → w.settings.Knows c) ∧
        ∀ made p, w.Plans host files c made p → (p.entries.map p.fileName).Nodup →
          ∀ e found, (e, found) ∈ p.visits w made p.entries →
            '\x00' ∉ (joinPath w.root e.directory).toList ∧
              p.generator.Formats found (joinPath w.root e.directory) := by
  rcases run_cases hconfig with ⟨text, hrun, hearly⟩ | ⟨err, hstatus⟩ |
    ⟨e, hstatus, hknows, hroot, hout⟩ | ⟨hknows, made, p, hplans⟩
  · refine iff_of_true (hrun ▸ Run.ends_stop files text) ⟨fun hroot hout => ?_, fun made p hplans => ?_⟩
    · rcases hearly with hnot | hnone
      · simp [hnot] at hroot
      · simp [hnone] at hout
    · rcases hearly with hnot | hnone
      · cases hnot.symm.trans hplans.root
      · cases hnone.symm.trans hplans.out
  · exact absurd hstatus (hwrite err)
  · exact iff_of_false (Run.not_ends_of_error hstatus) fun h => hknows (h.1 hroot hout)
  · rw [hplans.ends_run_iff hfiles hwrite, and_iff_right fun _ _ => hknows]
    constructor
    · intro h made' p' hplans'
      have hsame : made' = made ∧ p' = p := by simpa using hplans'.unique hplans
      obtain ⟨rfl, rfl⟩ := hsame
      exact h
    · exact fun h => h made p hplans

end Walk

namespace Settings

/-- Which commands end by themselves under a configuration that is accepted. Printing does, when its
directory is there, exactly if the strategy and the format are registered and the templates have an
expression for all names. A walk that can write its files does exactly if the strategy and the
format are registered, when it comes to them, and every package that it comes to has a directory
which is a path, and names for which the templates have an expression. This is so on every host,
whatever the attributes lead to that the templates take. -/
theorem commands_end_iff {host : Host} {s : Settings} {files : FileTree} {c : Config}
    (hfiles : files.IsSound) (hconfig : s.loadConfig host files = .ok c) :
    (∀ g : Generate, g.settings = s →
      ((g.run host files).Ends ↔ (files.isDir (joinPath g.root g.directory) = true →
        s.Knows c ∧ ∀ generator, s.generator host c = .ok generator →
          generator.Formats files (joinPath g.root g.directory)))) ∧
      ∀ w : Walk, w.settings = s → (∀ err, (w.run host files).status ≠ .error (.file err)) →
        ((w.run host files).Ends ↔
          (files.isDir w.root = true → (w.outDir? c).isSome = true → s.Knows c) ∧
            ∀ made p, w.Plans host files c made p → (p.entries.map p.fileName).Nodup →
              ∀ e found, (e, found) ∈ p.visits w made p.entries →
                '\x00' ∉ (joinPath w.root e.directory).toList ∧
                  p.generator.Formats found (joinPath w.root e.directory)) := by
  constructor
  · rintro g rfl
    exact Generate.ends_iff hfiles hconfig
  · rintro w rfl hwrite
    exact Walk.ends_iff hfiles hconfig hwrite

/-- A package, and two configurations to choose from. -/
def strayFiles : FileTree :=
  { root := .dir [
      ("accessor.yml", .ofText "dialect: \x7bvalue_accessor: null\x7d\n"),
      ("src", .dir [("p", .dir [("x.go", .ofText "package p\n\nvar A = 0\n")])]),
      ("strategy.yml", .ofText "strategy: latest\n")]
    home := [] }

/-- The request to print the code of the package under a configuration. -/
def strayPrint (config : String) : Generate :=
  { settings := { config }, root := "src", path := "p" }

theorem commands_end_iff_strayFiles :
    strayFiles.IsSound ∧ ({} : Settings).loadConfig {} strayFiles = .ok { root := .ofText "/" } ∧
      ((strayPrint "").run {} strayFiles).Ends ∧
      ∀ made p,
        Walk.Plans {} { root := "src", out := "out" } strayFiles { root := .ofText "/" } made p →
        (p.entries.map p.fileName).Nodup →
        ∀ e found, (e, found) ∈ p.visits { root := "src", out := "out" } made p.entries →
          p.generator.Formats found (joinPath "src" e.directory) := by
  have hrun : strayFiles.IsSound ∧
      ({} : Settings).loadConfig {} strayFiles = .ok { root := .ofText "/" } ∧
      ({} : Settings).Knows { root := .ofText "/" } ∧
      (Walk.run {} { root := "src", out := "out" } strayFiles).status = .ok 0 := by
    decide +kernel
  obtain ⟨hfiles, hconfig, hknows, hstatus⟩ := hrun
  obtain ⟨hprint, hwalk⟩ := commands_end_iff hfiles hconfig
  refine ⟨hfiles, hconfig, ?_, fun made p hplans hnames e found hvisit => ?_⟩
  · refine (hprint (strayPrint "") rfl).mpr fun _ => ⟨hknows, fun generator hgenerator => ?_⟩
    exact Generator.formats_of_dialect (of_generator hgenerator).1 _
  · have hends := (hwalk { root := "src", out := "out" } rfl (by simp [hstatus])).mp (.inl hstatus)
    exact (hends.2 made p hplans hnames e found hvisit).2

/-- A configuration is accepted that lets a command end with a failure which nothing handles: one
that names no registered strategy, and one that has no template. -/
theorem not_commands_end :
    strayFiles.IsSound ∧ strayFiles.isDir "src/p" = true ∧
      ({ config := "strategy.yml" } : Settings).loadConfig {} strayFiles =
        .ok { root := .ofText "/", strategy := "latest" } ∧
      ¬ ((strayPrint "strategy.yml").run {} strayFiles).Ends ∧
      ({ config := "accessor.yml" } : Settings).loadConfig {} strayFiles =
        .ok { root := .ofText "/", dialect := { valueAccessor := none } } ∧
      ¬ ((strayPrint "accessor.yml").run {} strayFiles).Ends := by
  have hrun : strayFiles.IsSound ∧ strayFiles.isDir "src/p" = true ∧
      ({ config := "strategy.yml" } : Settings).loadConfig {} strayFiles =
        .ok { root := .ofText "/", strategy := "latest" } ∧
      ((strayPrint "strategy.yml").run {} strayFiles).status =
        .error (.unknownKey ⟨"strategy", "latest", ["first", "strict"]⟩) ∧
      ({ config := "accessor.yml" } : Settings).loadConfig {} strayFiles =
        .ok { root := .ofText "/", dialect := { valueAccessor := none } } ∧
      ((strayPrint "accessor.yml").run {} strayFiles).status = .error (.accessor .missing) := by
    decide +kernel
  obtain ⟨hfiles, hdir, hfirst, hstrategy, hsecond, haccessor⟩ := hrun
  exact ⟨hfiles, hdir, hfirst, Run.not_ends_of_error hstrategy, hsecond,
    Run.not_ends_of_error haccessor⟩

end Settings

end Registrar
