import Registrar.Proofs.Reruns
import Registrar.Proofs.Undisturbed

/-!
# A walk and the printing of one package

A walk that keeps going does for each of its packages what the command does that prints one: it
writes what the other prints, behind the head of a file in the format of Go, and passes over what
the other refuses with a message. The two find the same sources, because a walk makes directories
and writes files in its output directory only.
-/

namespace Registrar

/-- No document is printed as nothing. -/
theorem Format.render_ne_empty (format : Format) (d : Document) : format.render d ≠ "" := by
  cases format with
  | go => simp [render, Document.code]
  | json indent => simp [render, Document.jsonText]

/-! ### What printing leaves -/

namespace Generate

variable {host : Host} {g : Generate} {files : FileTree} {generator : Generator}

/-- The command prints with its generator when there is one and the directory is there. -/
theorem run_eq_print {c : Config} (hdir : files.isDir (joinPath g.root g.directory) = true)
    (hconfig : g.settings.loadConfig host files = .ok c)
    (hgenerator : g.settings.generator host c = .ok generator) :
    g.run host files = g.print generator files := by
  simp only [run, hdir, hconfig, Except.ok_bind, hgenerator, Bool.not_true, Bool.false_eq_true,
    if_false]

/-- The code of a document is printed. -/
theorem print_of_build_some {d : Document}
    (h : generator.build files g.root g.path g.directory g.initSuffix = .ok (some d)) :
    (g.print generator files).status = .ok 0 ∧
      (g.print generator files).output = generator.format.render d := by
  rw [print, Generator.generate, h]
  exact ⟨rfl, rfl⟩

/-- Nothing is printed for a directory that is skipped. -/
theorem print_of_build_none
    (h : generator.build files g.root g.path g.directory g.initSuffix = .ok none) :
    (g.print generator files).status = .ok 0 ∧ (g.print generator files).output = "" := by
  rw [print, Generator.generate, h]
  exact ⟨rfl, rfl⟩

/-- A failure ends the command. -/
theorem status_print_of_build_error {f : Fault}
    (h : generator.build files g.root g.path g.directory g.initSuffix = .error f) :
    (g.print generator files).status = (Run.fail files f).status := by
  rw [print, Generator.generate, h]
  rfl

end Generate

namespace Walk

/-- The request to print the code of a package of a walk. -/
def generateOf (w : Walk) (e : PackageEntry) : Generate :=
  { settings := w.settings, root := w.root, path := e.path, dir := e.dir.getD "", init := e.init }

/-- The request is for the directory of the package. -/
theorem directory_generateOf (w : Walk) (e : PackageEntry) :
    (w.generateOf e).directory = e.directory := by
  unfold Generate.directory generateOf Settings.orElse PackageEntry.directory
  cases e.dir <;> rfl

namespace Plans

variable {host : Host} {w : Walk} {files made : FileTree} {c : Config} {p : Plan}
  {e : PackageEntry} {out : List String}

/-- What is printed for a package of a walk depends on what is built for it. -/
theorem run_generateOf (h : w.Plans host files c made p)
    (hdir : files.isDir (joinPath w.root e.directory) = true) :
    (∀ d, p.generator.build files w.root e.path e.directory e.initSuffix = .ok (some d) →
      ((w.generateOf e).run host files).status = .ok 0 ∧
        ((w.generateOf e).run host files).output = p.generator.format.render d) ∧
      (p.generator.build files w.root e.path e.directory e.initSuffix = .ok none →
        ((w.generateOf e).run host files).status = .ok 0 ∧
          ((w.generateOf e).run host files).output = "") ∧
      ∀ f, p.generator.build files w.root e.path e.directory e.initSuffix = .error f →
        ((w.generateOf e).run host files).status = (Run.fail files f).status := by
  have hsame : p.generator.build files (w.generateOf e).root (w.generateOf e).path
      (w.generateOf e).directory (w.generateOf e).initSuffix =
        p.generator.build files w.root e.path e.directory e.initSuffix := by
    rw [directory_generateOf]
    rfl
  have hprint : (w.generateOf e).run host files = (w.generateOf e).print p.generator files :=
    Generate.run_eq_print (by rwa [directory_generateOf]) h.config h.parts.1
  rw [hprint]
  exact ⟨fun d hd => Generate.print_of_build_some (hsame.trans hd),
    fun hnone => Generate.print_of_build_none (hsame.trans hnone),
    fun f hf => Generate.status_print_of_build_error (hsame.trans hf)⟩

/-- Nothing stops a walk that keeps going and can write its files, if its directories are paths and
the templates have an expression for all names. -/
theorem ne_stopped (hfiles : files.IsSound) (h : w.Plans host files c made p)
    (hkeep : w.keepGoing = true) (hnames : (p.entries.map p.fileName).Nodup)
    (hout : made.IsDirAt p.out.toText out) (hapart : p.IsApart w made out)
    (hzero : ∀ e ∈ p.entries, '\x00' ∉ (joinPath w.root e.directory).toList)
    (hformats : ∀ e ∈ p.entries, p.generator.Formats made (joinPath w.root e.directory))
    (hwrite : ∀ err, (w.run host files).status ≠ .error (.file err)) :
    ∀ e found, (e, found) ∈ p.visits w made p.entries → ∀ f, p.outcome w found e ≠ .stopped f := by
  intro e found hvisit f hstop
  have he := Plan.mem_of_mem_visits hvisit
  rcases Plan.outcome_eq_stopped_iff.mp hstop with ⟨hbuild, hreport⟩ | ⟨d, -, hwritten⟩
  · exact Plan.message?_ne_none_of_mem_visits (h.exists_out hfiles).1 h.isAnchored_out hout hapart
      hvisit (hzero e he) (hformats e he) hbuild (hreport hkeep)
  · obtain ⟨err, rfl⟩ := Plan.exists_file_of_writeDocument hwritten
    apply hwrite err
    rw [h.run_eq, Plan.run_eq_writeAll w made hnames, Plan.status_writeAll_of_stopped hvisit hstop]
    rfl

/-- A walk that keeps going, whose files have different names and whose output directory is none
of its source directories, agrees with the command that prints one package, as long as all its
directories are paths, the templates have an expression for all names, and files can be written.
It writes a file for a package exactly when the other command prints something; the file is what is
printed, behind the head of a file in the format of Go. It passes over the package exactly when the
other command ends with status two. The two runs have to read the dialect alike. -/
theorem agrees_with_generate {attributes : Text.Template.Attributes} (hfiles : files.IsSound)
    (h : w.Plans host files c made p) (halike : c.dialect.ReadsAlike host.attributes attributes)
    (hkeep : w.keepGoing = true) (hnames : (p.entries.map p.fileName).Nodup)
    (hout : made.IsDirAt p.out.toText out) (hapart : p.IsApart w made out)
    (hzero : ∀ e ∈ p.entries, '\x00' ∉ (joinPath w.root e.directory).toList)
    (hformats : ∀ e ∈ p.entries, p.generator.Formats made (joinPath w.root e.directory))
    (hwrite : ∀ err, (w.run host files).status ≠ .error (.file err))
    (he : e ∈ p.entries) (hdir : files.isDir (joinPath w.root e.directory) = true) :
    ((∃ d, (e, d) ∈ p.log w made p.entries) ↔
        ((w.generateOf e).run (host.withAttributes attributes) files).status = .ok 0 ∧
          ((w.generateOf e).run (host.withAttributes attributes) files).output ≠ "") ∧
      (∀ d, (e, d) ∈ p.log w made p.entries →
        (w.run host files).files.read (p.target e) = .ok (Text.Utf8.encode
          (match p.generator.format with
            | .go => d.fileHead p.package ++
                ((w.generateOf e).run (host.withAttributes attributes) files).output
            | .json _ => ((w.generateOf e).run (host.withAttributes attributes) files).output))) ∧
      ((∃ found, (e, found) ∈ p.visits w made p.entries ∧ (p.outcome w found e).IsPassedOver) ↔
        ((w.generateOf e).run (host.withAttributes attributes) files).status = .ok 2) := by
  have hagain : (w.generateOf e).run (host.withAttributes attributes) files =
      (w.generateOf e).run host files := Generate.run_withAttributes h.config halike
  rw [hagain]
  obtain ⟨hmade, hextends, -⟩ := h.exists_out hfiles
  have hp := h.isAnchored_out
  have hrun : w.run host files = Plan.writeAll w p false made p.entries :=
    h.run_eq.trans (Plan.run_eq_writeAll w made hnames)
  have hgoes := h.ne_stopped hfiles hkeep hnames hout hapart hzero hformats hwrite
  have hbuild : p.generator.build made w.root e.path e.directory e.initSuffix =
      p.generator.build files w.root e.path e.directory e.initSuffix :=
    Generator.build_eq_of_keepsSources (hextends.keepsSources hfiles hmade _) hdir
  have hlog : ∀ d, (e, d) ∈ p.log w made p.entries ↔
      p.generator.build files w.root e.path e.directory e.initSuffix = .ok (some d) := by
    intro d
    rw [Plan.mem_log_iff_build hmade hp hout hapart hgoes, hbuild, and_iff_right he]
  have hpassed := Plan.exists_isPassedOver_iff_build (e := e) hmade hp hout hapart hgoes
  rw [hbuild, and_iff_right he] at hpassed
  have hread : ∀ d, (e, d) ∈ p.log w made p.entries →
      (w.run host files).files.read (p.target e) = .ok (p.fileBytes d) := by
    intro d hd
    rw [hrun]
    exact ((Plan.holds_writeAll hp hnames hmade hout false).written e d hd).2
  obtain ⟨hsome, hnone, herror⟩ := h.run_generateOf hdir
  simp only [hpassed, hlog]
  cases hchoice : p.generator.build files w.root e.path e.directory e.initSuffix with
  | error f =>
    have hmessage : f.message? ≠ none := by
      intro hmessage
      rcases (Generator.build_unreported_iff hfiles).mp ⟨f, hchoice, hmessage⟩ with hnot | hnot
      · exact hzero e he hnot
      · exact hnot ((hformats e he).of_keepsSources (hextends.keepsSources hfiles hmade _))
    have hstatus := herror f hchoice
    rw [Run.status_fail, if_neg hmessage] at hstatus
    simp [hstatus]
  | ok choice =>
    cases choice with
    | none =>
      obtain ⟨hstatus, houtput⟩ := hnone hchoice
      simp [hstatus, houtput]
    | some d =>
      obtain ⟨hstatus, houtput⟩ := hsome d hchoice
      have hd := hread d ((hlog d).mpr hchoice)
      simp only [hstatus, houtput, Except.ok.injEq, Option.some.injEq]
      refine ⟨by simp [Format.render_ne_empty], ?_, by simp⟩
      rintro d rfl
      rw [hd, Plan.fileBytes]
      cases p.generator.format <;> rfl

/-- A package and one that cannot be parsed. -/
def halfParsedFiles : FileTree :=
  { root := .dir [
      (".bindgen.yml", .ofText "packages: [a, b]\n"),
      ("src", .dir [
        ("a", .dir [("x.go", .ofText "package a\n\nvar A = 0\n")]),
        ("b", .dir [("x.go", .ofText "package b\n\nvar B =\n")])])]
    home := [] }

/-- A walk to the usual places that keeps going. -/
def steadyWalk : Walk :=
  { root := "src", out := "out", keepGoing := true }

/-- The printing of a package in another run, in which attributes lead to their names. -/
def printedAgain (path : String) : Run :=
  (steadyWalk.generateOf { path }).run (Host.withAttributes {} Text.Template.namedAttributes)
    halfParsedFiles

theorem agrees_with_generate_halfParsedFiles :
    halfParsedFiles.IsSound ∧ ∃ c made p, steadyWalk.Plans {} halfParsedFiles c made p ∧
      (∃ d, ({ path := "a" }, d) ∈ p.log steadyWalk made p.entries) ∧
      ∃ found, ({ path := "b" }, found) ∈ p.visits steadyWalk made p.entries ∧
        (p.outcome steadyWalk found { path := "b" }).IsPassedOver := by
  have hrun : halfParsedFiles.IsSound ∧
      (steadyWalk.run {} halfParsedFiles).status = .ok 2 ∧
      (printedAgain "a").status = .ok 0 ∧ (printedAgain "a").output ≠ "" ∧
      (printedAgain "b").status = .ok 2 ∧
      ∃ c made p, steadyWalk.Plans {} halfParsedFiles c made p ∧
        p.entries = [{ path := "a" }, { path := "b" }] ∧ p.generator.dialect = {} ∧
        (p.entries.map p.fileName).Nodup ∧ made.IsDirAt p.out.toText ["out"] ∧
        p.IsApart steadyWalk made ["out"] := by
    decide +kernel
  obtain ⟨hfiles, hstatus, hfirst, houtput, hsecond, c, made, p, hplans, hentries, hdialect, hnames,
    hout, hapart⟩ := hrun
  have hzero : ∀ e ∈ p.entries, '\x00' ∉ (joinPath steadyWalk.root e.directory).toList := by
    rw [hentries]
    decide +kernel
  have halike := hplans.readsAlike_of_dialect hdialect Text.Template.namedAttributes
  have hagrees := fun e (he : e ∈ p.entries) => agrees_with_generate hfiles hplans halike rfl hnames
    hout hapart hzero (fun _ _ => Generator.formats_of_dialect hdialect _) (by simp [hstatus]) he
  refine ⟨hfiles, c, made, p, hplans, ?_, ?_⟩
  · exact (hagrees { path := "a" } (by simp [hentries]) (by decide +kernel)).1.mpr
      ⟨hfirst, houtput⟩
  · exact (hagrees { path := "b" } (by simp [hentries]) (by decide +kernel)).2.2.mpr hsecond

/-- A package behind one whose directory is no path. -/
def zeroPathFiles : FileTree :=
  { root := .dir [
      (".bindgen.yml", .ofText "packages: [\"a\\0\", b]\n"),
      ("src", .dir [("b", .dir [("x.go", .ofText "package b\n\nvar B = 0\n")])])]
    home := [] }

/-- A package whose directory is no path ends a walk that is to keep going, and the packages behind
it are not written although they can be printed. -/
theorem not_agrees_with_generate :
    zeroPathFiles.IsSound ∧
      (∀ err, (steadyWalk.run {} zeroPathFiles).status ≠ .error (.file err)) ∧
      ((steadyWalk.generateOf { path := "b" }).run {} zeroPathFiles).status = .ok 0 ∧
      ((steadyWalk.generateOf { path := "b" }).run {} zeroPathFiles).output ≠ "" ∧
      ∃ c made p, steadyWalk.Plans {} zeroPathFiles c made p ∧ p.generator.dialect = {} ∧
        (p.entries.map p.fileName).Nodup ∧ made.IsDirAt p.out.toText ["out"] ∧
        p.IsApart steadyWalk made ["out"] ∧ { path := "b" } ∈ p.entries ∧
        ¬ ∃ d, ({ path := "b" }, d) ∈ p.log steadyWalk made p.entries := by
  have hrun : zeroPathFiles.IsSound ∧
      (steadyWalk.run {} zeroPathFiles).status = .error (.read (.path .zeroInPath)) ∧
      ((steadyWalk.generateOf { path := "b" }).run {} zeroPathFiles).status = .ok 0 ∧
      ((steadyWalk.generateOf { path := "b" }).run {} zeroPathFiles).output ≠ "" ∧
      ∃ c made p, steadyWalk.Plans {} zeroPathFiles c made p ∧ p.generator.dialect = {} ∧
        (p.entries.map p.fileName).Nodup ∧ made.IsDirAt p.out.toText ["out"] ∧
        p.IsApart steadyWalk made ["out"] ∧ { path := "b" } ∈ p.entries ∧
        (p.log steadyWalk made p.entries).map Prod.fst = [] := by
    decide +kernel
  obtain ⟨hfiles, hstatus, hprinted, houtput, c, made, p, hplans, hdialect, hnames, hout, hapart,
    hmem, hlog⟩ := hrun
  refine ⟨hfiles, by simp [hstatus], hprinted, houtput, c, made, p, hplans, hdialect, hnames, hout,
    hapart, hmem, ?_⟩
  rw [List.map_eq_nil_iff.mp hlog]
  simp

end Plans

end Walk

end Registrar
