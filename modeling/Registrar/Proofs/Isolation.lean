import Registrar.Proofs.Undisturbed

/-!
# Packages of a walk that keeps going

A walk that keeps going passes over a package that cannot be read, parsed or chosen from, and goes
on. What it does not pass over is a directory that is no path, and a file that cannot be written:
either of them ends it. Without them it writes every package that it would write alone, and its
status says whether one of the packages failed.
-/

namespace Registrar

namespace FileTree

variable {tree tree' : FileTree} {out : List String}

/-- A tree differs from another in that a directory is empty. -/
structure EmptiedAt (tree' tree : FileTree) (out : List String) : Prop where
  sound : tree'.IsSound
  home : tree'.home = tree.home
  kindAt?_eq : ∀ names, tree'.kindAt? names =
    if names = out then some .dir else if out <+: names then none else tree.kindAt? names

/-- A sound tree in which a directory is emptied. -/
theorem emptiedAt_put (htree : tree.IsSound) (hdir : tree.kindAt? out = some .dir)
    (hhome : ¬ out <+: tree.home ∨ tree.home = out) :
    (tree.put out (.dir [])).EmptiedAt tree out := by
  have hkind : ∀ names, (tree.put out (.dir [])).kindAt? names =
      if names = out then some .dir else if out <+: names then none else tree.kindAt? names :=
    Entry.kindAt?_put Entry.isLeaf_empty fun front hprefix _ =>
      Entry.kindAt?_eq_dir_of_prefix hprefix hdir
  have hnames : ∀ name ∈ out, IsName name := htree.isName_of_mem (by simp [hdir])
  refine ⟨⟨(by decide : (Entry.dir []).IsSound).put htree.root hnames, ?_⟩, rfl, hkind⟩
  have hstays : (tree.put out (.dir [])).home = tree.home := rfl
  rw [hstays, hkind]
  rcases hhome with hnot | heq
  · have hne : tree.home ≠ out := by
      rintro rfl
      exact hnot List.prefix_rfl
    rw [if_neg hne, if_neg hnot, htree.home]
  · rw [if_pos heq]

/-- A tree keeps the sources of all directories that are not below one which is emptied. -/
theorem EmptiedAt.keepsSources (h : tree'.EmptiedAt tree out) (htree : tree.IsSound)
    (hout : tree.kindAt? out = some .dir) {directory : String}
    (hapart : ∀ names, tree.IsDirAt directory names → ¬ out <+: names) :
    tree.KeepsSources tree' directory := by
  have hkeeps : tree.Keeps tree' := by
    refine ⟨h.home.symm, fun names hdir => ?_⟩
    rw [h.kindAt?_eq] at hdir
    split at hdir
    · rename_i heq
      rw [heq, hout]
    · split at hdir
      · cases hdir
      · exact hdir
  refine ⟨h.sound, htree, hkeeps, fun names hdir name content => ?_⟩
  have hnot := hapart names (hkeeps.isDirAt hdir)
  rw [h.kindAt?_eq]
  split
  · rename_i heq
    simp [heq, hout]
  · rename_i hne
    rw [if_neg]
    intro hprefix
    rcases List.prefix_concat_iff.mp hprefix with heq | hprefix
    · exact hne heq.symm
    · exact hnot hprefix

end FileTree

namespace Walk

namespace Plan

variable {w : Walk} {p : Plan} {files made found : FileTree} {out : List String} {e : PackageEntry}
  {d : Document}

/-- The output directory is not above a source directory, and is none itself. -/
def IsDisjoint (w : Walk) (p : Plan) (tree : FileTree) (out : List String) : Prop :=
  ∀ e ∈ p.entries, ∀ names, tree.IsDirAt (joinPath w.root e.directory) names → ¬ out <+: names

instance (w : Walk) (p : Plan) (tree : FileTree) (out : List String) :
    Decidable (p.IsDisjoint w tree out) :=
  decidable_of_iff (∀ e ∈ p.entries,
      ∀ names ∈ (tree.locate (joinPath w.root e.directory)).toOption,
        tree.kindAt? names = some .dir → ¬ out <+: names) (by
    simp only [IsDisjoint, FileTree.IsDirAt, Option.mem_def, Except.toOption_eq_some_iff, and_imp])

theorem IsDisjoint.isApart (h : p.IsDisjoint w made out) : p.IsApart w made out :=
  fun e he hdir => h e he out hdir List.prefix_rfl

/-- All source directories are paths, and the files of all documents can be written. -/
def IsWritable (w : Walk) (p : Plan) (files : FileTree) : Prop :=
  ∀ e ∈ p.entries, '\x00' ∉ (joinPath w.root e.directory).toList ∧
    ∀ d, p.generator.build files w.root e.path e.directory e.initSuffix = .ok (some d) →
      ∃ written, p.writeDocument files e d = .ok written

/-- A file can be written when its name and path are not too long and no directory is in its
place. -/
theorem exists_writeDocument_iff (hp : p.out.IsAnchored) (hout : files.IsDirAt p.out.toText out) :
    (∃ written, p.writeDocument files e d = .ok written) ↔
      FileTree.checkText (p.target e) = .ok () ∧
        (p.fileName e).utf8ByteSize ≤ FileTree.nameLimit ∧
        files.kindAt? (out ++ [p.fileName e]) ≠ some .dir := by
  simp only [Prod.exists, writeDocument_eq_ok_iff, exists_and_left, exists_eq, and_true,
    (asksFor_target hp hout e).write_eq_ok_iff]

/-- A change in the output directory does not decide whether a file can be written. -/
theorem exists_writeDocument_iff_of_changedIn (hp : p.out.IsAnchored)
    (hout : made.IsDirAt p.out.toText out) (h : found.ChangedIn made out) :
    (∃ written, p.writeDocument found e d = .ok written) ↔
      ∃ written, p.writeDocument made e d = .ok written := by
  have hdir : found.kindAt? (out ++ [p.fileName e]) = some .dir ↔
      made.kindAt? (out ++ [p.fileName e]) = some .dir :=
    ⟨h.dirs _, h.keeps.dirs _⟩
  rw [exists_writeDocument_iff hp (h.keeps.isDirAt hout), exists_writeDocument_iff hp hout, Ne, hdir]

/-- A document that is written alone is the one that is built for its package. -/
theorem build_of_mem_log_singleton (h : (e, d) ∈ p.log w files [e]) :
    p.generator.build files w.root e.path e.directory e.initSuffix = .ok (some d) := by
  rcases mem_log_cons_iff.mp h with ⟨-, _, _, hwrote⟩ | ⟨_, -, hrest⟩
  · exact (of_outcome_eq_wrote hwrote).1
  · cases hrest

/-- A walk that keeps going ends by itself exactly if nothing stops it. -/
theorem exists_status_writeAll_iff (hkeep : w.keepGoing = true) :
    (∃ status, (writeAll w p false files p.entries).status = .ok status) ↔
      ∀ e found, (e, found) ∈ p.visits w files p.entries →
        ∀ f, p.outcome w found e ≠ .stopped f := by
  constructor
  · rintro ⟨status, hstatus⟩ e found hvisit f hstop
    have hmessage : f.message? = none := by
      rcases outcome_eq_stopped_iff.mp hstop with ⟨-, hreport⟩ | ⟨d, -, hwrite⟩
      · exact hreport hkeep
      · obtain ⟨err, rfl⟩ := exists_file_of_writeDocument hwrite
        rfl
    rw [status_writeAll_of_stopped hvisit hstop, Run.status_fail, if_pos hmessage] at hstatus
    cases hstatus
  · intro hgoes
    obtain ⟨-, hfails, hfine⟩ := status_writeAll_of_not_stopped false hgoes
    by_cases hfailed : false = true ∨ ∃ e found, (e, found) ∈ p.visits w files p.entries ∧
        (p.outcome w found e).IsPassedOver
    · exact ⟨2, hfails hfailed⟩
    · exact ⟨0, hfine hfailed⟩

section Disjoint

variable (hmade : made.IsSound) (hp : p.out.IsAnchored) (hout : made.IsDirAt p.out.toText out)
  (hapart : p.IsApart w made out)
include hmade hp hout hapart

/-- Under the default dialect nothing stops a walk that keeps going exactly if all its source
directories are paths and all its documents can be written. -/
theorem forall_ne_stopped_iff (hkeep : w.keepGoing = true) (hdialect : p.generator.dialect = {}) :
    (∀ e found, (e, found) ∈ p.visits w made p.entries → ∀ f, p.outcome w found e ≠ .stopped f) ↔
      p.IsWritable w made := by
  constructor
  · intro hgoes e he
    obtain ⟨found, hvisit⟩ := exists_mem_visits hgoes he
    have hchanged := changedIn_of_mem_visits hp hmade hout hvisit
    refine ⟨fun hzero => ?_, fun d hbuild => ?_⟩
    · obtain ⟨f, hfails, hmessage⟩ := (Generator.build_unreported_iff hchanged.sound).mpr
        (.inl hzero)
      exact hgoes e found hvisit f (outcome_eq_stopped_iff.mpr (.inl ⟨hfails, fun _ => hmessage⟩))
    · have hfound := (build_eq_ok_iff_of_mem_visits hmade hp hout hapart hvisit _).mpr hbuild
      rw [← exists_writeDocument_iff_of_changedIn hp hout hchanged]
      cases hwrite : p.writeDocument found e d with
      | error f =>
        exact absurd (outcome_eq_stopped_iff.mpr (.inr ⟨d, hfound, hwrite⟩)) (hgoes e found hvisit f)
      | ok written => exact ⟨written, rfl⟩
  · intro hwritable e found hvisit f hstop
    have hchanged := changedIn_of_mem_visits hp hmade hout hvisit
    obtain ⟨hzero, hwrites⟩ := hwritable e (mem_of_mem_visits hvisit)
    rcases outcome_eq_stopped_iff.mp hstop with ⟨hfails, hreport⟩ | ⟨d, hfound, hwrite⟩
    · exact message?_ne_none_of_mem_visits hmade hp hout hapart hvisit hzero
        (Generator.formats_of_dialect hdialect _) hfails (hreport hkeep)
    · have hbuild := (build_eq_ok_iff_of_mem_visits hmade hp hout hapart hvisit _).mp hfound
      obtain ⟨written, hok⟩ :=
        (exists_writeDocument_iff_of_changedIn hp hout hchanged).mpr (hwrites d hbuild)
      cases hok.symm.trans hwrite

end Disjoint

end Plan

namespace Plans

variable {host : Host} {w : Walk} {files made : FileTree} {c : Config} {p : Plan}
  {out : List String}

/-- A walk that keeps going, under the default dialect, whose files have different names and whose
output directory is not above its sources. It ends by itself exactly if all its source directories
are paths and all its documents can be written. Then it writes the file of every package that it
would write alone into an empty output directory, and its status is two if a package failed and zero
otherwise. -/
theorem isolates (hfiles : files.IsSound) (h : w.Plans host files c made p)
    (hkeep : w.keepGoing = true) (hdialect : p.generator.dialect = {})
    (hnames : (p.entries.map p.fileName).Nodup) (hout : made.IsDirAt p.out.toText out)
    (hdisjoint : p.IsDisjoint w made out) :
    ((∃ status, (w.run host files).status = .ok status) ↔ p.IsWritable w made) ∧
      (p.IsWritable w made →
        (∀ e ∈ p.entries, ∀ alone, alone.EmptiedAt made out → ∀ d, (e, d) ∈ p.log w alone [e] →
          (e, d) ∈ p.log w made p.entries ∧
            (w.run host files).files.read (p.target e) = .ok (p.fileBytes d)) ∧
        ((∃ e ∈ p.entries, ∃ f,
            p.generator.build made w.root e.path e.directory e.initSuffix = .error f) →
          (w.run host files).status = .ok 2) ∧
        ((∀ e ∈ p.entries, ∀ f,
            p.generator.build made w.root e.path e.directory e.initSuffix ≠ .error f) →
          (w.run host files).status = .ok 0)) := by
  obtain ⟨hmade, -, -⟩ := h.exists_out hfiles
  have hp := h.isAnchored_out
  have hapart := hdisjoint.isApart
  rw [h.run_eq, Plan.run_eq_writeAll w made hnames, Plan.exists_status_writeAll_iff hkeep,
    Plan.forall_ne_stopped_iff hmade hp hout hapart hkeep hdialect]
  refine ⟨Iff.rfl, fun hwritable => ?_⟩
  have hgoes := (Plan.forall_ne_stopped_iff hmade hp hout hapart hkeep hdialect).mpr hwritable
  obtain ⟨-, hfails, hfine⟩ := Plan.status_writeAll_of_not_stopped false hgoes
  have hpassed := fun e => Plan.exists_isPassedOver_iff_build (e := e) hmade hp hout hapart hgoes
  refine ⟨fun e he alone hempty d hd => ?_, fun ⟨e, he, hfailed⟩ => ?_, fun hbuilds => ?_⟩
  · have hkept := hempty.keepsSources hmade hout.2 (hdisjoint e he)
    have hbuild := Generator.build_of_keepsSources hkept (Plan.build_of_mem_log_singleton hd)
    have hmem := (Plan.mem_log_iff_build hmade hp hout hapart hgoes).mpr ⟨he, hbuild⟩
    exact ⟨hmem, ((Plan.holds_writeAll hp hnames hmade hout false).written e d hmem).2⟩
  · exact hfails (.inr ⟨e, (hpassed e).mpr ⟨he, hfailed⟩⟩)
  · apply hfine
    rintro (hfalse | ⟨e, hvisit⟩)
    · cases hfalse
    · obtain ⟨he, f, hfailed⟩ := (hpassed e).mp hvisit
      exact hbuilds e he f hfailed

/-- A directory with two packages to choose between, one with a single package, and an old file in
the output directory. -/
def mixedFiles : FileTree :=
  { root := .dir [
      ("gen", .dir [("old.go", .ofText "package packages\n")]),
      ("src", .dir [
        ("a", .dir [
          ("x.go", .ofText "package a\n\nvar A = 0\n"), ("y.go", .ofText "package c\n")]),
        ("b", .dir [("x.go", .ofText "package b\n\nvar B = 0\n")])])]
    home := [] }

/-- A walk that keeps going to a directory that is there. -/
def gatheringWalk : Walk :=
  { root := "src", out := "gen", keepGoing := true }

theorem isolates_mixedFiles :
    mixedFiles.IsSound ∧ (gatheringWalk.run {} mixedFiles).status = .ok 2 ∧
      ∃ c made p, gatheringWalk.Plans {} mixedFiles c made p ∧ p.IsWritable gatheringWalk made ∧
        ∃ d, ({ path := "b" }, d) ∈ p.log gatheringWalk made p.entries ∧
          (gatheringWalk.run {} mixedFiles).files.read (p.target { path := "b" }) =
            .ok (p.fileBytes d) := by
  have hrun : mixedFiles.IsSound ∧ (gatheringWalk.run {} mixedFiles).status = .ok 2 ∧
      ∃ c made p, gatheringWalk.Plans {} mixedFiles c made p ∧ p.generator.dialect = {} ∧
        (p.entries.map p.fileName).Nodup ∧ made.IsDirAt p.out.toText ["gen"] ∧ made.home = [] ∧
        p.IsDisjoint gatheringWalk made ["gen"] ∧ { path := "b" } ∈ p.entries ∧
        { path := "b" } ∈
          (p.log gatheringWalk (made.put ["gen"] (.dir [])) [{ path := "b" }]).map Prod.fst := by
    decide +kernel
  obtain ⟨hfiles, hstatus, c, made, p, hplans, hdialect, hnames, hout, hhome, hdisjoint, hentry,
    halone⟩ := hrun
  have hempty := FileTree.emptiedAt_put (hplans.exists_out hfiles).1 hout.2
    (.inl (by rw [hhome]; decide))
  obtain ⟨hends, hwrites⟩ := isolates hfiles hplans rfl hdialect hnames hout hdisjoint
  have hwritable := hends.mp ⟨2, hstatus⟩
  obtain ⟨⟨e, d⟩, hd, rfl⟩ := List.mem_map.mp halone
  exact ⟨hfiles, hstatus, c, made, p, hplans, hwritable, d,
    (hwrites hwritable).1 _ hentry _ hempty d hd⟩

/-- Two packages, and a directory in the place of the first one's file. -/
def blockedFiles : FileTree :=
  { root := .dir [
      ("gen", .dir [("a.go", .dir [])]),
      ("src", .dir [
        ("a", .dir [("x.go", .ofText "package a\n\nvar A = 0\n")]),
        ("b", .dir [("x.go", .ofText "package b\n\nvar B = 0\n")])])]
    home := [] }

/-- A file that cannot be written ends a walk that is to keep going, and the packages behind it are
not written although they would be alone. -/
theorem not_isolates :
    blockedFiles.IsSound ∧
      (gatheringWalk.run {} blockedFiles).status = .error (.file .isDirectory) ∧
      ∃ c made p, gatheringWalk.Plans {} blockedFiles c made p ∧ p.generator.dialect = {} ∧
        (p.entries.map p.fileName).Nodup ∧ made.IsDirAt p.out.toText ["gen"] ∧
        p.IsDisjoint gatheringWalk made ["gen"] ∧ { path := "b" } ∈ p.entries ∧
        (∃ alone d, alone.EmptiedAt made ["gen"] ∧
          ({ path := "b" }, d) ∈ p.log gatheringWalk alone [{ path := "b" }]) ∧
        ¬ ∃ d, ({ path := "b" }, d) ∈ p.log gatheringWalk made p.entries := by
  have hrun : blockedFiles.IsSound ∧
      (gatheringWalk.run {} blockedFiles).status = .error (.file .isDirectory) ∧
      ∃ c made p, gatheringWalk.Plans {} blockedFiles c made p ∧ p.generator.dialect = {} ∧
        (p.entries.map p.fileName).Nodup ∧ made.IsDirAt p.out.toText ["gen"] ∧ made.home = [] ∧
        p.IsDisjoint gatheringWalk made ["gen"] ∧ { path := "b" } ∈ p.entries ∧
        { path := "b" } ∈
          (p.log gatheringWalk (made.put ["gen"] (.dir [])) [{ path := "b" }]).map Prod.fst ∧
        (p.log gatheringWalk made p.entries).map Prod.fst = [] := by
    decide +kernel
  obtain ⟨hfiles, hstatus, c, made, p, hplans, hdialect, hnames, hout, hhome, hdisjoint, hentry,
    halone, hlog⟩ := hrun
  have hempty := FileTree.emptiedAt_put (hplans.exists_out hfiles).1 hout.2
    (.inl (by rw [hhome]; decide))
  obtain ⟨⟨e, d⟩, hd, rfl⟩ := List.mem_map.mp halone
  refine ⟨hfiles, hstatus, c, made, p, hplans, hdialect, hnames, hout, hdisjoint, hentry,
    ⟨_, d, hempty, hd⟩, ?_⟩
  rw [List.map_eq_nil_iff.mp hlog]
  simp

end Plans

end Walk

end Registrar
