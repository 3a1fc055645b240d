import Registrar.Proofs.Isolation
import Registrar.Proofs.Reruns

/-!
# Packages of a walk that stops early

A walk that is not to keep going ends at the first package that fails. It has then written the
documents of the packages in front of it, with the contents that a walk which keeps going gives
them, and no file of a package behind it. This takes that each of these documents can be written: a
file that cannot be written ends a walk without an exit status, as it does when the walk is to keep
going.
-/

namespace Registrar

namespace Walk

namespace Plan

variable {w : Walk} {p : Plan} {files made found : FileTree} {out : List String} {e : PackageEntry}
  {d : Document}

/-- A package does not fail: it has a document or exports nothing. -/
def builds (w : Walk) (p : Plan) (files : FileTree) (e : PackageEntry) : Bool :=
  (p.generator.build files w.root e.path e.directory e.initSuffix).toOption.isSome

/-- The document of a package, none if it fails or exports nothing. -/
def document? (w : Walk) (p : Plan) (files : FileTree) (e : PackageEntry) : Option Document :=
  (p.generator.build files w.root e.path e.directory e.initSuffix).toOption.join

/-- The packages in front of the first one that fails. -/
def beforeFailure (w : Walk) (p : Plan) (files : FileTree) : List PackageEntry :=
  p.entries.takeWhile (p.builds w files)

/-- The packages that have a document, with their documents. -/
def documents (w : Walk) (p : Plan) (files : FileTree) (entries : List PackageEntry) :
    List (PackageEntry × Document) :=
  entries.filterMap fun e => (p.document? w files e).map fun d => (e, d)

/-- The documents of all these packages can be written. -/
def CanWrite (w : Walk) (p : Plan) (files : FileTree) (entries : List PackageEntry) : Prop :=
  ∀ e d, (e, d) ∈ p.documents w files entries → ∃ written, p.writeDocument files e d = .ok written

/-- Every package that fails does so with a message. -/
def ReportsFailures (w : Walk) (p : Plan) (files : FileTree) : Prop :=
  ∀ e ∈ p.entries, ∀ f,
    p.generator.build files w.root e.path e.directory e.initSuffix = .error f → f.message? ≠ none

instance (w : Walk) (p : Plan) (files : FileTree) : Decidable (p.ReportsFailures w files) :=
  decidable_of_iff (∀ e ∈ p.entries,
      (match p.generator.build files w.root e.path e.directory e.initSuffix with
      | .error f => f.isReported
      | .ok _ => true) = true) <| by
    refine forall₂_congr fun e _ => ?_
    cases p.generator.build files w.root e.path e.directory e.initSuffix with
    | error f => simp [Fault.isReported, Option.isSome_iff_ne_none]
    | ok choice => simp

theorem document?_eq_some_iff : p.document? w files e = some d ↔
    p.generator.build files w.root e.path e.directory e.initSuffix = .ok (some d) := by
  rw [document?, Option.join_eq_some_iff, Except.toOption_eq_some_iff]

/-- The packages with a document, with their documents. -/
theorem mem_documents_iff {entries : List PackageEntry} :
    (e, d) ∈ p.documents w files entries ↔ e ∈ entries ∧
      p.generator.build files w.root e.path e.directory e.initSuffix = .ok (some d) := by
  simp only [documents, List.mem_filterMap, Option.map_eq_some_iff, Prod.mk.injEq,
    document?_eq_some_iff]
  constructor
  · rintro ⟨_, he, _, hbuild, rfl, rfl⟩
    exact ⟨he, hbuild⟩
  · rintro ⟨he, hbuild⟩
    exact ⟨e, he, d, hbuild, rfl, rfl⟩

/-- A package that exports nothing has no document. -/
theorem documents_of_build_none
    (h : p.generator.build files w.root e.path e.directory e.initSuffix = .ok none) :
    p.documents w files [e] = [] := by
  have hnone : p.document? w files e = none := by
    rw [document?, h]
    rfl
  rw [documents, List.filterMap_cons_none (by rw [hnone]; rfl), List.filterMap_nil]

/-- A package that is built has its document. -/
theorem documents_of_build_some
    (h : p.generator.build files w.root e.path e.directory e.initSuffix = .ok (some d)) :
    p.documents w files [e] = [(e, d)] := by
  have hsome := document?_eq_some_iff.mpr h
  rw [documents, List.filterMap_cons_some (by rw [hsome]; rfl), List.filterMap_nil]

theorem builds_eq_true_iff : p.builds w files e = true ↔ ∃ choice,
    p.generator.build files w.root e.path e.directory e.initSuffix = .ok choice := by
  simp only [builds, Option.isSome_iff_exists, Except.toOption_eq_some_iff]

/-- A package that a walk gets past: it does not fail, and its document can be written. -/
def Passes (w : Walk) (p : Plan) (files : FileTree) (e : PackageEntry) : Prop :=
  ∃ choice, p.generator.build files w.root e.path e.directory e.initSuffix = .ok choice ∧
    ∀ d ∈ choice, ∃ written, p.writeDocument files e d = .ok written

/-- A walk gets past packages that do not fail if their documents can be written. -/
theorem forall_passes_iff {entries : List PackageEntry} :
    (∀ e ∈ entries, p.Passes w files e) ↔
      (∀ e ∈ entries, p.builds w files e = true) ∧ p.CanWrite w files entries := by
  simp only [builds_eq_true_iff, CanWrite, mem_documents_iff]
  constructor
  · intro h
    refine ⟨fun e he => ?_, fun e d ⟨he, hbuild⟩ => ?_⟩
    · obtain ⟨choice, hbuild, -⟩ := h e he
      exact ⟨choice, hbuild⟩
    · obtain ⟨choice, hchoice, hwrites⟩ := h e he
      have heq : choice = some d := Except.ok.inj (hchoice.symm.trans hbuild)
      exact hwrites d heq
  · rintro ⟨hbuilds, hwrites⟩ e he
    obtain ⟨choice, hbuild⟩ := hbuilds e he
    refine ⟨choice, hbuild, fun d hd => hwrites e d ⟨he, ?_⟩⟩
    rw [hbuild, Option.mem_def.mp hd]

/-- A walk gets past all packages of a list or comes to a first one that it does not get past. -/
theorem forall_passes_or_exists (w : Walk) (p : Plan) (files : FileTree)
    (entries : List PackageEntry) :
    (∀ e ∈ entries, p.Passes w files e) ∨ ∃ before e later, entries = before ++ e :: later ∧
      (∀ e ∈ before, p.Passes w files e) ∧ ¬ p.Passes w files e := by
  induction entries with
  | nil => exact .inl (by simp)
  | cons first rest ih =>
    by_cases hfirst : p.Passes w files first
    · rcases ih with hrest | ⟨before, e, later, rfl, hbefore, he⟩
      · exact .inl (List.forall_mem_cons.mpr ⟨hfirst, hrest⟩)
      · exact .inr ⟨first :: before, e, later, rfl, List.forall_mem_cons.mpr ⟨hfirst, hbefore⟩, he⟩
    · exact .inr ⟨[], first, rest, rfl, by simp, hfirst⟩

/-- Where a walk does not get past, the package fails or its document cannot be written. -/
theorem not_passes (h : ¬ p.Passes w files e) :
    (∃ f, p.generator.build files w.root e.path e.directory e.initSuffix = .error f) ∨
      ∃ d, p.generator.build files w.root e.path e.directory e.initSuffix = .ok (some d) ∧
        ¬ ∃ written, p.writeDocument files e d = .ok written := by
  cases hbuild : p.generator.build files w.root e.path e.directory e.initSuffix with
  | error f => exact .inl ⟨f, rfl⟩
  | ok choice =>
    cases choice with
    | none => exact absurd ⟨none, hbuild, by simp⟩ h
    | some d =>
      refine .inr ⟨d, rfl, fun hwritten => h ⟨some d, hbuild, ?_⟩⟩
      intro d' hd
      cases hd
      exact hwritten

/-- The first failure and what stands behind it. -/
def fromFailure (w : Walk) (p : Plan) (files : FileTree) : List PackageEntry :=
  p.entries.dropWhile (p.builds w files)

theorem beforeFailure_append_fromFailure (w : Walk) (p : Plan) (files : FileTree) :
    p.beforeFailure w files ++ p.fromFailure w files = p.entries :=
  List.takeWhile_append_dropWhile

/-- There is no failure exactly if all packages stand in front of the first one. -/
theorem beforeFailure_eq_entries_iff :
    p.beforeFailure w files = p.entries ↔ p.fromFailure w files = [] := by
  rw [← beforeFailure_append_fromFailure w p files, List.self_eq_append_right]

/-- The packages in front of the first failure do not fail. -/
theorem builds_of_mem_beforeFailure (h : e ∈ p.beforeFailure w files) :
    p.builds w files e = true :=
  List.mem_takeWhile_imp h

theorem mem_entries_of_mem_beforeFailure (h : e ∈ p.beforeFailure w files) : e ∈ p.entries :=
  (List.takeWhile_sublist _).subset h

/-- The package behind those in front of the first failure fails. -/
theorem exists_build_error_of_fromFailure {later : List PackageEntry}
    (h : p.fromFailure w files = e :: later) :
    ∃ f, p.generator.build files w.root e.path e.directory e.initSuffix = .error f := by
  have hfails := List.head?_dropWhile_not (p.builds w files) p.entries
  rw [← fromFailure, h] at hfails
  have hfails : p.builds w files e = false := hfails
  cases hbuild : p.generator.build files w.root e.path e.directory e.initSuffix with
  | error f => exact ⟨f, rfl⟩
  | ok choice =>
    rw [builds_eq_true_iff.mpr ⟨choice, hbuild⟩] at hfails
    cases hfails

section Apart

variable (hmade : made.IsSound) (hapart : p.IsApart w made out)
include hmade hapart

/-- A walk that is not to keep going ends with status two at a package that fails with a message. -/
theorem status_of_build_error (he : e ∈ p.entries) (hstops : w.keepGoing = false)
    (hreported : p.ReportsFailures w made)
    (hbuild : ∃ f, p.generator.build made w.root e.path e.directory e.initSuffix = .error f)
    (hfound : found.ChangedIn made out) (failed : Bool) (later : List PackageEntry) :
    p.log w found (e :: later) = [] ∧
      (writeAll w p failed found (e :: later)).status = .ok 2 := by
  obtain ⟨f, hbuild⟩ := hbuild
  cases hthere : p.generator.build found w.root e.path e.directory e.initSuffix with
  | ok choice =>
    cases hbuild.symm.trans ((build_eq_ok_iff_of_changedIn hmade hapart he hfound choice).mp hthere)
  | error f' =>
    have hformats : '\x00' ∉ (joinPath w.root e.directory).toList ∧
        p.generator.Formats made (joinPath w.root e.directory) := by
      by_contra hnot
      obtain ⟨f'', hfails, hmessage⟩ := (Generator.build_unreported_iff hmade).mpr
        (Classical.not_and_iff_not_or_not.mp hnot |>.imp_left Classical.not_not.mp)
      exact hreported e he f'' hfails hmessage
    have hmessage := message?_ne_none_of_changedIn hmade hapart he hfound hformats.1 hformats.2 hthere
    have houtcome : p.outcome w found e = .stopped f' :=
      outcome_eq_stopped_iff.mpr (.inl ⟨hthere, by simp [hstops]⟩)
    have hlog : p.log w found (e :: later) = [] := by
      rw [log]
      unfold logNext
      rw [houtcome]
    refine ⟨hlog, ?_⟩
    have hleaves := leaves_writeAll_cons w p failed found e later
    rw [houtcome] at hleaves
    rw [Run.status_eq_of_leaves_eq hleaves, Run.status_fail, if_neg hmessage]

variable (hp : p.out.IsAnchored) (hout : made.IsDirAt p.out.toText out)
include hp hout

/-- A walk ends without a status at a package whose document cannot be written. -/
theorem status_of_not_written (he : e ∈ p.entries)
    (hbuild : p.generator.build made w.root e.path e.directory e.initSuffix = .ok (some d))
    (hwrite : ¬ ∃ written, p.writeDocument made e d = .ok written)
    (hfound : found.ChangedIn made out) (failed : Bool) (later : List PackageEntry) :
    ∃ err, (writeAll w p failed found (e :: later)).status = .error (.file err) := by
  have hthere := (build_eq_ok_iff_of_changedIn hmade hapart he hfound _).mpr hbuild
  cases hfails : p.writeDocument found e d with
  | ok written =>
    exact absurd ((exists_writeDocument_iff_of_changedIn hp hout hfound).mp ⟨written, hfails⟩) hwrite
  | error f =>
    obtain ⟨err, rfl⟩ := exists_file_of_writeDocument hfails
    have houtcome := outcome_eq_stopped_iff.mpr (.inr ⟨d, hthere, hfails⟩)
    have hleaves := leaves_writeAll_cons w p failed found e later
    rw [houtcome] at hleaves
    have hstatus : (Run.fail found (.file err)).status = .error (.file err) := rfl
    exact ⟨err, (Run.status_eq_of_leaves_eq hleaves).trans hstatus⟩

/-- A walk gets past a package with its document, and goes on with files that have changed in the
output directory only. -/
theorem exists_next_of_passes (he : e ∈ p.entries) (hpass : p.Passes w made e)
    (hfound : found.ChangedIn made out) :
    ∃ next, next.ChangedIn made out ∧ ∀ failed rest,
      p.log w found (e :: rest) = p.documents w made [e] ++ p.log w next rest ∧
      (writeAll w p failed found (e :: rest)).leaves = (writeAll w p failed next rest).leaves := by
  obtain ⟨choice, hbuild, hwrites⟩ := hpass
  have hthere := (build_eq_ok_iff_of_changedIn hmade hapart he hfound choice).mpr hbuild
  cases choice with
  | none =>
    have houtcome := outcome_of_build_none hthere
    refine ⟨found, hfound, fun failed rest => ⟨?_, ?_⟩⟩
    · rw [documents_of_build_none hbuild, List.nil_append, log]
      unfold logNext
      rw [houtcome]
    · rw [leaves_writeAll_cons, houtcome]
  | some d =>
    obtain ⟨⟨next, r⟩, hwrite⟩ :=
      (exists_writeDocument_iff_of_changedIn hp hout hfound).mpr (hwrites d rfl)
    have houtcome := outcome_eq_wrote_iff.mpr ⟨hthere, hwrite⟩
    have hwritten := hasWritten_of_writeDocument hfound.sound hp (hfound.keeps.isDirAt hout) hwrite
    refine ⟨next, hwritten.1.changedIn.trans hfound, fun failed rest => ⟨?_, ?_⟩⟩
    · rw [documents_of_build_some hbuild, List.singleton_append, log]
      unfold logNext
      rw [houtcome]
    · rw [leaves_writeAll_cons, houtcome]

/-- A walk gets past packages one after the other, each with its document. -/
theorem exists_next_of_forall_passes {before : List PackageEntry}
    (hbefore : ∀ e ∈ before, e ∈ p.entries ∧ p.Passes w made e) (hfound : found.ChangedIn made out) :
    ∃ next, next.ChangedIn made out ∧ ∀ failed rest,
      p.log w found (before ++ rest) = p.documents w made before ++ p.log w next rest ∧
      (writeAll w p failed found (before ++ rest)).leaves =
        (writeAll w p failed next rest).leaves := by
  induction before generalizing found with
  | nil => exact ⟨found, hfound, fun _ _ => ⟨rfl, rfl⟩⟩
  | cons first before ih =>
    obtain ⟨⟨hfirst, hpass⟩, hbefore⟩ := List.forall_mem_cons.mp hbefore
    obtain ⟨next, hnext, hstep⟩ := exists_next_of_passes hmade hapart hp hout hfirst hpass hfound
    obtain ⟨last, hlast, hrun⟩ := ih hbefore hnext
    refine ⟨last, hlast, fun failed rest => ⟨?_, ?_⟩⟩
    · have hdocuments : p.documents w made (first :: before) =
          p.documents w made [first] ++ p.documents w made before :=
        List.filterMap_append (l := [first])
      rw [List.cons_append, (hstep failed _).1, (hrun failed rest).1, hdocuments, List.append_assoc]
    · rw [List.cons_append, (hstep failed _).2, (hrun failed rest).2]

/-- A walk writes the documents in front of the first failure, if they can be written, and goes on
with the packages behind them. -/
theorem exists_next_of_canWrite (hwrites : p.CanWrite w made (p.beforeFailure w made)) :
    ∃ next, next.ChangedIn made out ∧
      p.log w made p.entries =
        p.documents w made (p.beforeFailure w made) ++ p.log w next (p.fromFailure w made) ∧
      (writeAll w p false made p.entries).leaves =
        (writeAll w p false next (p.fromFailure w made)).leaves := by
  have hpass := forall_passes_iff.mpr ⟨fun _ => builds_of_mem_beforeFailure, hwrites⟩
  obtain ⟨next, hnext, hrun⟩ := exists_next_of_forall_passes hmade hapart hp hout
    (fun e he => ⟨mem_entries_of_mem_beforeFailure he, hpass e he⟩) (hmade.changedIn_refl out)
  have hrun := hrun false (p.fromFailure w made)
  rw [beforeFailure_append_fromFailure] at hrun
  exact ⟨next, hnext, hrun⟩

/-- A walk whose packages do not fail writes all their documents, if they can be written. -/
theorem run_of_beforeFailure_eq (hwrites : p.CanWrite w made (p.beforeFailure w made))
    (hall : p.beforeFailure w made = p.entries) :
    p.log w made p.entries = p.documents w made (p.beforeFailure w made) ∧
      (writeAll w p false made p.entries).status = .ok 0 := by
  obtain ⟨next, -, hlog, hleaves⟩ := exists_next_of_canWrite hmade hapart hp hout hwrites
  rw [beforeFailure_eq_entries_iff.mp hall] at hlog hleaves
  rw [hlog]
  exact ⟨List.append_nil _, Run.status_eq_of_leaves_eq hleaves⟩

section Stops

variable (hstops : w.keepGoing = false)
include hstops

/-- A walk that is not to keep going writes the documents in front of the first failure, if they can
be written, and ends there with status two. -/
theorem run_of_beforeFailure_ne (hreported : p.ReportsFailures w made)
    (hwrites : p.CanWrite w made (p.beforeFailure w made))
    (hfails : p.beforeFailure w made ≠ p.entries) :
    p.log w made p.entries = p.documents w made (p.beforeFailure w made) ∧
      (writeAll w p false made p.entries).status = .ok 2 := by
  obtain ⟨next, hnext, hlog, hleaves⟩ := exists_next_of_canWrite hmade hapart hp hout hwrites
  cases hfrom : p.fromFailure w made with
  | nil => exact absurd (beforeFailure_eq_entries_iff.mpr hfrom) hfails
  | cons e later =>
    have he : e ∈ p.entries := by
      rw [← beforeFailure_append_fromFailure w p made, hfrom]
      simp
    obtain ⟨hnil, hstatus⟩ := status_of_build_error hmade hapart he hstops hreported
      (exists_build_error_of_fromFailure hfrom) hnext false later
    rw [hfrom] at hlog hleaves
    rw [hlog, hnil]
    exact ⟨List.append_nil _, (Run.status_eq_of_leaves_eq hleaves).trans hstatus⟩

/-- A walk that is not to keep going writes the documents in front of the first failure and no
others, if they can be written. -/
theorem log_eq_documents (hreported : p.ReportsFailures w made)
    (hwrites : p.CanWrite w made (p.beforeFailure w made)) :
    p.log w made p.entries = p.documents w made (p.beforeFailure w made) := by
  by_cases hall : p.beforeFailure w made = p.entries
  · exact (run_of_beforeFailure_eq hmade hapart hp hout hwrites hall).1
  · exact (run_of_beforeFailure_ne hmade hapart hp hout hstops hreported hwrites hall).1

/-- A walk that is not to keep going ends by itself exactly if the documents in front of the first
failure can be written. -/
theorem exists_status_iff_canWrite (hreported : p.ReportsFailures w made) :
    (∃ status, (writeAll w p false made p.entries).status = .ok status) ↔
      p.CanWrite w made (p.beforeFailure w made) := by
  constructor
  · rintro ⟨status, hstatus⟩
    rcases forall_passes_or_exists w p made (p.beforeFailure w made) with hpass | hsplit
    · exact (forall_passes_iff.mp hpass).2
    · obtain ⟨before, e, later, hsplit, hpass, hnot⟩ := hsplit
      have hmem : ∀ e' ∈ before ++ e :: later, e' ∈ p.beforeFailure w made := by
        rw [hsplit]
        exact fun _ => id
      have he := hmem e (by simp)
      obtain ⟨choice, hbuild⟩ := builds_eq_true_iff.mp (builds_of_mem_beforeFailure he)
      obtain ⟨next, hnext, hrun⟩ := exists_next_of_forall_passes hmade hapart hp hout
        (fun e' he' => ⟨mem_entries_of_mem_beforeFailure (hmem e' (by simp [he'])), hpass e' he'⟩)
        (hmade.changedIn_refl out)
      have hleaves := (hrun false (e :: later ++ p.fromFailure w made)).2
      rw [← List.append_assoc, ← hsplit, beforeFailure_append_fromFailure] at hleaves
      rcases not_passes hnot with ⟨f, hfails⟩ | ⟨d, hdocument, hwrite⟩
      · cases hbuild.symm.trans hfails
      · obtain ⟨err, hstopped⟩ := status_of_not_written hmade hapart hp hout
          (mem_entries_of_mem_beforeFailure he) hdocument hwrite hnext false
          (later ++ p.fromFailure w made)
        rw [Run.status_eq_of_leaves_eq hleaves, List.cons_append, hstopped] at hstatus
        cases hstatus
  · intro hwrites
    by_cases hall : p.beforeFailure w made = p.entries
    · exact ⟨0, (run_of_beforeFailure_eq hmade hapart hp hout hwrites hall).2⟩
    · exact ⟨2, (run_of_beforeFailure_ne hmade hapart hp hout hstops hreported hwrites hall).2⟩

end Stops

end Apart

end Plan

namespace Plans

variable {host : Host} {w : Walk} {files made : FileTree} {c : Config} {p : Plan}
  {out : List String}

/-- The plan of a walk does not depend on whether it is to keep going. -/
theorem keepGoing (h : w.Plans host files c made p) :
    { w with keepGoing := true }.Plans host files c made p :=
  ⟨h.root, h.config, h.out, h.makes, h.plan⟩

/-- A walk that is not to keep going, whose files have different names, whose output directory is
none of its sources, and whose packages fail with a message if they fail. It ends by itself exactly
if all documents in front of the first failure can be written. Then it writes these documents and no
other file, each with the contents that the walk gives it which keeps going, and ends with status
two if there is a failure. Without a failure the two walks leave the same files and end with status
zero. The two runs have to read the dialect alike. -/
theorem stops_at_failure {attributes : Text.Template.Attributes} (hfiles : files.IsSound)
    (h : w.Plans host files c made p) (halike : c.dialect.ReadsAlike host.attributes attributes)
    (hstops : w.keepGoing = false) (hnames : (p.entries.map p.fileName).Nodup)
    (hout : made.IsDirAt p.out.toText out) (hapart : p.IsApart w made out)
    (hreported : p.ReportsFailures w made) :
    ((∃ status, (w.run host files).status = .ok status) ↔
      p.CanWrite w made (p.beforeFailure w made)) ∧
    (p.CanWrite w made (p.beforeFailure w made) →
      p.log w made p.entries = p.documents w made (p.beforeFailure w made) ∧
      (∀ e d, (e, d) ∈ p.documents w made (p.beforeFailure w made) →
        (w.run host files).files.read (p.target e) = .ok (p.fileBytes d) ∧
        ({ w with keepGoing := true }.run (host.withAttributes attributes) files).files.read
          (p.target e) = .ok (p.fileBytes d)) ∧
      (∀ names content,
        (∀ e d, (e, d) ∈ p.documents w made (p.beforeFailure w made) →
          names ≠ out ++ [p.fileName e]) →
        ((w.run host files).files.kindAt? names = some (.file content) ↔
          files.kindAt? names = some (.file content))) ∧
      (∀ e ∈ p.entries, e ∉ p.beforeFailure w made → ∀ content,
        ((w.run host files).files.kindAt? (out ++ [p.fileName e]) = some (.file content) ↔
          files.kindAt? (out ++ [p.fileName e]) = some (.file content))) ∧
      (p.beforeFailure w made ≠ p.entries → (w.run host files).status = .ok 2) ∧
      (p.beforeFailure w made = p.entries → (w.run host files).status = .ok 0 ∧
        ({ w with keepGoing := true }.run (host.withAttributes attributes) files).status = .ok 0 ∧
        ({ w with keepGoing := true }.run (host.withAttributes attributes) files).files =
          (w.run host files).files)) := by
  have hagain : { w with keepGoing := true }.run (host.withAttributes attributes) files =
      { w with keepGoing := true }.run host files := run_withAttributes h.config halike
  rw [hagain]
  obtain ⟨hmade, hextends, -⟩ := h.exists_out hfiles
  have hp := h.isAnchored_out
  have hholds := Plan.holds_writeAll (w := w) hp hnames hmade hout false
  have hkeeps := Plan.holds_writeAll (w := { w with keepGoing := true }) hp hnames hmade hout false
  rw [h.run_eq, h.keepGoing.run_eq, Plan.run_eq_writeAll _ made hnames,
    Plan.run_eq_writeAll _ made hnames,
    Plan.exists_status_iff_canWrite hmade hapart hp hout hstops hreported]
  refine ⟨Iff.rfl, fun hwrites => ?_⟩
  have hlog := Plan.log_eq_documents hmade hapart hp hout hstops hreported hwrites
  have helsewhere : ∀ names content, (∀ e d,
      (e, d) ∈ p.documents w made (p.beforeFailure w made) → names ≠ out ++ [p.fileName e]) →
      ((Plan.writeAll w p false made p.entries).files.kindAt? names = some (.file content) ↔
        files.kindAt? names = some (.file content)) := by
    intro names content hapart
    rw [hholds.elsewhere names fun e d hmem => hapart e d (hlog ▸ hmem), hextends.files]
  refine ⟨hlog, fun e d hmem => ⟨?_, ?_⟩, helsewhere, fun e he hbehind content => ?_,
    fun hfails => ?_, fun hall => ?_⟩
  · exact (hholds.written e d (hlog ▸ hmem)).2
  · obtain ⟨next, -, hgoes, -⟩ := Plan.exists_next_of_canWrite
      (w := { w with keepGoing := true }) hmade hapart hp hout hwrites
    exact (hkeeps.written e d (hgoes ▸ List.mem_append_left _ hmem)).2
  · apply helsewhere
    intro e' d hmem heq
    have he' : e' ∈ p.beforeFailure w made := (Plan.mem_documents_iff.mp hmem).1
    have hname : p.fileName e = p.fileName e' := by simpa using heq
    have hsame : e = e' := List.inj_on_of_nodup_map hnames he
      (Plan.mem_entries_of_mem_beforeFailure he') hname
    exact hbehind (hsame ▸ he')
  · exact (Plan.run_of_beforeFailure_ne hmade hapart hp hout hstops hreported hwrites hfails).2
  · obtain ⟨hgoes, hstatus⟩ := Plan.run_of_beforeFailure_eq
      (w := { w with keepGoing := true }) hmade hapart hp hout hwrites hall
    exact ⟨(Plan.run_of_beforeFailure_eq hmade hapart hp hout hwrites hall).2, hstatus,
      Plan.files_eq_of_log_eq false (hgoes.trans hlog.symm)⟩

/-- A package that exports nothing, one with a document and a broken one between two others. -/
def brokenFiles : FileTree :=
  { root := .dir [
      ("src", .dir [
        ("a", .dir [("x.go", .ofText "package a\n\nvar hidden = 0\n")]),
        ("b", .dir [("x.go", .ofText "package b\n\nvar B = 0\n")]),
        ("c", .dir [("x.go", .ofText "package\n")]),
        ("d", .dir [("x.go", .ofText "package d\n\nvar D = 0\n")])])]
    home := [] }

/-- A walk that is not to keep going. -/
def hastyWalk : Walk :=
  { root := "src", out := "gen" }

theorem stops_at_failure_brokenFiles :
    brokenFiles.IsSound ∧ (hastyWalk.run {} brokenFiles).status = .ok 2 ∧
      ∃ c made p, hastyWalk.Plans {} brokenFiles c made p ∧
        (p.documents hastyWalk made (p.beforeFailure hastyWalk made)).map Prod.fst =
          [{ path := "b" }] ∧
        p.log hastyWalk made p.entries =
          p.documents hastyWalk made (p.beforeFailure hastyWalk made) ∧
        ∀ content,
          (hastyWalk.run {} brokenFiles).files.kindAt? ["gen", p.fileName { path := "d" }] ≠
            some (.file content) := by
  have hrun : brokenFiles.IsSound ∧ (hastyWalk.run {} brokenFiles).status = .ok 2 ∧
      ∃ c made p, hastyWalk.Plans {} brokenFiles c made p ∧ (p.entries.map p.fileName).Nodup ∧
        p.generator.dialect = {} ∧ made.IsDirAt p.out.toText ["gen"] ∧
        p.IsApart hastyWalk made ["gen"] ∧
        p.ReportsFailures hastyWalk made ∧ { path := "d" } ∈ p.entries ∧
        { path := "d" } ∉ p.beforeFailure hastyWalk made ∧
        brokenFiles.kindAt? ["gen", p.fileName { path := "d" }] = none ∧
        (p.documents hastyWalk made (p.beforeFailure hastyWalk made)).map Prod.fst =
          [{ path := "b" }] := by
    decide +kernel
  obtain ⟨hfiles, hstatus, c, made, p, hplans, hnames, hdialect, hout, hapart, hreported, hentry,
    hbehind, hnone, hdocuments⟩ := hrun
  have halike := hplans.readsAlike_of_dialect hdialect Text.Template.namedAttributes
  obtain ⟨hends, hwrites⟩ := stops_at_failure hfiles hplans halike rfl hnames hout hapart hreported
  obtain ⟨hlog, -, -, hbehinds, -⟩ := hwrites (hends.mp ⟨2, hstatus⟩)
  refine ⟨hfiles, hstatus, c, made, p, hplans, hdocuments, hlog, fun content hwritten => ?_⟩
  have hfound := (hbehinds _ hentry hbehind content).mp hwritten
  rw [List.singleton_append, hnone] at hfound
  cases hfound

/-- A broken package behind one whose file has a directory in its place. -/
def blockedBrokenFiles : FileTree :=
  { root := .dir [
      ("gen", .dir [("a.go", .dir [])]),
      ("src", .dir [
        ("a", .dir [("x.go", .ofText "package a\n\nvar A = 0\n")]),
        ("b", .dir [("x.go", .ofText "package\n")])])]
    home := [] }

/-- A file that cannot be written ends a walk in front of the first package that fails, without an
exit status. -/
theorem not_stops_at_failure :
    blockedBrokenFiles.IsSound ∧
      (hastyWalk.run {} blockedBrokenFiles).status = .error (.file .isDirectory) ∧
      ∃ c made p, hastyWalk.Plans {} blockedBrokenFiles c made p ∧
        (p.entries.map p.fileName).Nodup ∧ made.IsDirAt p.out.toText ["gen"] ∧
        p.IsDisjoint hastyWalk made ["gen"] ∧ p.ReportsFailures hastyWalk made ∧
        p.beforeFailure hastyWalk made ≠ p.entries ∧
        (p.documents hastyWalk made (p.beforeFailure hastyWalk made)).map Prod.fst =
          [{ path := "a" }] ∧
        p.log hastyWalk made p.entries = [] := by
  decide +kernel

end Plans

end Walk

end Registrar
