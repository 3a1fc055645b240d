import Registrar.Command
import Registrar.Proofs.Exactness

/-!
# What a walk writes

The log of a walk lists the packages whose files it wrote with their documents, in order. The
files that a walk leaves are those it found with the documents of its log written to them.
-/

namespace Registrar

/-- What a run leaves for somebody who does not look at what it shows. -/
def Run.leaves (r : Run) : FileTree × Except Fault Nat :=
  (r.files, r.status)

@[simp]
theorem Run.leaves_behind (notices : List Notice) (r : Run) :
    (r.behind notices).leaves = r.leaves :=
  rfl

@[simp]
theorem Run.leaves_fst (r : Run) : r.leaves.1 = r.files :=
  rfl

/-- Runs that leave the same end with the same status. -/
theorem Run.status_eq_of_leaves_eq {r r' : Run} (h : r.leaves = r'.leaves) : r.status = r'.status :=
  congrArg Prod.snd h

/-- A run that fails leaves the files as they are. -/
theorem Run.files_fail (files : FileTree) (f : Fault) : (Run.fail files f).files = files := by
  rw [fail]
  split <;> rfl

/-- The status of a failure depends on whether it is reported. -/
theorem Run.status_fail (files : FileTree) (f : Fault) :
    (Run.fail files f).status = if f.message? = none then .error f else .ok 2 := by
  rw [fail]
  split <;> simp [*, stop]

namespace Walk

namespace Plan

variable (w : Walk) (p : Plan)

/-- The log of the next package and of the rest. -/
def logNext (files : FileTree) (e : PackageEntry)
    (logRest : FileTree → List (PackageEntry × Document)) : List (PackageEntry × Document) :=
  match p.outcome w files e with
  | .stopped _ => []
  | .passedOver _ | .skipped => logRest files
  | .wrote d files _ => (e, d) :: logRest files

/-- The packages whose files a walk writes, with their documents. -/
def log (files : FileTree) : List PackageEntry → List (PackageEntry × Document)
  | [] => []
  | e :: rest => p.logNext w files e fun files => log files rest

/-- Writes the documents of a log. -/
def replay (files : FileTree) (log : List (PackageEntry × Document)) : Except Fault FileTree :=
  log.foldlM (fun files entry => (p.writeDocument files entry.1 entry.2).map Prod.fst) files

/-- One package of a walk: the walk ends with its failure or goes on with the rest. -/
theorem leaves_writeAll_cons (failed : Bool) (files : FileTree) (e : PackageEntry)
    (rest : List PackageEntry) :
    (writeAll w p failed files (e :: rest)).leaves =
      match p.outcome w files e with
      | .stopped f => (Run.fail files f).leaves
      | .passedOver _ => (writeAll w p true files rest).leaves
      | .skipped => (writeAll w p failed files rest).leaves
      | .wrote _ files _ => (writeAll w p failed files rest).leaves := by
  rw [writeAll, writeNext, Run.leaves_behind]
  cases p.outcome w files e <;> rfl

variable {w p}

/-- A written file holds the document that the generator builds for its package. -/
theorem of_outcome_eq_wrote {files files' : FileTree} {e : PackageEntry} {d : Document}
    {r : Record} (h : p.outcome w files e = .wrote d files' r) :
    p.generator.build files w.root e.path e.directory e.initSuffix = .ok (some d) ∧
      p.writeDocument files e d = .ok (files', r) := by
  unfold outcome at h
  cases hbuild : p.generator.build files w.root e.path e.directory e.initSuffix with
  | error f =>
    rw [hbuild] at h
    dsimp only at h
    split at h <;> cases h
  | ok choice =>
    rw [hbuild] at h
    cases choice with
    | none => cases h
    | some d' =>
      dsimp only at h
      cases hwrite : p.writeDocument files e d' with
      | error f =>
        rw [hwrite] at h
        cases h
      | ok written =>
        rw [hwrite] at h
        cases h
        exact ⟨rfl, hwrite⟩

/-- A walk leaves the files that it found with the documents of its log written to them. -/
theorem replay_log (failed : Bool) (files : FileTree) (entries : List PackageEntry) :
    p.replay files (p.log w files entries) = .ok (writeAll w p failed files entries).files := by
  induction entries generalizing failed files with
  | nil => rfl
  | cons e rest ih =>
    rw [log, ← Run.leaves_fst, leaves_writeAll_cons]
    unfold logNext
    cases houtcome : p.outcome w files e with
    | stopped f => exact congrArg Except.ok (Run.files_fail files f).symm
    | passedOver text => exact ih true files
    | skipped => exact ih failed files
    | wrote d files' r =>
      obtain ⟨-, hwrite⟩ := of_outcome_eq_wrote houtcome
      rw [replay, List.foldlM_cons, hwrite]
      exact ih failed files'

/-- Walks with the same log leave the same files. -/
theorem files_eq_of_log_eq {w' : Walk} (failed : Bool) {files : FileTree}
    {entries : List PackageEntry} (h : p.log w files entries = p.log w' files entries) :
    (writeAll w p failed files entries).files = (writeAll w' p failed files entries).files := by
  have hreplay := replay_log (w := w) (p := p) failed files entries
  rw [h, replay_log] at hreplay
  exact (Except.ok.inj hreplay).symm

/-- Every logged document is what the generator builds for its package from the files that the
walk had come to. -/
theorem exists_build_of_mem_log {files : FileTree} {entries : List PackageEntry}
    {e : PackageEntry} {d : Document} (h : (e, d) ∈ p.log w files entries) :
    e ∈ entries ∧ ∃ files', p.generator.build files' w.root e.path e.directory e.initSuffix =
      .ok (some d) := by
  induction entries generalizing files with
  | nil => cases h
  | cons e' rest ih =>
    rw [log] at h
    unfold logNext at h
    cases houtcome : p.outcome w files e' with
    | stopped f =>
      rw [houtcome] at h
      cases h
    | passedOver text | skipped =>
      rw [houtcome] at h
      obtain ⟨he, hbuild⟩ := ih h
      exact ⟨List.mem_cons_of_mem _ he, hbuild⟩
    | wrote d' files' r =>
      rw [houtcome] at h
      rcases List.mem_cons.mp h with heq | h
      · cases heq
        exact ⟨List.mem_cons_self, files, (of_outcome_eq_wrote houtcome).1⟩
      · obtain ⟨he, hbuild⟩ := ih h
        exact ⟨List.mem_cons_of_mem _ he, hbuild⟩

/-- A plan whose files have different names is carried out from the first package to the last. -/
theorem run_of_collision?_eq_none {files : FileTree} (h : p.collision? [] p.entries = none) :
    p.run w files = writeAll w p false files p.entries := by
  rw [run, h]

end Plan

end Walk

end Registrar
