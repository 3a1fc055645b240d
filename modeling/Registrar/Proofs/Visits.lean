import Registrar.Proofs.Walk

/-!
# The packages that a walk comes to

A walk comes to its packages one after the other, each with the files that it has left until then,
and it comes to no more when it stops. What a walk does can be read off its visits: its log lists
those that end in a written file, and its status depends on how the visits end.
-/

namespace Registrar

namespace Walk

namespace Outcome

/-- The files with which a walk goes on behind a package, none if it stops there. -/
def next? (files : FileTree) : Outcome → Option FileTree
  | stopped _ => none
  | passedOver _ | skipped => some files
  | wrote _ files _ => some files

/-- The package failed and was passed over. -/
def IsPassedOver (o : Outcome) : Prop :=
  ∃ text, o = passedOver text

end Outcome

namespace Plan

variable (w : Walk) (p : Plan)

/-- The packages that a walk comes to, each with the files that it finds. -/
def visits (files : FileTree) : List PackageEntry → List (PackageEntry × FileTree)
  | [] => []
  | e :: rest => (e, files) ::
      ((p.outcome w files e).next? files).elim [] fun files => visits files rest

variable {w p} {files found : FileTree} {entries rest : List PackageEntry} {e : PackageEntry}
  {d : Document} {f : Fault} {failed : Bool}

theorem visits_cons_of_stopped (h : p.outcome w files e = .stopped f) :
    p.visits w files (e :: rest) = [(e, files)] := by
  rw [visits, h]
  rfl

theorem visits_cons_of_next? {files' : FileTree}
    (h : (p.outcome w files e).next? files = some files') :
    p.visits w files (e :: rest) = (e, files) :: p.visits w files' rest := by
  rw [visits, h]
  rfl

/-! ### How a visit ends -/

/-- A visit ends in a written file when the package has a document that can be written. -/
theorem outcome_eq_wrote_iff {files' : FileTree} {r : Record} :
    p.outcome w files e = .wrote d files' r ↔
      p.generator.build files w.root e.path e.directory e.initSuffix = .ok (some d) ∧
        p.writeDocument files e d = .ok (files', r) := by
  refine ⟨of_outcome_eq_wrote, fun ⟨hbuild, hwrite⟩ => ?_⟩
  unfold outcome
  rw [hbuild]
  dsimp only
  rw [hwrite]

/-- A package is skipped when it exports nothing. -/
theorem outcome_of_build_none
    (h : p.generator.build files w.root e.path e.directory e.initSuffix = .ok none) :
    p.outcome w files e = .skipped := by
  unfold outcome
  rw [h]

/-- A package is passed over when the walk is to keep going and the package fails with a message. -/
theorem outcome_isPassedOver_iff :
    (p.outcome w files e).IsPassedOver ↔ w.keepGoing = true ∧
      ∃ f, p.generator.build files w.root e.path e.directory e.initSuffix = .error f ∧
        f.message? ≠ none := by
  unfold outcome
  cases p.generator.build files w.root e.path e.directory e.initSuffix with
  | error f =>
    cases w.keepGoing <;> cases hmessage : f.message? <;> simp [Outcome.IsPassedOver, hmessage]
  | ok choice =>
    cases choice with
    | none => simp [Outcome.IsPassedOver]
    | some d =>
      dsimp only
      cases p.writeDocument files e d with
      | error f => simp [Outcome.IsPassedOver]
      | ok written => simp [Outcome.IsPassedOver]

/-- A walk is stopped by a failure of a package that it is not to pass over, or when a document
cannot be written. -/
theorem outcome_eq_stopped_iff :
    p.outcome w files e = .stopped f ↔
      (p.generator.build files w.root e.path e.directory e.initSuffix = .error f ∧
        (w.keepGoing = true → f.message? = none)) ∨
      ∃ d, p.generator.build files w.root e.path e.directory e.initSuffix = .ok (some d) ∧
        p.writeDocument files e d = .error f := by
  unfold outcome
  cases p.generator.build files w.root e.path e.directory e.initSuffix with
  | error f' =>
    simp only [Except.error.injEq, reduceCtorEq, false_and, exists_false, or_false]
    constructor
    · intro h
      split at h
      · cases h
      · rename_i hpass
        cases h
        exact ⟨rfl, fun hkeep => Option.eq_none_iff_forall_ne_some.mpr fun text => hpass text hkeep⟩
    · rintro ⟨rfl, hreport⟩
      split
      · rename_i hkeep hmessage
        simp [hreport hkeep] at hmessage
      · rfl
  | ok choice =>
    cases choice with
    | none => simp
    | some d =>
      cases hwrite : p.writeDocument files e d with
      | error f' => simp [hwrite]
      | ok written => simp [hwrite]

/-- A package either stops the walk or leaves files to go on with. -/
theorem stopped_or_next? (w : Walk) (p : Plan) (files : FileTree) (e : PackageEntry) :
    (∃ f, p.outcome w files e = .stopped f) ∨
      ∃ files', (p.outcome w files e).next? files = some files' := by
  cases p.outcome w files e with
  | stopped f => exact .inl ⟨f, rfl⟩
  | passedOver text | skipped => exact .inr ⟨files, rfl⟩
  | wrote d files' r => exact .inr ⟨files', rfl⟩

/-- A walk comes to its own packages only. -/
theorem mem_of_mem_visits (h : (e, found) ∈ p.visits w files entries) : e ∈ entries := by
  induction entries generalizing files with
  | nil => cases h
  | cons first rest ih =>
    obtain ⟨f, hstop⟩ | ⟨files', hnext⟩ := stopped_or_next? w p files first
    · rw [visits_cons_of_stopped hstop] at h
      cases List.mem_singleton.mp h
      exact List.mem_cons_self
    · rw [visits_cons_of_next? hnext] at h
      rcases List.mem_cons.mp h with h | h
      · cases h
        exact List.mem_cons_self
      · exact List.mem_cons_of_mem _ (ih h)

/-- The log of a package and of the rest. -/
theorem mem_log_cons_iff {first : PackageEntry} : (e, d) ∈ p.log w files (first :: rest) ↔
    (e = first ∧ ∃ files' r, p.outcome w files first = .wrote d files' r) ∨
      ∃ files', (p.outcome w files first).next? files = some files' ∧
        (e, d) ∈ p.log w files' rest := by
  rw [log]
  unfold logNext
  cases houtcome : p.outcome w files first with
  | stopped f => simp [Outcome.next?]
  | passedOver text | skipped => simp [Outcome.next?]
  | wrote d' files' r =>
    simp only [List.mem_cons, Prod.mk.injEq, Outcome.next?, Option.some.injEq, exists_eq_left',
      Outcome.wrote.injEq, exists_and_left, eq_comm (a := d)]
    simp

/-- The log lists the visits that end in a written file. -/
theorem mem_log_iff : (e, d) ∈ p.log w files entries ↔
    ∃ found, (e, found) ∈ p.visits w files entries ∧
      ∃ files' r, p.outcome w found e = .wrote d files' r := by
  induction entries generalizing files with
  | nil => simp [log, visits]
  | cons first rest ih =>
    rw [mem_log_cons_iff]
    obtain ⟨f, hstop⟩ | ⟨files', hnext⟩ := stopped_or_next? w p files first
    · rw [visits_cons_of_stopped hstop, hstop]
      simp only [reduceCtorEq, exists_false, and_false, Outcome.next?, false_and, or_false,
        false_iff, List.mem_singleton, Prod.mk.injEq]
      rintro ⟨found, ⟨rfl, rfl⟩, files', r, hwrote⟩
      cases hstop.symm.trans hwrote
    · rw [visits_cons_of_next? hnext, hnext]
      simp only [Option.some.injEq, exists_eq_left', ih, List.mem_cons, Prod.mk.injEq]
      constructor
      · rintro (⟨rfl, hwrote⟩ | ⟨found, hvisit, hwrote⟩)
        · exact ⟨files, .inl ⟨rfl, rfl⟩, hwrote⟩
        · exact ⟨found, .inr hvisit, hwrote⟩
      · rintro ⟨found, ⟨rfl, rfl⟩ | hvisit, hwrote⟩
        · exact .inl ⟨rfl, hwrote⟩
        · exact .inr ⟨found, hvisit, hwrote⟩

/-! ### How a walk ends -/

/-- A walk goes on behind a package that does not stop it, and remembers that it failed. -/
theorem leaves_writeAll_cons_of_next? (failed : Bool) (rest : List PackageEntry)
    {files' : FileTree} (h : (p.outcome w files e).next? files = some files') :
    ∃ failed', (failed' = true ↔ failed = true ∨ (p.outcome w files e).IsPassedOver) ∧
      (writeAll w p failed files (e :: rest)).leaves = (writeAll w p failed' files' rest).leaves := by
  rw [leaves_writeAll_cons]
  cases houtcome : p.outcome w files e with
  | stopped f => simp [houtcome, Outcome.next?] at h
  | passedOver text =>
    obtain rfl : files = files' := by simpa [houtcome, Outcome.next?] using h
    exact ⟨true, by simp [Outcome.IsPassedOver], rfl⟩
  | skipped =>
    obtain rfl : files = files' := by simpa [houtcome, Outcome.next?] using h
    exact ⟨failed, by simp [Outcome.IsPassedOver], rfl⟩
  | wrote d files'' r =>
    obtain rfl : files'' = files' := by simpa [houtcome, Outcome.next?] using h
    exact ⟨failed, by simp [Outcome.IsPassedOver], rfl⟩

/-- A walk that is stopped ends as the package says that stops it. -/
theorem status_writeAll_of_stopped (hvisit : (e, found) ∈ p.visits w files entries)
    (hstop : p.outcome w found e = .stopped f) :
    (writeAll w p failed files entries).status = (Run.fail found f).status := by
  induction entries generalizing failed files with
  | nil => cases hvisit
  | cons first rest ih =>
    obtain ⟨f', hstop'⟩ | ⟨files', hnext⟩ := stopped_or_next? w p files first
    · rw [visits_cons_of_stopped hstop'] at hvisit
      cases List.mem_singleton.mp hvisit
      cases hstop.symm.trans hstop'
      have hleaves := leaves_writeAll_cons w p failed found e rest
      rw [hstop] at hleaves
      exact Run.status_eq_of_leaves_eq hleaves
    · rw [visits_cons_of_next? hnext] at hvisit
      rcases List.mem_cons.mp hvisit with hvisit | hvisit
      · cases hvisit
        simp [hstop, Outcome.next?] at hnext
      · obtain ⟨failed', -, hleaves⟩ := leaves_writeAll_cons_of_next? failed rest hnext
        exact (Run.status_eq_of_leaves_eq hleaves).trans (ih hvisit)

/-- A walk that nothing stops comes to all its packages, and its status says whether one of them
failed. -/
theorem status_writeAll_of_not_stopped (failed : Bool)
    (h : ∀ e found, (e, found) ∈ p.visits w files entries → ∀ f, p.outcome w found e ≠ .stopped f) :
    (p.visits w files entries).map Prod.fst = entries ∧
      ((failed = true ∨ ∃ e found, (e, found) ∈ p.visits w files entries ∧
          (p.outcome w found e).IsPassedOver) →
        (writeAll w p failed files entries).status = .ok 2) ∧
      (¬ (failed = true ∨ ∃ e found, (e, found) ∈ p.visits w files entries ∧
          (p.outcome w found e).IsPassedOver) →
        (writeAll w p failed files entries).status = .ok 0) := by
  induction entries generalizing failed files with
  | nil => simp [visits, writeAll]
  | cons first rest ih =>
    obtain ⟨f, hstop⟩ | ⟨files', hnext⟩ := stopped_or_next? w p files first
    · exact absurd hstop (h first files (by rw [visits]; exact List.mem_cons_self) f)
    · obtain ⟨failed', hfailed', hleaves⟩ := leaves_writeAll_cons_of_next? failed rest hnext
      have hstatus : (writeAll w p failed files (first :: rest)).status =
          (writeAll w p failed' files' rest).status := Run.status_eq_of_leaves_eq hleaves
      rw [visits_cons_of_next? hnext] at h ⊢
      obtain ⟨hall, hfails, hfine⟩ := ih failed'
        fun e found hvisit => h e found (List.mem_cons_of_mem _ hvisit)
      have hiff : (failed = true ∨ ∃ e found, (e, found) ∈ (first, files) :: p.visits w files' rest ∧
          (p.outcome w found e).IsPassedOver) ↔
          (failed' = true ∨ ∃ e found, (e, found) ∈ p.visits w files' rest ∧
            (p.outcome w found e).IsPassedOver) := by
        simp only [hfailed', List.mem_cons, Prod.mk.injEq, or_and_right, exists_or, and_assoc,
          exists_and_left, exists_eq_left, or_assoc]
      rw [hiff, hstatus, List.map_cons, hall]
      exact ⟨rfl, hfails, hfine⟩

/-- A walk that nothing stops comes to each of its packages. -/
theorem exists_mem_visits
    (h : ∀ e found, (e, found) ∈ p.visits w files entries → ∀ f, p.outcome w found e ≠ .stopped f)
    (he : e ∈ entries) : ∃ found, (e, found) ∈ p.visits w files entries := by
  rw [← (status_writeAll_of_not_stopped false h).1] at he
  obtain ⟨⟨_, found⟩, hvisit, rfl⟩ := List.mem_map.mp he
  exact ⟨found, hvisit⟩

end Plan

end Walk

end Registrar
