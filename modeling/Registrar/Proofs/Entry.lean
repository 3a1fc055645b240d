import Mathlib.Data.List.Infix
import Registrar.FileTree
import Registrar.Proofs.NameMap
import Registrar.Proofs.Path

/-!
# What stands where below an entry

Below an entry a list of names leads to a directory, to a file with its contents, or to nothing.
This is all that looking up, reading and listing can tell, and putting a file or an empty directory
below existing directories changes it in the expected place only.

A sound entry is one that a system can have: in each of its directories the names are names of files
and stand in order, each once.
-/

namespace Registrar

open Text.Utf8 (Bytes)

/-- A name that can stand in a directory: a part of a path that neither stays nor climbs. -/
def IsName (name : String) : Prop :=
  IsPart name ∧ name ≠ "." ∧ name ≠ ".." ∧ '\x00' ∉ name.toList

instance (name : String) : Decidable (IsName name) :=
  inferInstanceAs (Decidable (_ ∧ _ ∧ _ ∧ _))

/-- A look-up finds an inserted value under its name and what was there under the other names. -/
theorem NameMap.find?_insertEntry {α : Type} (name : String) (value : α) (l : List (String × α))
    (other : String) :
    (insertEntry name value l).find? (fun e => e.1 = other) =
      if other = name then some (name, value) else l.find? fun e => e.1 = other := by
  induction l with
  | nil =>
    by_cases h : name = other
    · subst h
      simp [insertEntry]
    · simp [insertEntry, h, Ne.symm h]
  | cons e rest ih =>
    unfold insertEntry
    by_cases h : other = name
    · subst h
      split
      · simp
      · split
        · simp
        · rename_i hne
          simp [ih, Ne.symm hne]
    · split
      · simp [Ne.symm h]
      · split
        · rename_i heq
          simp [Ne.symm h, ← heq]
        · simp [h, ih, List.find?_cons]

/-- A map has an inserted value under its name and what was there under the other names. -/
theorem NameMap.get?_insert {α : Type} (m : NameMap α) (name : String) (value : α)
    (other : String) :
    (m.insert name value).get? other = if other = name then some value else m.get? other := by
  rw [get?, insert, find?_insertEntry, get?]
  split <;> rfl

/-- What an entry is. -/
inductive Entry.Kind where
  | dir
  | file (content : Bytes)
  deriving DecidableEq, Repr

namespace Entry

/-- A file with a text. -/
def ofText (text : String) : Entry :=
  file (Text.Utf8.encode text)

/-- The kind of an entry. -/
def kind : Entry → Kind
  | dir _ => .dir
  | file content => .file content

/-- The kind of the entry below a list of names. -/
def kindAt? (e : Entry) (names : List String) : Option Kind :=
  (e.at? names).map kind

theorem child?_file (content : Bytes) (name : String) : (file content).child? name = none :=
  rfl

/-- The child of a name after an insertion. -/
theorem child?_insertEntry (name : String) (value : Entry) (children : List (String × Entry))
    (other : String) :
    (dir (NameMap.insertEntry name value children)).child? other =
      if other = name then some value else (dir children).child? other := by
  simp only [child?, NameMap.find?_insertEntry]
  split <;> rfl

theorem at?_cons (e : Entry) (name : String) (rest : List String) :
    e.at? (name :: rest) = (e.child? name).bind fun c => c.at? rest := by
  rw [at?]
  cases e.child? name <;> rfl

/-- A list of names is followed piece by piece. -/
theorem at?_append (e : Entry) (names rest : List String) :
    e.at? (names ++ rest) = (e.at? names).bind fun c => c.at? rest := by
  induction names generalizing e with
  | nil => rfl
  | cons name names ih =>
    rw [List.cons_append, at?_cons, at?_cons, Option.bind_assoc]
    cases e.child? name with
    | none => rfl
    | some c => exact ih c

theorem kindAt?_cons (e : Entry) (name : String) (rest : List String) :
    e.kindAt? (name :: rest) = (e.child? name).bind fun c => c.kindAt? rest := by
  rw [kindAt?, at?_cons, Option.map_bind]
  rfl

theorem kindAt?_append (e : Entry) (names rest : List String) :
    e.kindAt? (names ++ rest) = (e.at? names).bind fun c => c.kindAt? rest := by
  rw [kindAt?, at?_append, Option.map_bind]
  rfl

theorem kindAt?_eq_none_iff (e : Entry) (names : List String) :
    e.kindAt? names = none ↔ e.at? names = none := by
  rw [kindAt?, Option.map_eq_none_iff]

theorem kindAt?_eq_file_iff (e : Entry) (names : List String) (content : Bytes) :
    e.kindAt? names = some (.file content) ↔ e.at? names = some (file content) := by
  rw [kindAt?, Option.map_eq_some_iff]
  constructor
  · rintro ⟨_ | _, hat, hkind⟩
    · cases hkind
      exact hat
    · cases hkind
  · intro hat
    exact ⟨_, hat, rfl⟩

theorem kindAt?_eq_dir_iff (e : Entry) (names : List String) :
    e.kindAt? names = some .dir ↔ ∃ children, e.at? names = some (dir children) := by
  rw [kindAt?, Option.map_eq_some_iff]
  constructor
  · rintro ⟨_ | children, hat, hkind⟩
    · cases hkind
    · exact ⟨children, hat⟩
  · rintro ⟨children, hat⟩
    exact ⟨_, hat, rfl⟩

/-- What leads on to something is a directory. -/
theorem kindAt?_eq_dir_of_append {e : Entry} {names : List String} {name : String}
    {rest : List String} (h : e.kindAt? (names ++ name :: rest) ≠ none) :
    e.kindAt? names = some .dir := by
  rw [kindAt?_append] at h
  rw [kindAt?_eq_dir_iff]
  cases hat : e.at? names with
  | none => simp [hat] at h
  | some c =>
    cases c with
    | file content => simp [hat, kindAt?_cons, child?_file] at h
    | dir children => exact ⟨children, rfl⟩

/-- What leads to a directory is one. -/
theorem kindAt?_eq_dir_of_prefix {e : Entry} {names names' : List String} (h : names <+: names')
    (hdir : e.kindAt? names' = some .dir) : e.kindAt? names = some .dir := by
  obtain ⟨rest, rfl⟩ := h
  cases rest with
  | nil => simpa using hdir
  | cons name rest => exact kindAt?_eq_dir_of_append (by rw [hdir]; simp)

/-- Below a list of names that leads to no directory there is nothing. -/
theorem kindAt?_eq_none_of_prefix {e : Entry} {names names' : List String} (h : names <+: names')
    (hne : names ≠ names') (hdir : e.kindAt? names ≠ some .dir) : e.kindAt? names' = none := by
  obtain ⟨rest, rfl⟩ := h
  cases rest with
  | nil => exact absurd (List.append_nil names).symm hne
  | cons name rest => exact by_contra fun hsome => hdir (kindAt?_eq_dir_of_append hsome)

/-- An entry below which there is nothing: a file, or an empty directory. -/
def IsLeaf (e : Entry) : Prop :=
  ∀ name, e.child? name = none

theorem isLeaf_file (content : Bytes) : (file content).IsLeaf :=
  child?_file content

theorem isLeaf_empty : (dir []).IsLeaf :=
  fun _ => rfl

/-- A leaf put below directories stands in its place alone, and all other places keep what they
have. -/
theorem kindAt?_put {new : Entry} (hnew : new.IsLeaf) {e : Entry} {names : List String}
    (hdirs : ∀ front, front <+: names → front ≠ names → e.kindAt? front = some .dir)
    (other : List String) :
    (put new e names).kindAt? other =
      if other = names then some new.kind
      else if names <+: other then none
      else e.kindAt? other := by
  induction names generalizing e other with
  | nil =>
    cases other with
    | nil => simp [put, kindAt?, at?]
    | cons name rest => simp [put, kindAt?_cons, hnew name]
  | cons name names ih =>
    have hdir : e.kindAt? [] = some .dir := hdirs [] List.nil_prefix (by simp)
    cases e with
    | file content => cases hdir
    | dir children =>
      rw [put]
      cases other with
      | nil => simp [kindAt?, at?, kind]
      | cons first rest =>
        rw [kindAt?_cons, child?_insertEntry, kindAt?_cons]
        by_cases hfirst : first = name
        · subst hfirst
          have hnext : ∀ front, front <+: names → front ≠ names →
              (((dir children).child? first).getD (dir [])).kindAt? front = some .dir := by
            intro front hprefix hne
            have hfront := hdirs (first :: front) (List.cons_prefix_cons.mpr ⟨rfl, hprefix⟩)
              (by simpa using hne)
            rw [kindAt?_cons] at hfront
            cases hchild : (dir children).child? first with
            | none => simp [hchild] at hfront
            | some c => simpa [hchild] using hfront
          rw [if_pos rfl, Option.bind_some, ih hnext rest]
          simp only [List.cons.injEq, true_and, List.cons_prefix_cons]
          split
          · rfl
          · split
            · rfl
            · rename_i hne hprefix
              cases hchild : (dir children).child? first with
              | some c => rfl
              | none =>
                have hnames : names = [] := by
                  by_contra hnil
                  have hfront := hdirs [first] (by simp) (by simpa using Ne.symm hnil)
                  simp [kindAt?_cons, hchild] at hfront
                exact absurd (hnames ▸ List.nil_prefix) hprefix
        · simp [hfirst, List.cons_prefix_cons, Ne.symm hfirst]

/-! ### Sound entries -/

mutual

/-- In every directory of the entry the names are names of files and stand in order, each once. -/
def IsSound : Entry → Prop
  | file _ => True
  | dir children => (children.Pairwise fun a b => a.1 < b.1) ∧ AreSound children

/-- The children of a directory have names of files and are sound. -/
def AreSound : List (String × Entry) → Prop
  | [] => True
  | (name, e) :: rest => IsName name ∧ e.IsSound ∧ AreSound rest

end

mutual

/-- Soundness can be checked. -/
def decideIsSound : (e : Entry) → Decidable e.IsSound
  | file _ => inferInstanceAs (Decidable True)
  | dir children =>
    haveI := decideAreSound children
    inferInstanceAs (Decidable (_ ∧ _))

/-- Soundness of the children of a directory can be checked. -/
def decideAreSound : (children : List (String × Entry)) → Decidable (AreSound children)
  | [] => inferInstanceAs (Decidable True)
  | (_, e) :: rest =>
    haveI := decideIsSound e
    haveI := decideAreSound rest
    inferInstanceAs (Decidable (_ ∧ _ ∧ _))

end

instance (e : Entry) : Decidable e.IsSound := e.decideIsSound

theorem areSound_iff (children : List (String × Entry)) :
    AreSound children ↔ ∀ c ∈ children, IsName c.1 ∧ c.2.IsSound := by
  induction children with
  | nil => simp [AreSound]
  | cons c rest ih =>
    obtain ⟨name, e⟩ := c
    rw [AreSound, ih, List.forall_mem_cons, and_assoc]

theorem isSound_dir_iff (children : List (String × Entry)) :
    (dir children).IsSound ↔ (children.Pairwise fun a b => a.1 < b.1) ∧
      ∀ c ∈ children, IsName c.1 ∧ c.2.IsSound := by
  rw [IsSound, areSound_iff]

/-- In a sound directory a name has the child that stands beside it. -/
theorem child?_eq_some_iff {children : List (String × Entry)} (h : (dir children).IsSound)
    (name : String) (c : Entry) :
    (dir children).child? name = some c ↔ (name, c) ∈ children :=
  NameMap.get?_eq_some_iff ⟨children, ((isSound_dir_iff _).mp h).1⟩ name c

/-- A child of a sound entry is sound and has a name. -/
theorem IsSound.of_child? {e c : Entry} (h : e.IsSound) {name : String}
    (hchild : e.child? name = some c) : IsName name ∧ c.IsSound := by
  cases e with
  | file content => cases hchild
  | dir children =>
    exact ((isSound_dir_iff _).mp h).2 _ ((child?_eq_some_iff h name c).mp hchild)

/-- What stands below a sound entry is sound and led to by names. -/
theorem IsSound.of_at? {e c : Entry} (h : e.IsSound) {names : List String}
    (hat : e.at? names = some c) : (∀ name ∈ names, IsName name) ∧ c.IsSound := by
  induction names generalizing e with
  | nil =>
    cases hat
    exact ⟨by simp, h⟩
  | cons name rest ih =>
    rw [at?_cons] at hat
    obtain ⟨next, hchild, hat⟩ := Option.bind_eq_some_iff.mp hat
    obtain ⟨hname, hnext⟩ := h.of_child? hchild
    obtain ⟨hrest, hc⟩ := ih hnext hat
    exact ⟨List.forall_mem_cons.mpr ⟨hname, hrest⟩, hc⟩

/-- Putting a sound entry below names keeps an entry sound. -/
theorem IsSound.put {new e : Entry} (hnew : new.IsSound) (h : e.IsSound) {names : List String}
    (hnames : ∀ name ∈ names, IsName name) : (Entry.put new e names).IsSound := by
  induction names generalizing e with
  | nil => exact hnew
  | cons name rest ih =>
    obtain ⟨hname, hrest⟩ := List.forall_mem_cons.mp hnames
    cases e with
    | file content => exact h
    | dir children =>
      have hchild : (((dir children).child? name).getD (dir [])).IsSound := by
        cases hc : (dir children).child? name with
        | none => exact (isSound_dir_iff []).mpr (by simp)
        | some c => exact (h.of_child? hc).2
      obtain ⟨hordered, hchildren⟩ := (isSound_dir_iff _).mp h
      rw [Entry.put, isSound_dir_iff]
      refine ⟨NameMap.insertEntry_ordered _ _ hordered, fun c hc => ?_⟩
      rcases NameMap.mem_insertEntry hc with rfl | hc
      · exact ⟨hname, ih hchild hrest⟩
      · exact hchildren c hc

end Entry

end Registrar
