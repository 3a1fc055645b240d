import Mathlib.Tactic.SplitIfs
import Registrar.Proofs.Entry
import Registrar.Proofs.Except

/-!
# Where path texts lead

A look-up only passes through directories. A tree that keeps the directories of another leads a
path text to the same directory, and what is joined to the text is found in that directory.
-/

namespace Registrar

open Text.Utf8 (Bytes)

namespace FileTree

variable {tree tree' : FileTree} {text : String} {names : List String}

/-- The kind of what a list of names leads to. -/
def kindAt? (tree : FileTree) (names : List String) : Option Entry.Kind :=
  tree.root.kindAt? names

/-- A tree that a system can have: it is sound below its root, and there is a working directory. -/
structure IsSound (tree : FileTree) : Prop where
  root : tree.root.IsSound
  home : tree.kindAt? tree.home = some .dir

instance (tree : FileTree) : Decidable tree.IsSound :=
  decidable_of_iff (tree.root.IsSound ∧ tree.kindAt? tree.home = some .dir)
    ⟨fun h => ⟨h.1, h.2⟩, fun h => ⟨h.root, h.home⟩⟩

/-- A path text leads to the directory below a list of names. -/
def IsDirAt (tree : FileTree) (text : String) (names : List String) : Prop :=
  tree.locate text = .ok names ∧ tree.kindAt? names = some .dir

instance (tree : FileTree) (text : String) (names : List String) :
    Decidable (tree.IsDirAt text names) :=
  inferInstanceAs (Decidable (_ ∧ _))

/-- The root of a sound tree is a directory. -/
theorem IsSound.kindAt?_root (h : tree.IsSound) : tree.kindAt? [] = some .dir :=
  Entry.kindAt?_eq_dir_of_prefix List.nil_prefix h.home

/-- Every look-up in a sound tree starts in a directory. -/
theorem IsSound.kindAt?_start (h : tree.IsSound) (text : String) :
    tree.kindAt? (tree.start text) = some .dir := by
  rw [start]
  split
  · exact h.kindAt?_root
  · exact h.home

theorem start_of_slash (tree : FileTree) (rest : List Char) (h : text.toList = '/' :: rest) :
    tree.start text = [] := by
  rw [start, (startsWith_slash_iff text).mpr ⟨rest, h⟩, if_pos rfl]

theorem start_of_isPart (tree : FileTree) (h : IsPart text) : tree.start text = tree.home := by
  rw [start, h.startsWith_eq_false, if_neg (by decide)]

/-! ### Steps -/

/-- A step from a directory. -/
theorem step_of_dir (hdir : tree.kindAt? names = some .dir) (part : String) :
    tree.step names part =
      if part = "." then .ok names
      else if part = ".." then .ok names.dropLast
      else if nameLimit < part.utf8ByteSize then .error .nameTooLong
      else if tree.kindAt? (names ++ [part]) = none then .error .notFound
      else .ok (names ++ [part]) := by
  obtain ⟨children, hat⟩ := (Entry.kindAt?_eq_dir_iff _ _).mp hdir
  simp only [step, hat, kindAt?, Entry.kindAt?_eq_none_iff, Option.isNone_iff_eq_none]

/-- A step leaves a directory. -/
theorem kindAt?_of_step_eq_ok {part : String} {next : List String}
    (h : tree.step names part = .ok next) : tree.kindAt? names = some .dir := by
  rw [kindAt?, Entry.kindAt?_eq_dir_iff]
  rw [step] at h
  cases hat : tree.root.at? names with
  | none => simp [hat] at h
  | some e =>
    cases e with
    | file content => simp [hat] at h
    | dir children => exact ⟨children, rfl⟩

/-- A step leaves a directory and stays, climbs, or goes on to what is there. -/
theorem step_eq_ok_iff (tree : FileTree) (names : List String) (part : String)
    (next : List String) :
    tree.step names part = .ok next ↔ tree.kindAt? names = some .dir ∧
      (part = "." ∧ next = names ∨ part = ".." ∧ next = names.dropLast ∨
        (part ≠ "." ∧ part ≠ ".." ∧ part.utf8ByteSize ≤ nameLimit) ∧
          next = names ++ [part] ∧ tree.kindAt? next ≠ none) := by
  constructor
  · intro h
    have hdir := kindAt?_of_step_eq_ok h
    rw [step_of_dir hdir] at h
    refine ⟨hdir, ?_⟩
    split_ifs at h with hstay hclimb hlong hnone
    · exact .inl ⟨hstay, (Except.ok.inj h).symm⟩
    · exact .inr (.inl ⟨hclimb, (Except.ok.inj h).symm⟩)
    · cases h
      exact .inr (.inr ⟨⟨hstay, hclimb, Nat.le_of_not_lt hlong⟩, rfl, hnone⟩)
  · rintro ⟨hdir, ⟨rfl, rfl⟩ | ⟨rfl, rfl⟩ | ⟨⟨hstay, hclimb, hshort⟩, rfl, hsome⟩⟩
    · simp [step_of_dir hdir]
    · simp [step_of_dir hdir]
    · simp [step_of_dir hdir, hstay, hclimb, Nat.not_lt.mpr hshort, hsome]

/-- A step leads to something. -/
theorem kindAt?_of_step {part : String} {next : List String}
    (h : tree.step names part = .ok next) : tree.kindAt? next ≠ none := by
  obtain ⟨hdir, ⟨-, rfl⟩ | ⟨-, rfl⟩ | ⟨-, -, hnext⟩⟩ := (step_eq_ok_iff _ _ _ _).mp h
  · simp [hdir]
  · have hparent : tree.kindAt? names.dropLast = some .dir :=
      Entry.kindAt?_eq_dir_of_prefix (List.dropLast_prefix names) hdir
    simp [hparent]
  · exact hnext

/-- A way through a tree that leads to a directory leaves from one. -/
theorem kindAt?_of_foldlM_step {parts last : List String}
    (h : parts.foldlM tree.step names = .ok last) (hlast : tree.kindAt? last = some .dir) :
    tree.kindAt? names = some .dir := by
  cases parts with
  | nil =>
    cases h
    exact hlast
  | cons part rest =>
    obtain ⟨next, hstep, -⟩ := (Except.bind_eq_ok_iff _ _ _).mp h
    exact ((step_eq_ok_iff _ _ _ _).mp hstep).1

/-- A way through a tree that leaves from something leads to something. -/
theorem kindAt?_ne_none_of_foldlM_step {parts last : List String}
    (h : parts.foldlM tree.step names = .ok last) (hnames : tree.kindAt? names ≠ none) :
    tree.kindAt? last ≠ none := by
  induction parts generalizing names with
  | nil =>
    cases h
    exact hnames
  | cons part rest ih =>
    obtain ⟨next, hstep, hrest⟩ := (Except.bind_eq_ok_iff _ _ _).mp h
    exact ih hrest (kindAt?_of_step hstep)

/-- A path text leads to names when its parts do, and a slash at its end asks for a directory. -/
theorem locate_eq_ok_iff (tree : FileTree) (text : String) (names : List String) :
    tree.locate text = .ok names ↔ checkText text = .ok () ∧
      (pathParts text).foldlM tree.step (tree.start text) = .ok names ∧
        (text.endsWith "/" = true → tree.kindAt? names = some .dir) := by
  rw [locate, Except.bind_eq_ok_iff]
  simp only [Except.bind_eq_ok_iff]
  constructor
  · rintro ⟨⟨⟩, hcheck, last, hway, h⟩
    refine ⟨hcheck, ?_⟩
    split at h
    · obtain ⟨hdir, ⟨-, rfl⟩ | ⟨h, -⟩ | ⟨⟨h, -⟩, -⟩⟩ := (step_eq_ok_iff _ _ _ _).mp h
      · exact ⟨hway, fun _ => hdir⟩
      · exact absurd h (by decide)
      · exact absurd rfl h
    · rename_i hend
      cases h
      exact ⟨hway, fun h => absurd h hend⟩
  · rintro ⟨hcheck, hway, hend⟩
    refine ⟨(), hcheck, names, hway, ?_⟩
    split
    · rename_i hslash
      exact (step_eq_ok_iff _ _ _ _).mpr ⟨hend hslash, .inl ⟨rfl, rfl⟩⟩
    · rfl

/-- A text is looked up as a directory exactly when it leads to one. -/
theorem isDir_iff (tree : FileTree) (text : String) :
    tree.isDir text = true ↔ ∃ names, tree.IsDirAt text names := by
  simp only [isDir, entry, IsDirAt, kindAt?, Entry.kindAt?]
  cases hlocate : tree.locate text with
  | error e => simp
  | ok names =>
    rw [Except.ok_bind]
    cases hat : tree.root.at? names with
    | none => simp [hat]
    | some e => cases e <;> simp [hat, Entry.isDir, Entry.kind, pure, Except.pure]

/-- A text leads to one directory at most. -/
theorem IsDirAt.eq {names' : List String} (h : tree.IsDirAt text names)
    (h' : tree.IsDirAt text names') : names = names' := by
  have hok := h.1.symm.trans h'.1
  cases hok
  rfl

/-- A text that leads to a directory is not empty. -/
theorem IsDirAt.ne_empty (h : tree.IsDirAt text names) : text ≠ "" := by
  rintro rfl
  have hcheck := ((locate_eq_ok_iff _ _ _).mp h.1).1
  simp [checkText] at hcheck

/-- A text that holds the character zero leads nowhere. -/
theorem IsDirAt.notMem_zero (h : tree.IsDirAt text names) : '\x00' ∉ text.toList := by
  intro hzero
  have hcheck := ((locate_eq_ok_iff _ _ _).mp h.1).1
  simp [checkText, hzero] at hcheck

/-! ### Trees that keep directories -/

/-- A tree keeps the directories of another. -/
structure Keeps (tree' tree : FileTree) : Prop where
  home : tree'.home = tree.home
  dirs : ∀ names, tree.kindAt? names = some .dir → tree'.kindAt? names = some .dir

theorem Keeps.refl (tree : FileTree) : tree.Keeps tree :=
  ⟨rfl, fun _ h => h⟩

theorem Keeps.trans {tree'' : FileTree} (h' : tree''.Keeps tree') (h : tree'.Keeps tree) :
    tree''.Keeps tree :=
  ⟨h'.home.trans h.home, fun names hdir => h'.dirs names (h.dirs names hdir)⟩

/-- A way to a directory is kept. -/
theorem Keeps.foldlM_step (hkeeps : tree'.Keeps tree) {parts last : List String}
    (h : parts.foldlM tree.step names = .ok last) (hlast : tree.kindAt? last = some .dir) :
    parts.foldlM tree'.step names = .ok last := by
  induction parts generalizing names with
  | nil => exact h
  | cons part rest ih =>
    obtain ⟨next, hstep, hrest⟩ := (Except.bind_eq_ok_iff _ _ _).mp h
    have hnext := hkeeps.dirs next (kindAt?_of_foldlM_step hrest hlast)
    have hstep' : tree'.step names part = .ok next := by
      rw [step_eq_ok_iff] at hstep ⊢
      refine ⟨hkeeps.dirs names hstep.1, hstep.2.imp_right (Or.imp_right ?_)⟩
      rintro ⟨hpart, rfl, -⟩
      exact ⟨hpart, rfl, by simp [hnext]⟩
    exact (Except.bind_eq_ok_iff _ _ _).mpr ⟨next, hstep', ih hrest⟩

/-- A text that leads to a directory still leads there. -/
theorem Keeps.isDirAt (hkeeps : tree'.Keeps tree) (h : tree.IsDirAt text names) :
    tree'.IsDirAt text names := by
  obtain ⟨hlocate, hdir⟩ := h
  have hdir' := hkeeps.dirs names hdir
  obtain ⟨hcheck, hway, -⟩ := (locate_eq_ok_iff _ _ _).mp hlocate
  refine ⟨(locate_eq_ok_iff _ _ _).mpr ⟨hcheck, ?_, fun _ => hdir'⟩, hdir'⟩
  have hstart : tree'.start text = tree.start text := by
    rw [start, start, hkeeps.home]
  rw [hstart]
  exact hkeeps.foldlM_step hway hdir

/-! ### Texts that lead into a directory -/

/-- The way along the parts of a text that leads to a directory. -/
theorem IsDirAt.foldlM_step (h : tree.IsDirAt text names) :
    (pathParts text).foldlM tree.step (tree.start text) = .ok names :=
  ((locate_eq_ok_iff _ _ _).mp h.1).2.1

/-- A path text asks for a name in a directory, whether it is there or not. -/
structure AsksFor (tree : FileTree) (text : String) (names : List String) (name : String) :
    Prop where
  dir : tree.kindAt? names = some .dir
  stays : name ≠ "."
  climbs : name ≠ ".."
  way : ∃ front, pathParts text = front ++ [name] ∧
    front.foldlM tree.step (tree.start text) = .ok names

namespace AsksFor

variable {name : String}

/-- The last step of a look-up. -/
theorem step_eq (h : tree.AsksFor text names name) :
    tree.step names name =
      if nameLimit < name.utf8ByteSize then .error .nameTooLong
      else if tree.kindAt? (names ++ [name]) = none then .error .notFound
      else .ok (names ++ [name]) := by
  rw [step_of_dir h.dir, if_neg h.stays, if_neg h.climbs]

/-- A tree that keeps the directories is asked for the same. -/
theorem keep (hkeeps : tree'.Keeps tree) (h : tree.AsksFor text names name) :
    tree'.AsksFor text names name := by
  obtain ⟨front, hparts, hway⟩ := h.way
  have hstart : tree'.start text = tree.start text := by
    rw [start, start, hkeeps.home]
  refine { h with dir := hkeeps.dirs names h.dir, way := ⟨front, hparts, ?_⟩ }
  rw [hstart]
  exact hkeeps.foldlM_step hway h.dir

/-- A file that is asked for is read, unless the text or the name is too long. -/
theorem read_eq (h : tree.AsksFor text names name) (hslash : text.endsWith "/" = false)
    {content : Bytes} (hfile : tree.kindAt? (names ++ [name]) = some (.file content)) :
    tree.read text =
      (checkText text >>= fun _ =>
        if nameLimit < name.utf8ByteSize then .error .nameTooLong else .ok content) := by
  obtain ⟨front, hparts, hway⟩ := h.way
  have hat := (Entry.kindAt?_eq_file_iff _ _ _).mp hfile
  rw [read, entry, locate, hparts, List.foldlM_append, hway, hslash]
  cases checkText text with
  | error e => rfl
  | ok _ =>
    simp only [Except.ok_bind, List.foldlM_cons, List.foldlM_nil, h.step_eq]
    split
    · rfl
    · simp [hfile, hat, pure, Except.pure]

/-- Where something new that is asked for is put. -/
theorem locateNew_eq (h : tree.AsksFor text names name) :
    tree.locateNew text =
      (checkText text >>= fun _ =>
        if nameLimit < name.utf8ByteSize then .error .nameTooLong
        else .ok (names ++ [name])) := by
  obtain ⟨front, hparts, hway⟩ := h.way
  rw [locateNew, hparts, List.getLast?_concat, List.dropLast_concat, hway]
  cases checkText text with
  | error e => rfl
  | ok _ =>
    simp only [Except.ok_bind, h.step_eq]
    split_ifs <;> rfl

end AsksFor

/-- A text under which something new can be put asks for it. -/
theorem IsSound.asksFor_of_locateNew (htree : tree.IsSound) {next : List String}
    (h : tree.locateNew text = .ok next) (hnone : tree.kindAt? next = none) :
    ∃ names name, tree.AsksFor text names name ∧ next = names ++ [name] := by
  obtain ⟨⟨⟩, -, h⟩ := (Except.bind_eq_ok_iff _ _ _).mp h
  split at h
  · rename_i hlast
    have hway := ((locate_eq_ok_iff _ _ _).mp h).2.1
    rw [List.getLast?_eq_none_iff.mp hlast] at hway
    cases hway
    simp [htree.kindAt?_start] at hnone
  · rename_i name hlast
    obtain ⟨names, hway, h⟩ := (Except.bind_eq_ok_iff _ _ _).mp h
    obtain ⟨front, hparts⟩ := List.getLast?_eq_some_iff.mp hlast
    rw [hparts, List.dropLast_concat] at hway
    split at h
    · rename_i next' hstep
      cases h
      exact absurd hnone (kindAt?_of_step hstep)
    · rename_i hstep
      cases h
      have hdir : tree.kindAt? names = some .dir := by
        have hsome : tree.kindAt? names ≠ none :=
          kindAt?_ne_none_of_foldlM_step hway (by simp [htree.kindAt?_start])
        cases hkind : tree.kindAt? names with
        | none => exact absurd hkind hsome
        | some kind =>
          cases kind with
          | dir => rfl
          | file content =>
            rw [step, (Entry.kindAt?_eq_file_iff _ _ _).mp hkind] at hstep
            cases hstep
      rw [step_of_dir hdir] at hstep
      refine ⟨names, name, ⟨hdir, ?_, ?_, front, hparts, hway⟩, rfl⟩
      · rintro rfl
        cases hstep
      · rintro rfl
        cases hstep
    · cases h

/-- A name joined to the text of a directory asks for the name there. -/
theorem IsDirAt.asksFor_joinPath (h : tree.IsDirAt text names) {name : String}
    (hname : IsName name) : tree.AsksFor (joinPath text name) names name := by
  refine ⟨h.2, hname.2.1, hname.2.2.1, pathParts text, pathParts_joinPath text hname.1, ?_⟩
  rw [start, startsWith_joinPath text hname.1]
  exact h.foldlM_step

/-- A name below the path of a directory asks for the name there. -/
theorem IsDirAt.asksFor_join {p : Path} (hp : p.IsAnchored) (h : tree.IsDirAt p.toText names)
    {name : String} (hpart : IsPart name) (hstay : name ≠ ".") (hclimb : name ≠ "..") :
    tree.AsksFor (p.join (Path.ofText name)).toText names name := by
  have hway := h.foldlM_step
  rw [Path.ofText_of_isPart hpart hstay, Path.toText_join_part]
  split
  · rename_i hnil
    obtain ⟨anchor, parts⟩ := p
    subst hnil
    refine ⟨h.2, hstay, hclimb, [], ?_⟩
    rcases hp with rfl | rfl | rfl
    · have hpoint : (pathParts ".").foldlM tree.step (tree.start ".") = .ok names := hway
      rw [pathParts_of_isPart (by decide), start_of_isPart tree (by decide)] at hpoint
      have hhome : tree.step tree.home "." = .ok names := by
        simpa using hpoint
      rw [step_of_dir (kindAt?_of_step_eq_ok hhome), if_pos rfl] at hhome
      rw [String.empty_append, pathParts_of_isPart hpart, start_of_isPart tree hpart]
      exact ⟨rfl, hhome⟩
    · have hroot : (pathParts "/").foldlM tree.step (tree.start "/") = .ok names := hway
      rw [start_of_slash tree [] rfl] at hroot
      rw [start_of_slash tree name.toList (by simp)]
      have hparts : pathParts ("" ++ "/" ++ name) = [name] := by
        rw [pathParts_append_slash, pathParts_of_isPart hpart, pathParts_empty, List.nil_append]
      exact ⟨hparts, hroot⟩
    · have hroot : (pathParts "//").foldlM tree.step (tree.start "//") = .ok names := hway
      rw [start_of_slash tree ['/'] rfl] at hroot
      rw [start_of_slash tree ('/' :: name.toList) (by simp)]
      have hparts : pathParts ("/" ++ "/" ++ name) = [name] := by
        rw [pathParts_append_slash, pathParts_of_isPart hpart]
        rfl
      exact ⟨hparts, hroot⟩
  · rename_i hparts
    refine ⟨h.2, hstay, hclimb, pathParts p.toText, ?_, ?_⟩
    · rw [pathParts_append_slash, pathParts_of_isPart hpart]
    · rw [start, String.append_assoc, startsWith_append_of_ne_empty h.ne_empty]
      exact hway

/-- The names in a directory. -/
theorem IsDirAt.exists_list (htree : tree.IsSound) (h : tree.IsDirAt text names) :
    ∃ listed, tree.list text = .ok listed ∧ ∀ name isDir, (name, isDir) ∈ listed ↔
      ∃ kind, tree.kindAt? (names ++ [name]) = some kind ∧ isDir = decide (kind = .dir) := by
  obtain ⟨children, hat⟩ := (Entry.kindAt?_eq_dir_iff _ _).mp h.2
  have hsound := (htree.root.of_at? hat).2
  refine ⟨children.map fun c => (c.1, c.2.isDir), ?_, ?_⟩
  · simp only [list, entry, h.1, Except.ok_bind, hat]
    rfl
  · intro name isDir
    have hkind : tree.kindAt? (names ++ [name]) =
        ((Entry.dir children).child? name).map Entry.kind := by
      rw [kindAt?, Entry.kindAt?_append, hat, Option.bind_some, Entry.kindAt?_cons]
      cases (Entry.dir children).child? name <;> rfl
    have hisDir : ∀ e : Entry, e.isDir = decide (e.kind = .dir) := by
      rintro (_ | _) <;> rfl
    simp only [List.mem_map, Prod.mk.injEq, Prod.exists, hkind, Option.map_eq_some_iff,
      Entry.child?_eq_some_iff hsound]
    constructor
    · rintro ⟨name', e, hmem, rfl, rfl⟩
      exact ⟨e.kind, ⟨e, hmem, rfl⟩, hisDir e⟩
    · rintro ⟨_, ⟨e, hmem, rfl⟩, rfl⟩
      exact ⟨name, e, hmem, rfl, hisDir e⟩

/-! ### Texts that are no paths -/

/-- Looking up something never finds the character zero on the way. -/
theorem foldlM_step_ne_zeroInPath (tree : FileTree) (parts names : List String) :
    parts.foldlM tree.step names ≠ .error .zeroInPath := by
  induction parts generalizing names with
  | nil => rintro ⟨⟩
  | cons part rest ih =>
    rw [List.foldlM_cons, Ne, Except.bind_eq_error_iff, not_or]
    refine ⟨?_, fun ⟨next, _, hrest⟩ => ih next hrest⟩
    rw [step]
    split
    · rintro ⟨⟩
    · rintro ⟨⟩
    · split_ifs <;> rintro ⟨⟩

/-- Only a text that holds the character zero is refused for it. -/
theorem mem_zero_of_checkText (h : checkText text = .error .zeroInPath) : '\x00' ∈ text.toList := by
  by_contra hzero
  rw [checkText, if_neg (by simpa using hzero)] at h
  split_ifs at h <;> cases h

/-- Only a text that holds the character zero is not looked up for it. -/
theorem mem_zero_of_entry (h : tree.entry text = .error .zeroInPath) : '\x00' ∈ text.toList := by
  simp only [entry, locate, Except.bind_eq_error_iff] at h
  rcases h with (h | ⟨_, _, h | ⟨names, _, h⟩⟩) | ⟨names, _, h⟩
  · exact mem_zero_of_checkText h
  · exact absurd h (foldlM_step_ne_zeroInPath _ _ _)
  · split at h
    · have hway : (["."] : List String).foldlM tree.step names = .error .zeroInPath := by
        simpa using h
      exact absurd hway (foldlM_step_ne_zeroInPath _ _ _)
    · cases h
  · split at h <;> cases h

/-- A directory is refused for the character zero exactly if its text holds it. -/
theorem list_eq_error_zeroInPath_iff (tree : FileTree) (text : String) :
    tree.list text = .error .zeroInPath ↔ '\x00' ∈ text.toList := by
  constructor
  · intro h
    rcases (Except.bind_eq_error_iff _ _ _).mp h with h | ⟨e, -, h⟩
    · exact mem_zero_of_entry h
    · split at h <;> cases h
  · intro hzero
    simp [list, entry, locate, checkText, hzero]

/-- Only a file whose text holds the character zero is not read for it. -/
theorem mem_zero_of_read (h : tree.read text = .error .zeroInPath) : '\x00' ∈ text.toList := by
  rcases (Except.bind_eq_error_iff _ _ _).mp h with h | ⟨e, -, h⟩
  · exact mem_zero_of_entry h
  · split at h <;> cases h

/-- What a sound tree has below its root is led to by names. -/
theorem IsSound.isName_of_mem (htree : tree.IsSound) (h : tree.kindAt? names ≠ none) :
    ∀ name ∈ names, IsName name := by
  obtain ⟨e, hat⟩ := Option.ne_none_iff_exists'.mp
    (fun hnone => h ((Entry.kindAt?_eq_none_iff _ _).mpr hnone))
  exact (htree.root.of_at? hat).1

end FileTree

end Registrar
