import Registrar.Proofs.Lookup

/-!
# Trees after writing

Writing a file changes what stands in one place of a tree, and making directories leaves all files
as they are. Both keep a tree sound and keep its directories.
-/

namespace Registrar

open Text.Utf8 (Bytes)

/-- The parts of a path text hold no slash and no character that the text does not have. -/
theorem of_mem_pathParts {text part : String} (h : part ∈ pathParts text) :
    IsPart part ∧ ∀ c ∈ part.toList, c ∈ text.toList := by
  obtain ⟨hmem, hne⟩ := List.mem_filter.mp h
  obtain ⟨piece, hpiece, rfl⟩ := List.mem_map.mp hmem
  obtain ⟨hslash, hsub⟩ := Text.of_mem_splitAt hpiece
  rw [IsPart, String.toList_ofList]
  exact ⟨⟨by simpa using hne, hslash⟩, hsub⟩

namespace FileTree

variable {tree tree' : FileTree} {text : String} {names : List String} {name : String}

/-- A checked text does not hold the character zero. -/
theorem notMem_zero_of_checkText (h : checkText text = .ok ()) : '\x00' ∉ text.toList := by
  intro hzero
  simp [checkText, hzero] at h

/-- A part of a checked text that neither stays nor climbs is a name. -/
theorem isName_of_checkText (hcheck : checkText text = .ok ()) (hpart : name ∈ pathParts text)
    (hstay : name ≠ ".") (hclimb : name ≠ "..") : IsName name := by
  obtain ⟨hpart, hsub⟩ := of_mem_pathParts hpart
  exact ⟨hpart, hstay, hclimb, fun hzero => notMem_zero_of_checkText hcheck (hsub _ hzero)⟩

/-! ### Putting something into a directory -/

section Put

variable {new : Entry} (hnew : new.IsLeaf) (hdir : tree.kindAt? names = some .dir)
  (hold : tree.kindAt? (names ++ [name]) ≠ some .dir)
include hnew hdir hold

/-- A leaf that is put into a directory stands in its place alone. -/
theorem kindAt?_put (other : List String) :
    (tree.put (names ++ [name]) new).kindAt? other =
      if other = names ++ [name] then some new.kind else tree.kindAt? other := by
  have hdirs : ∀ front, front <+: names ++ [name] → front ≠ names ++ [name] →
      tree.root.kindAt? front = some .dir := by
    intro front hprefix hne
    rcases List.prefix_concat_iff.mp hprefix with heq | hprefix
    · exact absurd heq hne
    · exact Entry.kindAt?_eq_dir_of_prefix hprefix hdir
  rw [put, kindAt?, Entry.kindAt?_put hnew hdirs]
  split
  · rfl
  · rename_i hne
    split
    · rename_i hprefix
      exact (Entry.kindAt?_eq_none_of_prefix hprefix (Ne.symm hne) hold).symm
    · rfl

/-- A tree keeps its directories when a leaf is put into one of them. -/
theorem keeps_put : (tree.put (names ++ [name]) new).Keeps tree := by
  refine ⟨rfl, fun other hother => ?_⟩
  rw [kindAt?_put hnew hdir hold, if_neg]
  · exact hother
  · rintro rfl
    exact hold hother

/-- A sound tree stays sound when a sound leaf is put into one of its directories. -/
theorem IsSound.put (htree : tree.IsSound) (hsound : new.IsSound) (hname : IsName name) :
    (tree.put (names ++ [name]) new).IsSound := by
  have hnames : ∀ part ∈ names ++ [name], IsName part := by
    intro part hpart
    rcases List.mem_append.mp hpart with hpart | hpart
    · exact htree.isName_of_mem (by simp [hdir]) part hpart
    · exact List.mem_singleton.mp hpart ▸ hname
  refine ⟨hsound.put htree.root hnames, ?_⟩
  exact (keeps_put hnew hdir hold).dirs _ htree.home

end Put

/-! ### Writing files -/

/-- Whether a file can be written where a text asks for it, and what is changed by it. -/
theorem AsksFor.write_eq_ok_iff (h : tree.AsksFor text names name) (content : Bytes)
    (tree' : FileTree) :
    tree.write text content = .ok tree' ↔
      (checkText text = .ok () ∧ name.utf8ByteSize ≤ nameLimit ∧
        tree.kindAt? (names ++ [name]) ≠ some .dir) ∧
      tree' = tree.put (names ++ [name]) (.file content) := by
  rw [write, h.locateNew_eq]
  cases hcheck : checkText text with
  | error e => simp
  | ok _ =>
    by_cases hlong : nameLimit < name.utf8ByteSize
    · simp [hlong]
    · simp only [Except.ok_bind, hlong, if_false, Nat.le_of_not_lt hlong, true_and, ne_eq,
        kindAt?, Entry.kindAt?_eq_dir_iff]
      cases hat : tree.root.at? (names ++ [name]) with
      | none => simp [eq_comm, pure, Except.pure]
      | some e => cases e <;> simp [eq_comm, pure, Except.pure]

/-- Only the place of a file can have changed, and there the file is. -/
structure HasWritten (tree' tree : FileTree) (names : List String) (content : Bytes) : Prop where
  sound : tree'.IsSound
  keeps : tree'.Keeps tree
  notDir : tree.kindAt? names ≠ some .dir
  kindAt?_eq : ∀ other, tree'.kindAt? other =
    if other = names then some (.file content) else tree.kindAt? other

/-- What a file that was written changed. -/
theorem AsksFor.hasWritten (htree : tree.IsSound) (h : tree.AsksFor text names name)
    {content : Bytes} (hwrite : tree.write text content = .ok tree') :
    tree'.HasWritten tree (names ++ [name]) content := by
  obtain ⟨⟨hcheck, -, hold⟩, rfl⟩ := (h.write_eq_ok_iff content tree').mp hwrite
  obtain ⟨front, hparts, -⟩ := h.way
  have hname : IsName name :=
    isName_of_checkText hcheck (by simp [hparts]) h.stays h.climbs
  have hleaf := Entry.isLeaf_file content
  exact ⟨htree.put hleaf h.dir hold trivial hname, keeps_put hleaf h.dir hold, hold,
    kindAt?_put hleaf h.dir hold⟩

/-- A file that was written is read. -/
theorem AsksFor.read_of_write (htree : tree.IsSound) (h : tree.AsksFor text names name)
    (hslash : text.endsWith "/" = false) {content : Bytes} (hwrite : tree.write text content = .ok tree') :
    tree'.read text = .ok content := by
  have hwritten := h.hasWritten htree hwrite
  obtain ⟨⟨hcheck, hshort, -⟩, -⟩ := (h.write_eq_ok_iff content tree').mp hwrite
  have hfile : tree'.kindAt? (names ++ [name]) = some (.file content) := by
    rw [hwritten.kindAt?_eq, if_pos rfl]
  rw [(h.keep hwritten.keeps).read_eq hslash hfile, hcheck, Except.ok_bind,
    if_neg (Nat.not_lt.mpr hshort)]

/-- Nothing but files right in one directory can have changed: no directory came or went, and all
other files are as they were. -/
structure ChangedIn (tree' tree : FileTree) (out : List String) : Prop where
  sound : tree'.IsSound
  keeps : tree'.Keeps tree
  dirs : ∀ names, tree'.kindAt? names = some .dir → tree.kindAt? names = some .dir
  elsewhere : ∀ names, (∀ name, names ≠ out ++ [name]) → tree'.kindAt? names = tree.kindAt? names

theorem IsSound.changedIn_refl (h : tree.IsSound) (out : List String) : tree.ChangedIn tree out :=
  ⟨h, .refl tree, fun _ hdir => hdir, fun _ _ => rfl⟩

theorem ChangedIn.trans {tree'' : FileTree} {out : List String} (h' : tree''.ChangedIn tree' out)
    (h : tree'.ChangedIn tree out) : tree''.ChangedIn tree out :=
  ⟨h'.sound, h'.keeps.trans h.keeps, fun names hdir => h.dirs names (h'.dirs names hdir),
    fun names hnames => (h'.elsewhere names hnames).trans (h.elsewhere names hnames)⟩

/-- A file that was written changed the directory that it is in. -/
theorem HasWritten.changedIn {out : List String} {content : Bytes}
    (h : tree'.HasWritten tree (out ++ [name]) content) : tree'.ChangedIn tree out := by
  refine ⟨h.sound, h.keeps, fun other hdir => ?_, fun other hother => ?_⟩
  · rw [h.kindAt?_eq] at hdir
    split at hdir
    · cases hdir
    · exact hdir
  · rw [h.kindAt?_eq, if_neg (hother name)]

/-! ### Making directories -/

/-- A tree has the directories of another, and more, and the same files. -/
structure Extends (tree' tree : FileTree) : Prop where
  keeps : tree'.Keeps tree
  files : ∀ names content, tree'.kindAt? names = some (.file content) ↔
    tree.kindAt? names = some (.file content)

theorem Extends.refl (tree : FileTree) : tree.Extends tree :=
  ⟨.refl tree, fun _ _ => Iff.rfl⟩

theorem Extends.trans {tree'' : FileTree} (h' : tree''.Extends tree') (h : tree'.Extends tree) :
    tree''.Extends tree :=
  ⟨h'.keeps.trans h.keeps, fun names content => (h'.files names content).trans (h.files names content)⟩

/-- A directory that was made. -/
theorem IsSound.of_makeDir (htree : tree.IsSound) (h : tree.makeDir text = .ok tree') :
    tree'.IsSound ∧ tree'.Extends tree ∧ ∃ names, tree'.IsDirAt text names := by
  obtain ⟨next, hlocate, h⟩ := (Except.bind_eq_ok_iff _ _ _).mp h
  split at h
  · cases h
  rename_i hat
  cases h
  have hnone : tree.kindAt? next = none := (Entry.kindAt?_eq_none_iff _ _).mpr hat
  obtain ⟨names, name, hasks, rfl⟩ := htree.asksFor_of_locateNew hlocate hnone
  rw [hasks.locateNew_eq] at hlocate
  obtain ⟨⟨⟩, hcheck, hlocate⟩ := (Except.bind_eq_ok_iff _ _ _).mp hlocate
  have hshort : ¬ nameLimit < name.utf8ByteSize := by
    intro hlong
    simp [hlong] at hlocate
  obtain ⟨front, hparts, hway⟩ := hasks.way
  have hname : IsName name := isName_of_checkText hcheck (by simp [hparts]) hasks.stays hasks.climbs
  have hold : tree.kindAt? (names ++ [name]) ≠ some .dir := by simp [hnone]
  have hleaf := Entry.isLeaf_empty
  have hkeeps := keeps_put hleaf hasks.dir hold
  have hkind := kindAt?_put hleaf hasks.dir hold
  have hmade : (tree.put (names ++ [name]) (.dir [])).kindAt? (names ++ [name]) = some .dir := by
    rw [hkind, if_pos rfl]
    rfl
  refine ⟨htree.put hleaf hasks.dir hold (by decide) hname, ⟨hkeeps, ?_⟩, names ++ [name], ?_, hmade⟩
  · intro other content
    rw [hkind]
    split
    · rename_i heq
      simp [heq, hnone, Entry.kind]
    · rfl
  · rw [locate_eq_ok_iff]
    refine ⟨hcheck, ?_, fun _ => hmade⟩
    obtain ⟨front', hparts', hway'⟩ := (hasks.keep hkeeps).way
    have hstep := (hasks.keep hkeeps).step_eq
    rw [if_neg hshort, if_neg (by simp [hmade])] at hstep
    rw [hparts', List.foldlM_append, hway', Except.ok_bind, List.foldlM_cons, hstep]
    rfl

/-- A directory that is there or was made. -/
theorem IsSound.of_ensureDir (htree : tree.IsSound) (h : tree.ensureDir text = .ok tree') :
    tree'.IsSound ∧ tree'.Extends tree ∧ ∃ names, tree'.IsDirAt text names := by
  rw [ensureDir] at h
  split at h
  · split at h
    · rename_i hdir
      cases h
      exact ⟨htree, .refl tree, (isDir_iff _ _).mp hdir⟩
    · cases h
  · rename_i made hmake
    cases h
    exact htree.of_makeDir hmake

/-- The directory of the first parts of a path, and those above it. -/
theorem IsSound.of_makeDirsUpTo (htree : tree.IsSound) {p : Path} {count : Nat}
    (h : tree.makeDirsUpTo p count = .ok tree') :
    tree'.IsSound ∧ tree'.Extends tree ∧
      ∃ names, tree'.IsDirAt (Path.toText { p with parts := p.parts.take count }) names := by
  induction count generalizing tree' with
  | zero => exact htree.of_ensureDir h
  | succ count ih =>
    rw [makeDirsUpTo] at h
    split at h
    · rename_i made hmake
      cases h
      exact htree.of_makeDir hmake
    · obtain ⟨above, habove, hhere⟩ := (Except.bind_eq_ok_iff _ _ _).mp h
      obtain ⟨hsound, hextends, -⟩ := ih habove
      obtain ⟨hsound', hextends', hdir⟩ := hsound.of_ensureDir hhere
      exact ⟨hsound', hextends'.trans hextends, hdir⟩
    · split at h
      · rename_i hdir
        cases h
        exact ⟨htree, .refl tree, (isDir_iff _ _).mp hdir⟩
      · cases h

/-- Making a directory and those above it keeps a tree sound and all its files as they are. -/
theorem IsSound.of_makeDirs (htree : tree.IsSound) {p : Path} (h : tree.makeDirs p = .ok tree') :
    tree'.IsSound ∧ tree'.Extends tree ∧ ∃ names, tree'.IsDirAt p.toText names := by
  simpa using htree.of_makeDirsUpTo h

end FileTree

end Registrar
