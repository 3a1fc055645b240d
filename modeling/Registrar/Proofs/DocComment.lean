import Registrar.Go.Directory
import Registrar.Go.Reader
import Registrar.Proofs.DeprecationMarks
import Registrar.Proofs.DocPlaces
import Registrar.Proofs.Except

/-!
# The doc comments of a file

A declaration or a spec takes its doc comment from comments right above it, all of which start
their lines, so that no comment is taken that trails code, stands beside the node or is cut off by
a blank line. Where the longest group above a node has a comment that does not start its line, that
comment and those in front of it are lost.
-/

namespace Registrar.Go

open Text.Utf8 (Bytes encode)

/-- The text of comments that follow each other; there is none without a comment. -/
def docText (source : Bytes) (run : List Node) : Option String :=
  match run with
  | [] => none
  | run => some (String.ofList (commentText (run.map fun c => c.text source)))

variable {source : Bytes} {n : Node} {before run : List Node}

theorem docText_of_ne_nil (h : run ≠ []) :
    docText source run =
      some (String.ofList (commentText (run.map fun c => c.text source))) := by
  obtain ⟨c, rest, rfl⟩ := List.exists_cons_of_ne_nil h
  rfl

/-- The doc comment of a node is the text of the comments that are read above it. -/
theorem docAbove_eq_docText (source : Bytes) (n : Node) (earlier : List Node) :
    docAbove source n earlier =
      docText source (docGroup source (n.startRow source) earlier).reverse := by
  rw [docAbove.eq_def]
  split
  · rename_i hgroup
    rw [hgroup]
    rfl
  · rename_i hgroup
    rw [docText_of_ne_nil (List.reverse_ne_nil_iff.mpr hgroup)]

/-- The text of some comments is deprecated exactly if one that is no directive is marked. -/
theorem isDeprecated_docText_iff (source : Bytes) (run : List Node) :
    isDeprecated (docText source run) = true ↔
      ∃ c ∈ run, ¬ IsDirectiveComment (c.text source) ∧ HasMark (proseOf (c.text source)) := by
  by_cases hrun : run = []
  · subst hrun
    simp [docText, isDeprecated]
  · rw [docText_of_ne_nil hrun, isDeprecated_eq_true_iff, isMarked_commentText_iff]
    simp only [List.mem_map, exists_exists_and_eq_and]

/-! ## No comment is taken from elsewhere -/

/-- Comments that may be read as the doc comment of a node: they are the last named nodes in front
of it and a group above it, and each of them starts its line and ends above the node, with no row
between that is not covered by one of them. -/
structure IsDoc (source : Bytes) (n : Node) (before run : List Node) : Prop where
  suffix : run <:+ before
  isGroup : IsGroup source (n.startRow source) run
  startsLine : ∀ c ∈ run, StartsLine source c
  above : ∀ c ∈ run, c.endRow source < n.startRow source
  covered : ∀ c ∈ run, ∀ row, c.endRow source < row → row < n.startRow source →
    ∃ d ∈ run, d.startRow source ≤ row ∧ row ≤ d.endRow source

/-- All comments that may be read as the doc comment of a node. -/
structure IsWholeDoc (source : Bytes) (n : Node) (before run : List Node) : Prop
    extends IsDoc source n before run where
  maximal {other : List Node} : IsDoc source n before other → other <:+ run

/-- Behind ordered siblings the comments that may be read as the doc comment of a node are those at
the end of what is read. -/
theorem isDoc_iff_suffix (horder : InOrder before) (hne : run ≠ []) :
    IsDoc source n before run ↔
      run <:+ (docGroup source (n.startRow source) before.reverse).reverse := by
  rw [suffix_docGroup_iff hne]
  constructor
  · intro h
    exact ⟨h.suffix, h.isGroup, h.startsLine⟩
  · rintro ⟨hsuffix, hgroup, hlines⟩
    have hrun : InOrder run := horder.sublist hsuffix.sublist
    exact ⟨hsuffix, hgroup, hlines, fun c hc => hgroup.endRow_lt hrun hc,
      fun c hc row hend hrow => hgroup.exists_covers hc hend hrow⟩

theorem docAbove_eq_some_iff (horder : InOrder before) {doc : String} :
    docAbove source n before.reverse = some doc ↔
      ∃ run, IsWholeDoc source n before run ∧ docText source run = some doc := by
  rw [docAbove_eq_docText]
  constructor
  · intro h
    have hne : (docGroup source (n.startRow source) before.reverse).reverse ≠ [] := by
      intro hnil
      rw [hnil] at h
      exact nomatch h
    have hdoc := (isDoc_iff_suffix horder hne).mpr (List.suffix_refl _)
    exact ⟨_, ⟨hdoc, fun hother => (isDoc_iff_suffix horder hother.isGroup.ne_nil).mp hother⟩, h⟩
  · rintro ⟨run, hrun, htext⟩
    have hread := (isDoc_iff_suffix horder hrun.isGroup.ne_nil).mp hrun.toIsDoc
    have hne : (docGroup source (n.startRow source) before.reverse).reverse ≠ [] := by
      intro hnil
      rw [hnil, List.suffix_nil] at hread
      exact hrun.isGroup.ne_nil hread
    have hwhole := hrun.maximal ((isDoc_iff_suffix horder hne).mpr (List.suffix_refl _))
    rw [hwhole.eq_of_length_le hread.length_le, htext]

/-- In a tree whose siblings are in order, a node has a doc comment exactly if there are comments
right above it that start their lines, and the doc comment is the text of all these. In particular,
the doc comments of a file are of this kind, each above a declaration or a spec. -/
theorem Node.IsOrdered.docs_iff {root : Node} (h : root.IsOrdered) (source : Bytes) :
    (∀ parent front n after doc, root.Within parent → parent.children = front ++ n :: after →
      (docAbove source n (front.filter fun c => c.label.named).reverse = some doc ↔
        ∃ run, IsWholeDoc source n (front.filter fun c => c.label.named) run ∧
          docText source run = some doc)) ∧
    ∀ path file, sourceFileOf source path root = .ok file →
      ∀ line doc, (line, some doc) ∈ file.docs ↔
        ∃ before n run, root.Introduces before n ∧ line = (n.startRow source : Int) + 1 ∧
          IsWholeDoc source n before run ∧ docText source run = some doc := by
  constructor
  · intro parent front n after doc hparent hchildren
    have hfront : front.Sublist parent.children := hchildren ▸ List.sublist_append_left _ _
    have horder : InOrder (front.filter fun c => c.label.named) :=
      (h.inOrder hparent).sublist (List.filter_sublist.trans hfront)
    exact docAbove_eq_some_iff horder
  · intro path file hfile line doc
    have horder : ∀ {before n}, root.Introduces before n → InOrder before := by
      intro before n hplace
      obtain ⟨parent, hparent, hchild⟩ := hplace.exists_hasChild
      exact (h.inOrder hparent).sublist hchild.sublist
    rw [mem_docs_iff hfile]
    constructor
    · rintro ⟨before, n, hplace, heq⟩
      obtain ⟨hline, hdoc⟩ := Prod.mk.inj heq
      obtain ⟨run, hrun, htext⟩ := (docAbove_eq_some_iff (horder hplace)).mp hdoc.symm
      exact ⟨before, n, run, hplace, hline, hrun, htext⟩
    · rintro ⟨before, n, run, hplace, rfl, hrun, htext⟩
      have hdoc := (docAbove_eq_some_iff (horder hplace)).mpr ⟨run, hrun, htext⟩
      exact ⟨before, n, hplace, by rw [hdoc]⟩

/-- A spec below two comments, the first one of several lines, behind a comment that trails the spec
in front of it. -/
def specSource : Bytes :=
  encode "package p\n\nvar (\n\t// d\n\tA = 0 // e\n\t/* f\n\t*/\n\t// g\n\tB = 1\n)\n"

theorem Node.IsOrdered.docs_iff_specSource :
    ∃ root ∈ readSource specSource, root.IsOrdered ∧
      ∃ file ∈ (sourceFileOf specSource "p/x.go" root).toOption,
        (9, some " f\n\ng\n") ∈ file.docs ∧
          ∃ before n run, root.Introduces before n ∧ 9 = (n.startRow specSource : Int) + 1 ∧
            IsWholeDoc specSource n before run ∧
              docText specSource run = some " f\n\ng\n" := by
  have hrun : ∃ root ∈ readSource specSource, root.IsOrdered ∧
      ∃ file ∈ (sourceFileOf specSource "p/x.go" root).toOption,
        (9, some " f\n\ng\n") ∈ file.docs := by
    decide +kernel
  obtain ⟨root, hroot, horder, file, hfile, hmem⟩ := hrun
  have hok := (Except.toOption_eq_some_iff _ _).mp hfile
  exact ⟨root, hroot, horder, file, hfile, hmem,
    ((Node.IsOrdered.docs_iff horder specSource).2 "p/x.go" file hok 9 " f\n\ng\n").mp hmem⟩

/-! ## What is taken of the longest group -/

/-- Where comments document a node, the longest such group counts. Of it the comments at its end are
taken, up to the first one from below that does not start its line, so all of it exactly if every
comment starts its line. Then a mark in any comment that is no directive deprecates the node. What
is taken is the doc comment in the file, if the node is a declaration or a spec of it. -/
theorem docAbove_of_documents (h : Documents source n before run) :
    ∃ longest, IsLongest source n before longest ∧
      docAbove source n before.reverse =
        docText source (longest.rtakeWhile (StartsLine source ·)) ∧
      ((docGroup source (n.startRow source) before.reverse).reverse = longest ↔
        ∀ c ∈ longest, StartsLine source c) ∧
      ((∀ c ∈ longest, StartsLine source c) →
        docAbove source n before.reverse = docText source longest ∧
        (isDeprecated (docAbove source n before.reverse) = true ↔
          ∃ c ∈ longest, ¬ IsDirectiveComment (c.text source) ∧
            HasMark (proseOf (c.text source)))) ∧
      ∀ path root file, root.Introduces before n → sourceFileOf source path root = .ok file →
        ((n.startRow source : Int) + 1, docAbove source n before.reverse) ∈ file.docs := by
  obtain ⟨longest, hlongest⟩ := h.exists_isLongest
  have hdoc : docAbove source n before.reverse =
      docText source (longest.rtakeWhile (StartsLine source ·)) := by
    rw [docAbove_eq_docText, hlongest.docGroup_eq]
  have hwhole : longest.rtakeWhile (StartsLine source ·) = longest ↔
      ∀ c ∈ longest, StartsLine source c := by
    rw [List.rtakeWhile_eq_self_iff]
    simp only [decide_eq_true_eq]
  refine ⟨longest, hlongest, hdoc, by rw [hlongest.docGroup_eq, hwhole], ?_, ?_⟩
  · intro hlines
    rw [hdoc, hwhole.mpr hlines]
    exact ⟨rfl, isDeprecated_docText_iff source longest⟩
  · intro path root file hplace hfile
    exact (mem_docs_iff hfile).mpr ⟨before, n, hplace, rfl⟩

/-- A declaration below two comments, the first one of two lines and marked, behind a comment that
trails the declaration in front of it. -/
def markedSource : Bytes :=
  encode "package p\n\nvar B = 0 // no\n/* Deprecated:\nuse B. */\n// kept\nvar A = 1\n"

theorem docAbove_of_documents_markedSource :
    ∃ root ∈ readSource markedSource, ∃ n ∈ root.namedChildren.getLast?,
      ∃ file ∈ (sourceFileOf markedSource "p/x.go" root).toOption,
        Documents markedSource n root.namedChildren.dropLast
          (root.namedChildren.dropLast.drop 3) ∧
        ∃ longest, IsLongest markedSource n root.namedChildren.dropLast longest ∧
          docText markedSource (longest.rtakeWhile (StartsLine markedSource ·)) =
            some " Deprecated:\nuse B.\nkept\n" ∧
          (7, some " Deprecated:\nuse B.\nkept\n") ∈ file.docs := by
  have hrun : ∃ root ∈ readSource markedSource, ∃ n ∈ root.namedChildren.getLast?,
      ∃ file ∈ (sourceFileOf markedSource "p/x.go" root).toOption,
        (groupOf? n.kind).isSome = true ∧ n.startRow markedSource = 6 ∧
        IsGroup markedSource (n.startRow markedSource) (root.namedChildren.dropLast.drop 3) ∧
        (∀ c ∈ (root.namedChildren.dropLast.drop 3).head?, StartsLine markedSource c) ∧
        docAbove markedSource n root.namedChildren.dropLast.reverse =
          some " Deprecated:\nuse B.\nkept\n" := by
    decide +kernel
  obtain ⟨root, hroot, n, hlast, file, hfile, hkind, hrow, hgroup, hline, hdoc⟩ := hrun
  have hdocuments : Documents markedSource n root.namedChildren.dropLast
      (root.namedChildren.dropLast.drop 3) := ⟨List.drop_suffix 3 _, hgroup, hline⟩
  have hplace := Node.introduces_getLast? hlast hkind
  obtain ⟨longest, hlongest, htext, -, -, hdocs⟩ := docAbove_of_documents hdocuments
  have hmem := hdocs "p/x.go" root file hplace
    ((Except.toOption_eq_some_iff _ _).mp hfile)
  rw [hrow, hdoc] at hmem
  exact ⟨root, hroot, n, hlast, file, hfile, hdocuments, longest, hlongest,
    htext.symm.trans hdoc, hmem⟩

/-- Two comments on one line above a declaration, of which the first one starts the line. -/
def gluedSource : Bytes :=
  encode "package p\n\n/* Deprecated: gone */ // kept\nvar A = 0\n"

/-- The longest group that documents a node need not be its doc comment: of two comments on one line
the second one does not start the line, and the mark in the first one is lost. -/
theorem not_docAbove_eq_docText :
    ¬ ∀ (source : Bytes) (root n : Node) (before run : List Node), root.IsOrdered →
      root.Introduces before n → Documents source n before run →
      ∃ longest, IsLongest source n before longest ∧
        docAbove source n before.reverse = docText source longest := by
  intro hall
  have hrun : ∃ root ∈ readSource gluedSource, root.IsOrdered ∧
      ∃ n ∈ root.namedChildren.getLast?, (groupOf? n.kind).isSome = true ∧
        IsGroup gluedSource (n.startRow gluedSource) (root.namedChildren.dropLast.drop 1) ∧
        (∀ c ∈ (root.namedChildren.dropLast.drop 1).head?, StartsLine gluedSource c) ∧
        docAbove gluedSource n root.namedChildren.dropLast.reverse = none := by
    decide +kernel
  obtain ⟨root, -, horder, n, hlast, hkind, hgroup, hline, hdoc⟩ := hrun
  have hplace := Node.introduces_getLast? hlast hkind
  obtain ⟨longest, hlongest, htext⟩ := hall gluedSource root n _ _ horder hplace
    ⟨List.drop_suffix 1 _, hgroup, hline⟩
  rw [hdoc, docText_of_ne_nil hlongest.documents.isGroup.ne_nil] at htext
  exact nomatch htext

end Registrar.Go
