import Mathlib.Data.List.Chain
import Mathlib.Data.List.DropRight
import Mathlib.Data.List.Infix
import Registrar.Go.Comment

/-!
# Groups of comments above a node

A group of comments leads up to a row: no blank line stands between two of its comments, and the
last one ends on the line above. The comments that are read as the documentation of a node are the
longest group in front of it of which every comment starts its own line.
-/

namespace Registrar.Go

open Text.Utf8 (Bytes)

/-! ## Rows and lines -/

theorem rowAt_mono (source : Bytes) {i j : Nat} (h : i ≤ j) : rowAt source i ≤ rowAt source j :=
  ((List.take_prefix_take_left h).sublist).count_le _

/-- On its line a node has white space in front of it and nothing else. -/
def StartsLine (source : Bytes) (n : Node) : Prop :=
  ∃ lines blanks, source.take n.label.start = lines ++ blanks ∧
    (lines = [] ∨ lines.getLast? = some 0x0A) ∧
    ∀ b ∈ blanks, b ≠ 0x0A ∧ Text.isAsciiBlank b = true

theorem onOwnLine_eq_true_iff (source : Bytes) (n : Node) :
    onOwnLine source n = true ↔ StartsLine source n := by
  have hline : lineBefore source n.label.start =
      (source.take n.label.start).rtakeWhile (· ≠ 0x0A) := rfl
  rw [onOwnLine, hline, List.all_eq_true]
  constructor
  · intro hblank
    refine ⟨(source.take n.label.start).rdropWhile (· ≠ 0x0A), _,
      List.rdropWhile_append_rtakeWhile.symm, ?_, fun b hb => ⟨?_, hblank b hb⟩⟩
    · by_cases hnil : (source.take n.label.start).rdropWhile (· ≠ 0x0A) = []
      · exact .inl hnil
      · right
        have hlast := List.rdropWhile_last_not (· ≠ (0x0A : UInt8)) _ hnil
        rw [List.getLast?_eq_some_getLast hnil]
        simpa using hlast
    · simpa using List.mem_rtakeWhile_imp hb
  · rintro ⟨lines, blanks, htake, hlines, hblanks⟩ b hb
    suffices b ∈ blanks from (hblanks b this).2
    rw [htake] at hb
    have hkeep : ∀ b ∈ blanks.reverse, (decide (b ≠ (0x0A : UInt8))) = true := fun b hb =>
      decide_eq_true (hblanks b (List.mem_reverse.mp hb)).1
    rw [List.rtakeWhile, List.reverse_append, List.takeWhile_append_of_pos hkeep] at hb
    have hstop : lines.reverse.takeWhile (fun b => decide (b ≠ (0x0A : UInt8))) = [] := by
      rcases hlines with rfl | hlast
      · rfl
      · rw [← List.head?_reverse] at hlast
        obtain ⟨rest, hrest⟩ := List.head?_eq_some_iff.mp hlast
        rw [hrest]
        rfl
    rw [hstop, List.append_nil, List.reverse_reverse] at hb
    exact hb

instance (source : Bytes) (n : Node) : Decidable (StartsLine source n) :=
  decidable_of_iff _ (onOwnLine_eq_true_iff source n)

/-! ## Groups -/

/-- Comments in source order that lead up to a row: there is at least one, no blank line stands
between two that follow each other, and the last one ends on the line above the row. -/
structure IsGroup (source : Bytes) (row : Nat) (run : List Node) : Prop where
  ne_nil : run ≠ []
  kind_eq : ∀ c ∈ run, c.kind = "comment"
  joined : run.IsChain fun c d => d.startRow source ≤ c.endRow source + 1
  above : ∀ c ∈ run.getLast?, c.endRow source + 1 = row

instance (source : Bytes) (row : Nat) (run : List Node) : Decidable (IsGroup source row run) :=
  decidable_of_iff (run ≠ [] ∧ (∀ c ∈ run, c.kind = "comment") ∧
      (run.IsChain fun c d => d.startRow source ≤ c.endRow source + 1) ∧
      ∀ c ∈ run.getLast?, c.endRow source + 1 = row)
    ⟨fun h => ⟨h.1, h.2.1, h.2.2.1, h.2.2.2⟩, fun h => ⟨h.ne_nil, h.kind_eq, h.joined, h.above⟩⟩

namespace IsGroup

variable {source : Bytes} {row : Nat} {run : List Node}

/-- The comments at the end of a group are a group. -/
theorem suffix {last : List Node} (h : IsGroup source row run) (hlast : last <:+ run)
    (hne : last ≠ []) : IsGroup source row last where
  ne_nil := hne
  kind_eq c hc := h.kind_eq c (hlast.subset hc)
  joined := h.joined.suffix hlast
  above c hc := by
    obtain ⟨front, rfl⟩ := hlast
    exact h.above c (by rwa [List.getLast?_append_of_ne_nil _ hne])

/-- A row between a comment of the group and the end of the group is covered by a comment. -/
theorem exists_covers (h : IsGroup source row run) {c : Node} (hc : c ∈ run) {r : Nat}
    (hend : c.endRow source < r) (hr : r < row) :
    ∃ d ∈ run, d.startRow source ≤ r ∧ r ≤ d.endRow source := by
  induction run generalizing c with
  | nil => exact absurd rfl h.ne_nil
  | cons first rest ih =>
    cases rest with
    | nil =>
      have hlast := h.above first rfl
      rw [List.mem_singleton.mp hc] at hend
      omega
    | cons next rest =>
      have hnext : IsGroup source row (next :: rest) :=
        h.suffix (List.suffix_cons _ _) (List.cons_ne_nil _ _)
      have hlater : ∀ d ∈ next :: rest, d.endRow source < r →
          ∃ e ∈ first :: next :: rest, e.startRow source ≤ r ∧ r ≤ e.endRow source := by
        intro d hd hend
        obtain ⟨e, he, hcovers⟩ := ih hnext hd hend
        exact ⟨e, List.mem_cons_of_mem _ he, hcovers⟩
      rcases List.mem_cons.mp hc with rfl | hc
      · have hjoin : next.startRow source ≤ c.endRow source + 1 :=
          h.joined.rel_head? rfl
        by_cases hcover : r ≤ next.endRow source
        · exact ⟨next, List.mem_cons_of_mem _ List.mem_cons_self, by omega, hcover⟩
        · exact hlater next List.mem_cons_self (by omega)
      · exact hlater c hc hend

end IsGroup

/-! ## Siblings -/

/-- Nodes in source order that do not overlap. -/
structure InOrder (nodes : List Node) : Prop where
  start_le_stop : ∀ n ∈ nodes, n.label.start ≤ n.label.stop
  apart : nodes.Pairwise fun m n => m.label.stop ≤ n.label.start

instance (nodes : List Node) : Decidable (InOrder nodes) :=
  decidable_of_iff ((∀ n ∈ nodes, n.label.start ≤ n.label.stop) ∧
      nodes.Pairwise fun m n => m.label.stop ≤ n.label.start)
    ⟨fun h => ⟨h.1, h.2⟩, fun h => ⟨h.start_le_stop, h.apart⟩⟩

theorem InOrder.sublist {part nodes : List Node} (h : InOrder nodes) (hsub : part.Sublist nodes) :
    InOrder part :=
  ⟨fun n hn => h.start_le_stop n (hsub.subset hn), h.apart.sublist hsub⟩

/-- Every comment of a group ends above the row that the group leads up to. -/
theorem IsGroup.endRow_lt {source : Bytes} {row : Nat} {run : List Node}
    (h : IsGroup source row run) (horder : InOrder run) {c : Node} (hc : c ∈ run) :
    c.endRow source < row := by
  obtain ⟨front, last, rfl⟩ := (List.eq_nil_or_concat' run).resolve_left h.ne_nil
  have hlast : last.endRow source + 1 = row := h.above last List.getLast?_concat
  rcases List.mem_append.mp hc with hc | hc
  · have happart : c.label.stop ≤ last.label.start :=
      (List.pairwise_append.mp horder.apart).2.2 c hc last List.mem_cons_self
    have hspan := horder.start_le_stop last (List.mem_append_right _ List.mem_cons_self)
    have hle : c.endRow source ≤ last.endRow source := rowAt_mono source (happart.trans hspan)
    omega
  · rw [List.mem_singleton.mp hc]
    omega

/-! ## The group that is read -/

/-- Comments, the last one first, with no blank line in front of the row or between two that follow
each other. -/
structure LeadsTo (source : Bytes) (row : Nat) (back : List Node) : Prop where
  kind_eq : ∀ c ∈ back, c.kind = "comment"
  reaches : ∀ c ∈ back.head?, row ≤ c.endRow source + 1
  joined : back.IsChain fun d c => d.startRow source ≤ c.endRow source + 1

variable {source : Bytes} {row : Nat}

theorem leadsTo_nil : LeadsTo source row [] :=
  ⟨by simp, by simp, List.isChain_nil⟩

theorem leadsTo_cons_iff {c : Node} {back : List Node} :
    LeadsTo source row (c :: back) ↔
      c.kind = "comment" ∧ row ≤ c.endRow source + 1 ∧ LeadsTo source (c.startRow source) back := by
  constructor
  · intro h
    obtain ⟨hkind, hkinds⟩ := List.forall_mem_cons.mp h.kind_eq
    obtain ⟨hhead, hjoined⟩ := List.isChain_cons.mp h.joined
    exact ⟨hkind, h.reaches c rfl, hkinds, hhead, hjoined⟩
  · rintro ⟨hkind, hrow, h⟩
    refine ⟨List.forall_mem_cons.mpr ⟨hkind, h.kind_eq⟩, ?_,
      List.isChain_cons.mpr ⟨h.reaches, h.joined⟩⟩
    rintro d ⟨⟩
    exact hrow

theorem isGroup_iff_leadsTo {run : List Node} :
    IsGroup source row run ↔ run ≠ [] ∧ LeadsTo source row run.reverse ∧
      ∀ c ∈ run.reverse.head?, c.endRow source + 1 = row := by
  rw [List.head?_reverse]
  constructor
  · intro h
    refine ⟨h.ne_nil, ⟨fun c hc => h.kind_eq c (List.mem_reverse.mp hc), fun c hc => ?_, ?_⟩,
      h.above⟩
    · rw [List.head?_reverse] at hc
      exact (h.above c hc).ge
    · rw [List.isChain_reverse]
      exact h.joined
  · rintro ⟨hne, hrun, habove⟩
    refine ⟨hne, fun c hc => hrun.kind_eq c (List.mem_reverse.mpr hc), ?_, habove⟩
    have hjoined := hrun.joined
    rwa [List.isChain_reverse] at hjoined

/-- The comments that are collected above a row are the longest that lead up to it, each at the
start of its line. -/
theorem prefix_groupAbove_iff {back : List Node} {run : List Node} :
    run <+: groupAbove source row back ↔
      run <+: back ∧ LeadsTo source row run ∧ ∀ c ∈ run, StartsLine source c := by
  induction back generalizing row run with
  | nil =>
    rw [groupAbove, List.prefix_nil]
    refine ⟨?_, fun h => h.1⟩
    rintro rfl
    exact ⟨rfl, leadsTo_nil, by simp⟩
  | cons n back ih =>
    cases run with
    | nil => exact iff_of_true (List.nil_prefix) ⟨List.nil_prefix, leadsTo_nil, by simp⟩
    | cons c run =>
      rw [groupAbove, List.cons_prefix_cons, leadsTo_cons_iff, List.forall_mem_cons]
      split
      · rename_i h
        simp only [Bool.and_eq_true, decide_eq_true_eq, onOwnLine_eq_true_iff] at h
        rw [List.cons_prefix_cons, ih]
        constructor
        · rintro ⟨rfl, hrun, hleads, hlines⟩
          exact ⟨⟨rfl, hrun⟩, ⟨h.1.1, h.1.2, hleads⟩, h.2, hlines⟩
        · rintro ⟨⟨rfl, hrun⟩, ⟨-, -, hleads⟩, -, hlines⟩
          exact ⟨rfl, hrun, hleads, hlines⟩
      · rename_i h
        simp only [Bool.and_eq_true, decide_eq_true_eq, onOwnLine_eq_true_iff] at h
        refine iff_of_false (by simp) ?_
        rintro ⟨⟨rfl, -⟩, ⟨hkind, hrow, -⟩, hline, -⟩
        exact h ⟨⟨hkind, hrow⟩, hline⟩

/-- The comments that are read above a row are the longest that lead up to it, the nearest of which
ends on the line above, each at the start of its line. -/
theorem prefix_docGroup_iff {back run : List Node} (hne : run ≠ []) :
    run <+: docGroup source row back ↔
      run <+: back ∧ LeadsTo source row run ∧ (∀ c ∈ run.head?, c.endRow source + 1 = row) ∧
        ∀ c ∈ run, StartsLine source c := by
  obtain ⟨c, run, rfl⟩ := List.exists_cons_of_ne_nil hne
  cases back with
  | nil => simp [docGroup]
  | cons n back =>
    rw [docGroup]
    split
    · rename_i h
      rw [prefix_groupAbove_iff]
      constructor
      · rintro ⟨hstart, hleads, hlines⟩
        refine ⟨hstart, hleads, ?_, hlines⟩
        rintro d ⟨⟩
        rwa [(List.cons_prefix_cons.mp hstart).1]
      · rintro ⟨hstart, hleads, -, hlines⟩
        exact ⟨hstart, hleads, hlines⟩
    · rename_i h
      refine iff_of_false (by simp) ?_
      rintro ⟨hstart, -, habove, -⟩
      rw [List.cons_prefix_cons] at hstart
      exact h (hstart.1 ▸ habove c rfl)

/-- The same in source order: the comments that are read end with any group in front of the node
that has each of its comments at the start of its line, and are such a group themselves. -/
theorem suffix_docGroup_iff {before run : List Node} (hne : run ≠ []) :
    run <:+ (docGroup source row before.reverse).reverse ↔
      run <:+ before ∧ IsGroup source row run ∧ ∀ c ∈ run, StartsLine source c := by
  rw [← List.reverse_prefix, List.reverse_reverse,
    prefix_docGroup_iff (List.reverse_ne_nil_iff.mpr hne), List.reverse_prefix,
    isGroup_iff_leadsTo]
  simp only [List.mem_reverse]
  constructor
  · rintro ⟨hsuffix, hleads, habove, hlines⟩
    exact ⟨hsuffix, ⟨hne, hleads, habove⟩, hlines⟩
  · rintro ⟨hsuffix, ⟨-, hleads, habove⟩, hlines⟩
    exact ⟨hsuffix, hleads, habove, hlines⟩

/-! ## The longest group -/

variable {n : Node} {before run : List Node}

/-- Comments that document a node: they end its earlier siblings, are a group above it, and the
first one starts its line. -/
structure Documents (source : Bytes) (n : Node) (before run : List Node) : Prop where
  suffix : run <:+ before
  isGroup : IsGroup source (n.startRow source) run
  startsLine : ∀ c ∈ run.head?, StartsLine source c

/-- The most comments that document a node. -/
structure IsLongest (source : Bytes) (n : Node) (before run : List Node) : Prop where
  documents : Documents source n before run
  length_le {other : List Node} : Documents source n before other → other.length ≤ run.length

theorem Documents.exists_isLongest {run : List Node} (h : Documents source n before run) :
    ∃ longest, IsLongest source n before longest := by
  by_cases hmax : ∀ other, Documents source n before other → other.length ≤ run.length
  · exact ⟨run, h, hmax _⟩
  · push Not at hmax
    obtain ⟨other, hother, hlt⟩ := hmax
    have hle := hother.suffix.length_le
    exact hother.exists_isLongest
termination_by before.length - run.length

theorem suffix_rtakeWhile {p : Node → Bool} {last : List Node} (hlast : last <:+ run)
    (h : ∀ c ∈ last, p c = true) : last <:+ run.rtakeWhile p := by
  obtain ⟨front, rfl⟩ := hlast
  have hkeep : ∀ c ∈ last.reverse, p c = true := fun c hc => h c (List.mem_reverse.mp hc)
  rw [List.rtakeWhile, List.reverse_append, List.takeWhile_append_of_pos hkeep,
    List.reverse_append, List.reverse_reverse]
  exact List.suffix_append _ _

/-- Of the longest group that documents a node, the comments at its end are read, up to the first
one from below that does not start its line. -/
theorem IsLongest.docGroup_eq (h : IsLongest source n before run) :
    (docGroup source (n.startRow source) before.reverse).reverse =
      run.rtakeWhile (StartsLine source ·) := by
  have hkept : run.rtakeWhile (StartsLine source ·) <:+
      (docGroup source (n.startRow source) before.reverse).reverse := by
    by_cases hnil : run.rtakeWhile (StartsLine source ·) = []
    · rw [hnil]
      exact List.nil_suffix
    · have hsuffix : run.rtakeWhile (StartsLine source ·) <:+ run := List.rtakeWhile_suffix _ _
      exact (suffix_docGroup_iff hnil).mpr ⟨hsuffix.trans h.documents.suffix,
        h.documents.isGroup.suffix hsuffix hnil,
        fun c hc => by simpa using List.mem_rtakeWhile_imp hc⟩
  have hread : (docGroup source (n.startRow source) before.reverse).reverse <:+
      run.rtakeWhile (StartsLine source ·) := by
    by_cases hnil : (docGroup source (n.startRow source) before.reverse).reverse = []
    · rw [hnil]
      exact List.nil_suffix
    · obtain ⟨hsuffix, hgroup, hlines⟩ :=
        (suffix_docGroup_iff hnil).mp (List.suffix_refl _)
      have hle := h.length_le
        ⟨hsuffix, hgroup, fun c hc => hlines c (List.mem_of_mem_head? hc)⟩
      exact suffix_rtakeWhile
        (List.suffix_of_suffix_length_le hsuffix h.documents.suffix hle)
        fun c hc => decide_eq_true (hlines c hc)
  exact hread.eq_of_length_le hkept.length_le

end Registrar.Go
