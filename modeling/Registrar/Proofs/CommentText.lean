import Mathlib.Data.List.DropRight
import Registrar.Go.Comment
import Registrar.Proofs.Lines

/-!
# The text of comments in normal form

A comment that is no directive has its prose cut into lines, which lose the white space at their
ends. The text of some comments keeps the lines with something in them, in order. Empty lines only
count between two of these, where any number of them stands for one, so the text neither starts nor
ends with an empty line.
-/

namespace Registrar

namespace Go

/-! ## Directives and prose -/

/-- What follows the marker of a directive: one of three words with a blank behind it, or the name
of a tool with a colon and the beginning of a word. -/
def SpeaksToTool (body : List Char) : Prop :=
  (∃ word ∈ ["line ", "extern ", "export "], word.toList <+: body) ∨
    ∃ tool c rest, tool ≠ [] ∧ (∀ x ∈ tool, isDirectiveChar x = true) ∧
      isDirectiveChar c = true ∧ body = tool ++ ':' :: c :: rest

/-- A directive: a line comment that speaks to a tool, without a blank behind its marker. -/
def IsDirectiveComment (raw : List Char) : Prop :=
  ∃ body, raw = '/' :: '/' :: body ∧ body.head? ≠ some ' ' ∧ SpeaksToTool body

/-- The prose of a comment: what stands behind the marker of a line comment, without one blank at
its front, or between the markers of any other, two characters on either side. -/
def proseOf (raw : List Char) : List Char :=
  match raw with
  | '/' :: '/' :: body => if body.head? = some ' ' then body.tail else body
  | _ => (raw.drop 2).take (raw.length - 4)

theorem isDirective_eq_true_iff (body : List Char) :
    isDirective body = true ↔ SpeaksToTool body := by
  rw [isDirective, Bool.or_eq_true, Bool.and_eq_true, List.any_eq_true]
  simp only [List.isPrefixOf_iff_prefix]
  apply or_congr Iff.rfl
  constructor
  · rintro ⟨htool, hrest⟩
    split at hrest
    · rename_i c rest hdrop
      refine ⟨body.takeWhile isDirectiveChar, c, rest, ?_, ?_, hrest, ?_⟩
      · simpa using htool
      · exact fun x hx => List.mem_takeWhile_imp hx
      · rw [← hdrop, List.takeWhile_append_dropWhile]
    · exact absurd hrest Bool.false_ne_true
  · rintro ⟨tool, c, rest, hne, htool, hc, rfl⟩
    have hcolon : isDirectiveChar ':' ≠ true := by
      decide
    rw [List.takeWhile_append_of_pos htool, List.dropWhile_append_of_pos htool,
      List.takeWhile_cons_of_neg hcolon, List.dropWhile_cons_of_neg hcolon, List.append_nil]
    exact ⟨by simpa using hne, hc⟩

/-- A directive has no prose, and any other comment has its own. -/
theorem commentBody_cases (raw : List Char) :
    commentBody raw = none ∧ IsDirectiveComment raw ∨
      commentBody raw = some (proseOf raw) ∧ ¬ IsDirectiveComment raw := by
  rw [commentBody.eq_def]
  split
  · right
    refine ⟨by simp [proseOf], ?_⟩
    rintro ⟨body, hraw, hblank, -⟩
    cases hraw
    exact hblank rfl
  · rename_i body hblank
    have hhead : body.head? ≠ some ' ' := by
      cases body with
      | nil => simp
      | cons c rest =>
        rintro ⟨⟩
        exact hblank rest rfl
    have hiff : IsDirectiveComment ('/' :: '/' :: body) ↔ isDirective body = true := by
      rw [isDirective_eq_true_iff]
      constructor
      · rintro ⟨body', hraw, -, htool⟩
        cases hraw
        exact htool
      · exact fun htool => ⟨body, rfl, hhead, htool⟩
    by_cases hbody : isDirective body = true
    · left
      exact ⟨if_pos hbody, hiff.mpr hbody⟩
    · right
      rw [if_neg hbody, proseOf, if_neg hhead]
      exact ⟨rfl, mt hiff.mp hbody⟩
  · rename_i hblank hline
    right
    constructor
    · rw [proseOf.eq_def]
      split
      · exact absurd rfl (hline _)
      · rw [List.dropLast_eq_take, List.dropLast_eq_take, List.take_take, List.length_take,
          List.length_drop]
        congr 2
        omega
    · rintro ⟨body, rfl, -, -⟩
      exact hline body rfl

theorem commentBody_eq_none_iff (raw : List Char) :
    commentBody raw = none ↔ IsDirectiveComment raw := by
  rcases commentBody_cases raw with ⟨hbody, hraw⟩ | ⟨hbody, hraw⟩
  · exact iff_of_true hbody hraw
  · exact iff_of_false (by simp [hbody]) hraw

instance (raw : List Char) : Decidable (IsDirectiveComment raw) :=
  decidable_of_iff _ (commentBody_eq_none_iff raw)

/-- The lines of the comments that are no directives, without white space at their ends. -/
def proseLines (comments : List (List Char)) : List (List Char) :=
  (comments.filter fun raw => ¬ IsDirectiveComment raw).flatMap fun raw =>
    ((proseOf raw).splitOn '\n').map fun line => line.rdropWhile Text.isBlank

theorem commentLines_eq_proseLines (comments : List (List Char)) :
    commentLines comments = proseLines comments := by
  induction comments with
  | nil => rfl
  | cons raw comments ih =>
    rw [commentLines, proseLines] at ih ⊢
    rcases commentBody_cases raw with ⟨hbody, hraw⟩ | ⟨hbody, hraw⟩
    · rw [List.filterMap_cons_none hbody, List.filter_cons_of_neg (by simpa using hraw), ih]
    · rw [List.filterMap_cons_some hbody, List.filter_cons_of_pos (by simpa using hraw),
        List.flatMap_cons, List.flatMap_cons, ih, Text.splitAt_eq_splitOn]
      rfl

theorem newline_notMem_of_mem_proseLines {comments : List (List Char)} {line : List Char}
    (h : line ∈ proseLines comments) : '\n' ∉ line := by
  obtain ⟨raw, -, hline⟩ := List.mem_flatMap.mp h
  obtain ⟨piece, hpiece, rfl⟩ := List.mem_map.mp hline
  rw [← Text.splitAt_eq_splitOn] at hpiece
  exact fun hmem => (Text.of_mem_splitAt hpiece).1 ((List.rdropWhile_prefix _ _).subset hmem)

/-! ## Empty lines -/

/-- Lines tidied up: the lines with something in them are kept, in order, and no others are added.
Where two of them follow each other, one empty line stands between them if there was at least one,
and none if there was none. The first and the last line are not empty. -/
structure IsTidied (lines tidy : List (List Char)) : Prop where
  filter_eq : tidy.filter (· ≠ []) = lines.filter (· ≠ [])
  between {before gap after : List (List Char)} {line next : List Char} :
    lines = before ++ line :: (gap ++ next :: after) → line ≠ [] → next ≠ [] →
    (∀ empty ∈ gap, empty = []) →
    ∃ before' after',
      tidy = before' ++ line :: ((if gap = [] then [] else [[]]) ++ next :: after') ∧
      before'.filter (· ≠ []) = before.filter (· ≠ []) ∧
      after'.filter (· ≠ []) = after.filter (· ≠ [])
  head?_ne : tidy.head? ≠ some []
  getLast?_ne : tidy.getLast? ≠ some []

theorem squeezeAfter_cons {line : List Char} (h : line ≠ []) (pending : Bool)
    (lines : List (List Char)) :
    squeezeAfter pending (line :: lines) =
      (if pending then [[]] else []) ++ line :: squeezeAfter false lines := by
  rw [squeezeAfter, if_neg (by simpa using h)]
  cases pending <;> rfl

/-- Squeezing keeps the lines that are not empty. -/
theorem filter_squeezeAfter (pending : Bool) (lines : List (List Char)) :
    (squeezeAfter pending lines).filter (· ≠ []) = lines.filter (· ≠ []) := by
  induction lines generalizing pending with
  | nil => rfl
  | cons line lines ih =>
    by_cases hline : line = []
    · subst hline
      exact ih true
    · rw [squeezeAfter_cons hline, List.filter_append, List.filter_cons_of_pos (by simpa),
        List.filter_cons_of_pos (by simpa), ih]
      cases pending <;> rfl

theorem getLast?_squeezeAfter_ne (pending : Bool) (lines : List (List Char)) :
    (squeezeAfter pending lines).getLast? ≠ some [] := by
  induction lines generalizing pending with
  | nil => simp [squeezeAfter]
  | cons line lines ih =>
    by_cases hline : line = []
    · subst hline
      exact ih true
    · rw [squeezeAfter_cons hline, List.getLast?_append_cons, List.getLast?_cons]
      cases hlast : (squeezeAfter false lines).getLast? with
      | none => simpa using hline
      | some last =>
        rintro ⟨⟩
        exact ih false hlast

/-- Any number of empty lines between two others counts as one. -/
theorem squeezeAfter_gap {gap : List (List Char)} (hgap : ∀ empty ∈ gap, empty = [])
    {next : List Char} (h : next ≠ []) (after : List (List Char)) :
    squeezeAfter false (gap ++ next :: after) =
      (if gap = [] then [] else [[]]) ++ next :: squeezeAfter false after := by
  have hpending : ∀ gap : List (List Char), (∀ empty ∈ gap, empty = []) →
      squeezeAfter true (gap ++ next :: after) = [] :: next :: squeezeAfter false after := by
    intro gap hgap
    induction gap with
    | nil => exact squeezeAfter_cons h true after
    | cons empty gap ih =>
      rw [List.forall_mem_cons] at hgap
      rw [hgap.1]
      exact ih hgap.2
  cases gap with
  | nil => exact squeezeAfter_cons h false after
  | cons empty gap =>
    rw [List.forall_mem_cons] at hgap
    rw [hgap.1, if_neg (List.cons_ne_nil _ _)]
    exact hpending gap hgap.2

/-- What stands in front of a line that is not empty is squeezed on its own. -/
theorem exists_squeezeAfter_append (pending : Bool) (before : List (List Char))
    {line : List Char} (h : line ≠ []) (rest : List (List Char)) :
    ∃ front, squeezeAfter pending (before ++ line :: rest) =
        front ++ line :: squeezeAfter false rest ∧
      front.filter (· ≠ []) = before.filter (· ≠ []) := by
  induction before generalizing pending with
  | nil =>
    refine ⟨if pending then [[]] else [], squeezeAfter_cons h pending rest, ?_⟩
    cases pending <;> rfl
  | cons first before ih =>
    by_cases hfirst : first = []
    · subst hfirst
      exact ih true
    · obtain ⟨front, hfront, hfilter⟩ := ih false
      refine ⟨(if pending then [[]] else []) ++ first :: front, ?_, ?_⟩
      · rw [List.cons_append, squeezeAfter_cons hfirst, hfront, List.append_assoc,
          List.cons_append]
      · rw [List.filter_append, List.filter_cons_of_pos (by simpa),
          List.filter_cons_of_pos (by simpa), hfilter]
        cases pending <;> rfl

/-- Leaving out empty lines at the front keeps the others. -/
theorem filter_dropWhile_isEmpty (lines : List (List Char)) :
    (lines.dropWhile List.isEmpty).filter (· ≠ []) = lines.filter (· ≠ []) := by
  induction lines with
  | nil => rfl
  | cons line lines ih =>
    by_cases hline : line = []
    · subst hline
      exact ih
    · rw [List.dropWhile_cons_of_neg (by simpa using hline)]

theorem dropWhile_isEmpty_append (before : List (List Char)) {line : List Char} (h : line ≠ [])
    (rest : List (List Char)) :
    (before ++ line :: rest).dropWhile List.isEmpty =
      before.dropWhile List.isEmpty ++ line :: rest := by
  rw [List.dropWhile_append]
  split
  · rename_i hempty
    rw [List.isEmpty_iff.mp hempty, List.dropWhile_cons_of_neg (by simpa using h), List.nil_append]
  · rfl

/-- Squeezed lines are tidy. -/
theorem isTidied_squeeze (lines : List (List Char)) : IsTidied lines (squeeze lines) where
  filter_eq := by
    rw [squeeze, filter_squeezeAfter, filter_dropWhile_isEmpty]
  between := by
    rintro before gap after line next rfl hline hnext hgap
    rw [squeeze, dropWhile_isEmpty_append before hline]
    obtain ⟨front, hfront, hfilter⟩ := exists_squeezeAfter_append false
      (before.dropWhile List.isEmpty) hline (gap ++ next :: after)
    refine ⟨front, squeezeAfter false after, ?_, ?_, filter_squeezeAfter false after⟩
    · rw [hfront, squeezeAfter_gap hgap hnext]
    · rw [hfilter, filter_dropWhile_isEmpty]
  head?_ne := by
    rw [squeeze]
    cases hlines : lines.dropWhile List.isEmpty with
    | nil => simp [squeezeAfter]
    | cons line rest =>
      have hline : line ≠ [] := by
        have hhead := List.head?_dropWhile_not List.isEmpty lines
        rw [hlines] at hhead
        simpa using hhead
      rw [squeezeAfter_cons hline]
      simpa using hline
  getLast?_ne := getLast?_squeezeAfter_ne false _

/-! ## The text -/

/-- Tidy lines come from the lines that they tidy up, or are empty. -/
theorem IsTidied.mem_or_eq_nil {lines tidy : List (List Char)} (h : IsTidied lines tidy)
    {line : List Char} (hline : line ∈ tidy) : line ∈ lines ∨ line = [] := by
  by_cases hempty : line = []
  · exact .inr hempty
  · have hmem : line ∈ tidy.filter (· ≠ []) := List.mem_filter.mpr ⟨hline, by simpa using hempty⟩
    rw [h.filter_eq] at hmem
    exact .inl (List.mem_of_mem_filter hmem)

/-- Nothing is left of some lines if and only if all of them are empty. -/
theorem IsTidied.eq_nil_iff {lines tidy : List (List Char)} (h : IsTidied lines tidy) :
    tidy = [] ↔ ∀ line ∈ lines, line = [] := by
  have hlines : lines.filter (· ≠ []) = [] ↔ ∀ line ∈ lines, line = [] := by
    simp [List.filter_eq_nil_iff]
  rw [← hlines, ← h.filter_eq]
  constructor
  · rintro rfl
    rfl
  · intro hfilter
    cases htidy : tidy with
    | nil => rfl
    | cons line rest =>
      have hline : line ≠ [] := by
        rintro rfl
        exact h.head?_ne (by rw [htidy]; rfl)
      rw [htidy, List.filter_cons_of_pos (by simpa using hline)] at hfilter
      exact absurd hfilter (List.cons_ne_nil _ _)

theorem commentText_eq_flatMap (comments : List (List Char)) :
    commentText comments =
      (squeeze (proseLines comments)).flatMap fun line => line ++ ['\n'] := by
  rw [commentText, commentLines_eq_proseLines]

/-- Lines that end in one with something in it end in a single newline. -/
theorem exists_flatMap_eq_append_pair {lines : List (List Char)} (hne : lines ≠ [])
    (hlast : lines.getLast? ≠ some []) (hbreak : ∀ line ∈ lines, '\n' ∉ line) :
    ∃ front c, c ≠ '\n' ∧ lines.flatMap (fun line => line ++ ['\n']) = front ++ [c, '\n'] := by
  obtain ⟨others, last, rfl⟩ := List.eq_nil_or_concat lines |>.resolve_left hne
  rw [List.concat_eq_append] at hlast hbreak ⊢
  have hlast : last ≠ [] := by
    rintro rfl
    exact hlast List.getLast?_concat
  obtain ⟨init, c, rfl⟩ := List.eq_nil_or_concat last |>.resolve_left hlast
  have hc : c ≠ '\n' := by
    rintro rfl
    exact hbreak _ List.mem_concat_self (by simp)
  refine ⟨others.flatMap (fun line => line ++ ['\n']) ++ init, c, hc, ?_⟩
  simp

/-- The text of some comments is empty if and only if all of their lines are, and otherwise has one
newline at its end. It is made of these lines, tidied up and each with a newline behind it. -/
theorem commentText_isTidied (comments : List (List Char)) :
    (commentText comments = [] ↔ ∀ line ∈ proseLines comments, line = []) ∧
      (commentText comments = [] ∨
        ∃ front c, c ≠ '\n' ∧ commentText comments = front ++ [c, '\n']) ∧
      ∃ tidy, IsTidied (proseLines comments) tidy ∧ (∀ line ∈ tidy, '\n' ∉ line) ∧
        commentText comments = tidy.flatMap fun line => line ++ ['\n'] := by
  have htidy := isTidied_squeeze (proseLines comments)
  have hbreak : ∀ line ∈ squeeze (proseLines comments), '\n' ∉ line := by
    intro line hline
    rcases htidy.mem_or_eq_nil hline with hline | rfl
    · exact newline_notMem_of_mem_proseLines hline
    · exact List.not_mem_nil
  have hnil : commentText comments = [] ↔ squeeze (proseLines comments) = [] := by
    rw [commentText_eq_flatMap, List.flatMap_eq_nil_iff, List.eq_nil_iff_forall_not_mem]
    simp
  refine ⟨hnil.trans htidy.eq_nil_iff, ?_, _, htidy, hbreak, commentText_eq_flatMap comments⟩
  rw [hnil, commentText_eq_flatMap]
  by_cases hempty : squeeze (proseLines comments) = []
  · exact .inl hempty
  · exact .inr (exists_flatMap_eq_append_pair hempty htidy.getLast?_ne hbreak)

/-- A directive leaves no line, and empty lines of two comments count together. -/
example :
    commentText ["// a \t".toList, "//go:x y".toList, "//".toList, "/*\n\n b\r\n\n*/".toList] =
      "a\n\n b\n".toList := by
  decide

end Go

end Registrar
