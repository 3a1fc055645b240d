import Registrar.Proofs.CommentText

/-!
# Texts in normal form

The lines of a comment text have no white space at their ends, and no empty line is left that could
be dropped. When they are put into comments again, each into a line comment or all of them into one
block comment, nothing is cut from them any more, and these comments have the same text.
-/

namespace Registrar.Go

/-! ## Putting a text into comments -/

/-- The lines of a text that a newline ends. -/
def endedLines (text : List Char) : List (List Char) :=
  (text.splitOn '\n').dropLast

/-- The lines of a text as line comments, each with a blank behind the marker. -/
def asLineComments (text : List Char) : List (List Char) :=
  (endedLines text).map fun line => "// ".toList ++ line

/-- A text as one block comment. -/
def asBlockComment (text : List Char) : List Char :=
  "/*".toList ++ text ++ "*/".toList

theorem commentBody_lineComment (line : List Char) :
    commentBody ("// ".toList ++ line) = some line := rfl

theorem commentBody_blockComment (text : List Char) :
    commentBody (asBlockComment text) = some text := by
  have hraw : asBlockComment text = '/' :: '*' :: (text ++ ['*'] ++ ['/']) := by
    simp [asBlockComment]
  rw [hraw, commentBody]
  · rw [List.drop_succ_cons, List.drop_succ_cons, List.drop_zero, List.dropLast_concat,
      List.dropLast_concat]
  · simp
  · simp

/-! ## Lines in normal form -/

/-- Lines on which nothing is left to be done: none is cut apart or trimmed, and none is dropped. -/
structure IsNormal (lines : List (List Char)) : Prop where
  newline_notMem : ∀ line ∈ lines, '\n' ∉ line
  trimRight_eq : ∀ line ∈ lines, Text.trimRight line = line
  squeeze_eq : squeeze lines = lines

/-- Squeezed lines are not squeezed any further. -/
theorem squeezeAfter_squeezeAfter (pending : Bool) (lines : List (List Char)) :
    squeezeAfter false (squeezeAfter pending lines) = squeezeAfter pending lines := by
  induction lines generalizing pending with
  | nil => rfl
  | cons line lines ih =>
    by_cases hline : line = []
    · subst hline
      exact ih true
    · have hrest (pending' : Bool) : squeezeAfter pending' (line :: squeezeAfter false lines) =
          (if pending' then [[]] else []) ++ line :: squeezeAfter false lines := by
        rw [squeezeAfter_cons hline, ih]
      rw [squeezeAfter_cons hline]
      cases pending with
      | false => exact hrest false
      | true => exact hrest true

theorem squeeze_eq_squeezeAfter {lines : List (List Char)} (h : lines.head? ≠ some []) :
    squeeze lines = squeezeAfter false lines := by
  cases lines with
  | nil => rfl
  | cons line lines =>
    rw [squeeze, List.dropWhile_cons_of_neg (by simpa using h)]

theorem squeeze_squeeze (lines : List (List Char)) : squeeze (squeeze lines) = squeeze lines := by
  rw [squeeze_eq_squeezeAfter (isTidied_squeeze lines).head?_ne, squeeze,
    squeezeAfter_squeezeAfter]

/-- An empty line at the end is dropped. -/
theorem squeezeAfter_append_nil (pending : Bool) (lines : List (List Char)) :
    squeezeAfter pending (lines ++ [[]]) = squeezeAfter pending lines := by
  induction lines generalizing pending with
  | nil => rfl
  | cons line lines ih =>
    by_cases hline : line = []
    · subst hline
      exact ih true
    · rw [List.cons_append, squeezeAfter_cons hline, squeezeAfter_cons hline, ih]

theorem squeeze_append_nil (lines : List (List Char)) :
    squeeze (lines ++ [[]]) = squeeze lines := by
  rw [squeeze, squeeze, List.dropWhile_append]
  split
  · rename_i hempty
    rw [List.isEmpty_iff.mp hempty]
    rfl
  · exact squeezeAfter_append_nil false _

/-- What is left of the lines of comments is in normal form. -/
theorem isNormal_squeeze_commentLines (comments : List (List Char)) :
    IsNormal (squeeze (commentLines comments)) where
  newline_notMem := by
    intro line hline
    rw [commentLines_eq_proseLines] at hline
    rcases (isTidied_squeeze _).mem_or_eq_nil hline with hline | rfl
    · exact newline_notMem_of_mem_proseLines hline
    · exact List.not_mem_nil
  trimRight_eq := by
    intro line hline
    rcases (isTidied_squeeze _).mem_or_eq_nil hline with hline | rfl
    · obtain ⟨body, -, hline⟩ := List.mem_flatMap.mp hline
      obtain ⟨piece, -, rfl⟩ := List.mem_map.mp hline
      exact List.rdropWhile_idempotent Text.isBlank piece
    · rfl
  squeeze_eq := squeeze_squeeze _

namespace IsNormal

variable {lines : List (List Char)}

theorem endedLines_flatMap (h : IsNormal lines) :
    endedLines (lines.flatMap fun line => line ++ ['\n']) = lines := by
  rw [endedLines, ← Text.splitAt_eq_splitOn, Text.splitAt_flatMap h.newline_notMem,
    List.dropLast_concat]

/-- Lines in normal form are the lines of their line comments. -/
theorem commentLines_lineComments (h : IsNormal lines) :
    commentLines (lines.map fun line => "// ".toList ++ line) = lines := by
  have hbodies : (commentBody ∘ fun line => "// ".toList ++ line) = some :=
    funext commentBody_lineComment
  have hpieces : ∀ line ∈ lines, (Text.splitAt '\n' line).map Text.trimRight = [line] := by
    intro line hline
    rw [Text.splitAt_of_notMem (h.newline_notMem line hline), List.map_singleton,
      h.trimRight_eq line hline]
  rw [commentLines, List.filterMap_map, hbodies, List.filterMap_some, List.flatMap_congr hpieces,
    List.flatMap_singleton']

/-- Lines in normal form are the lines of their block comment, but for an empty one at the end. -/
theorem commentLines_blockComment (h : IsNormal lines) :
    commentLines [asBlockComment (lines.flatMap fun line => line ++ ['\n'])] = lines ++ [[]] := by
  have htrim : lines.map Text.trimRight = lines :=
    (List.map_congr_left h.trimRight_eq).trans (List.map_id' lines)
  rw [commentLines, List.filterMap_cons_some (commentBody_blockComment _), List.filterMap_nil,
    List.flatMap_singleton, Text.splitAt_flatMap h.newline_notMem, List.map_append, htrim]
  rfl

end IsNormal

/-- The text of some comments is the text of the comments that its lines make up, and of the one
block comment that it makes up as a whole. -/
theorem commentText_recomment (comments : List (List Char)) :
    (endedLines (commentText comments)).flatMap (fun line => line ++ ['\n']) =
        commentText comments ∧
      commentText (asLineComments (commentText comments)) = commentText comments ∧
      commentText [asBlockComment (commentText comments)] = commentText comments := by
  have hnormal := isNormal_squeeze_commentLines comments
  have hlines : endedLines (commentText comments) = squeeze (commentLines comments) :=
    hnormal.endedLines_flatMap
  refine ⟨?_, ?_, ?_⟩
  · rw [hlines, commentText]
  · rw [asLineComments, hlines, commentText, hnormal.commentLines_lineComments,
      hnormal.squeeze_eq, commentText]
  · rw [commentText, commentText, hnormal.commentLines_blockComment, squeeze_append_nil,
      hnormal.squeeze_eq]

/-- A line that looks like a directive is none behind a blank. -/
example : commentText (asLineComments "go:x\n  y\n\nz\n".toList) = "go:x\n  y\n\nz\n".toList := by
  decide

end Registrar.Go
