import Mathlib.Data.List.Infix
import Registrar.Proofs.CommentText
import Registrar.SymbolSet

/-!
# Line endings

In some files a carriage return stands in front of every newline. It then ends every line comment,
and every line but the last of a block comment. In the text of the comments it is trimmed away with
the other white space at the ends of lines, and no comment becomes a directive by it, or ceases to
be one.
-/

namespace Registrar

namespace Text

/-- White space at the end counts alike behind any text. -/
theorem trimRight_append_congr {t t' : List Char} (h : trimRight t = trimRight t')
    (s : List Char) : trimRight (s ++ t) = trimRight (s ++ t') := by
  have hdrop : t.reverse.dropWhile isBlank = t'.reverse.dropWhile isBlank :=
    List.reverse_injective h
  rw [trimRight, trimRight, List.reverse_append, List.reverse_append, List.dropWhile_append,
    List.dropWhile_append, hdrop]

/-- A text with a carriage return in front of every newline. -/
def withReturns (s : List Char) : List Char :=
  s.flatMap fun c => if c = '\n' then ['\r', '\n'] else [c]

/-- Carriage returns in front of newlines are trimmed away. -/
theorem map_trimRight_splitAt_withReturns (s : List Char) :
    (splitAt '\n' (withReturns s)).map trimRight = (splitAt '\n' s).map trimRight := by
  induction s with
  | nil => rfl
  | cons c s ih =>
    by_cases hc : c = '\n'
    · have hcons : withReturns ('\n' :: s) = ['\r'] ++ '\n' :: withReturns s := rfl
      rw [hc, hcons, splitAt_append_cons, splitAt_cons_self, List.map_append, ih]
      rfl
    · have hcons : withReturns (c :: s) = c :: withReturns s := by
        rw [withReturns, List.flatMap_cons, if_neg hc]
        rfl
      obtain ⟨line, lines, hs⟩ := List.exists_cons_of_ne_nil (splitAt_ne_nil '\n' s)
      obtain ⟨line', lines', hs'⟩ :=
        List.exists_cons_of_ne_nil (splitAt_ne_nil '\n' (withReturns s))
      rw [hs, hs', List.map_cons, List.map_cons, List.cons.injEq] at ih
      rw [hcons, splitAt_cons_of_ne hc hs, splitAt_cons_of_ne hc hs', List.map_cons,
        List.map_cons, ih.2]
      exact congrArg (· :: _) (trimRight_append_congr ih.1 [c])

end Text

namespace Go

/-- The text of a comment: a line comment without a newline, or a block comment. -/
def IsComment (raw : List Char) : Prop :=
  (∃ body, raw = '/' :: '/' :: body ∧ '\n' ∉ body) ∨
    ∃ body, raw = '/' :: '*' :: (body ++ ['*', '/'])

/-- A comment in a file that has a carriage return in front of every newline. A line comment goes
on to the newline, so that the carriage return belongs to it. -/
def returned : List Char → List Char
  | '/' :: '/' :: body => '/' :: '/' :: (body ++ ['\r'])
  | raw => Text.withReturns raw

/-- A carriage return at the end neither makes nor ends what speaks to a tool. -/
theorem speaksToTool_append_return_iff (body : List Char) :
    SpeaksToTool (body ++ ['\r']) ↔ SpeaksToTool body := by
  have hwords : ∀ word ∈ ["line ", "extern ", "export "], '\r' ∉ word.toList := by
    decide
  have hreturn : isDirectiveChar '\r' ≠ true := by
    decide
  constructor
  · rintro (⟨word, hword, hprefix⟩ | ⟨tool, c, rest, hne, htool, hc, hbody⟩)
    · rcases List.prefix_concat_iff.mp hprefix with heq | hprefix
      · exact absurd (heq ▸ List.mem_concat_self) (hwords word hword)
      · exact .inl ⟨word, hword, hprefix⟩
    · right
      rcases List.eq_nil_or_concat rest with rfl | ⟨rest, last, rfl⟩
      · have hsplit : body ++ ['\r'] = (tool ++ [':']) ++ [c] := by
          simpa using hbody
        obtain ⟨-, hlast⟩ := List.append_inj' hsplit rfl
        exact absurd hc (List.singleton_inj.mp hlast ▸ hreturn)
      · have hsplit : body ++ ['\r'] = (tool ++ ':' :: c :: rest) ++ [last] := by
          simpa using hbody
        obtain ⟨hfront, -⟩ := List.append_inj' hsplit rfl
        exact ⟨tool, c, rest, hne, htool, hc, hfront⟩
  · rintro (⟨word, hword, hprefix⟩ | ⟨tool, c, rest, hne, htool, hc, rfl⟩)
    · exact .inl ⟨word, hword, hprefix.trans (List.prefix_append _ _)⟩
    · exact .inr ⟨tool, c, rest ++ ['\r'], hne, htool, hc, by simp⟩

theorem isDirectiveComment_lineComment_iff (body : List Char) :
    IsDirectiveComment ('/' :: '/' :: body) ↔ body.head? ≠ some ' ' ∧ SpeaksToTool body := by
  simp [IsDirectiveComment]

theorem head?_append_return_eq_iff (body : List Char) :
    (body ++ ['\r']).head? = some ' ' ↔ body.head? = some ' ' := by
  cases body <;> simp

theorem not_isDirectiveComment_blockComment (rest : List Char) :
    ¬ IsDirectiveComment ('/' :: '*' :: rest) := by
  simp [IsDirectiveComment]

theorem proseOf_blockComment (body : List Char) :
    proseOf ('/' :: '*' :: (body ++ ['*', '/'])) = body := by
  simp [proseOf]

theorem returned_blockComment (body : List Char) :
    returned ('/' :: '*' :: (body ++ ['*', '/'])) =
      '/' :: '*' :: (Text.withReturns body ++ ['*', '/']) := by
  simp [returned, Text.withReturns]

/-- A comment is a directive in both forms or in none. -/
theorem isDirectiveComment_returned_iff {raw : List Char} (h : IsComment raw) :
    IsDirectiveComment (returned raw) ↔ IsDirectiveComment raw := by
  rcases h with ⟨body, rfl, -⟩ | ⟨body, rfl⟩
  · rw [returned, isDirectiveComment_lineComment_iff, isDirectiveComment_lineComment_iff, ne_eq,
      head?_append_return_eq_iff, speaksToTool_append_return_iff]
  · rw [returned_blockComment]
    exact iff_of_false (not_isDirectiveComment_blockComment _)
      (not_isDirectiveComment_blockComment _)

/-- The prose of a line comment ends in the carriage return. -/
theorem proseOf_append_return (body : List Char) :
    proseOf ('/' :: '/' :: (body ++ ['\r'])) = proseOf ('/' :: '/' :: body) ++ ['\r'] := by
  rw [proseOf, proseOf]
  simp only [head?_append_return_eq_iff]
  split
  · rename_i hblank
    obtain ⟨rest, rfl⟩ := List.head?_eq_some_iff.mp hblank
    rfl
  · rfl

/-- A comment has the same lines in both forms. -/
theorem map_trimRight_proseOf_returned {raw : List Char} (h : IsComment raw) :
    (Text.splitAt '\n' (proseOf (returned raw))).map Text.trimRight =
      (Text.splitAt '\n' (proseOf raw)).map Text.trimRight := by
  rcases h with ⟨body, rfl, hbreak⟩ | ⟨body, rfl⟩
  · have hprose : '\n' ∉ proseOf ('/' :: '/' :: body) := by
      rw [proseOf]
      split
      · exact fun hmem => hbreak (List.mem_of_mem_tail hmem)
      · exact hbreak
    have hreturn : '\n' ∉ proseOf ('/' :: '/' :: body) ++ ['\r'] := by
      simpa using hprose
    have htrim : Text.trimRight ['\r'] = Text.trimRight [] := rfl
    rw [returned, proseOf_append_return, Text.splitAt_of_notMem hreturn,
      Text.splitAt_of_notMem hprose, List.map_singleton, List.map_singleton,
      Text.trimRight_append_congr htrim, List.append_nil]
  · rw [returned_blockComment, proseOf_blockComment, proseOf_blockComment,
      Text.map_trimRight_splitAt_withReturns]

theorem proseLines_cons (raw : List Char) (comments : List (List Char)) :
    proseLines (raw :: comments) =
      (if IsDirectiveComment raw then [] else
        (Text.splitAt '\n' (proseOf raw)).map Text.trimRight) ++ proseLines comments := by
  rw [proseLines, Text.splitAt_eq_splitOn]
  by_cases hraw : IsDirectiveComment raw
  · rw [List.filter_cons_of_neg (by simpa using hraw), if_pos hraw]
    rfl
  · rw [List.filter_cons_of_pos (by simpa using hraw), if_neg hraw, List.flatMap_cons]
    rfl

/-- Comments have the same lines in both forms. -/
theorem proseLines_map_returned {comments : List (List Char)}
    (h : ∀ raw ∈ comments, IsComment raw) :
    proseLines (comments.map returned) = proseLines comments := by
  induction comments with
  | nil => rfl
  | cons raw comments ih =>
    rw [List.forall_mem_cons] at h
    rw [List.map_cons, proseLines_cons, proseLines_cons, ih h.2,
      map_trimRight_proseOf_returned h.1]
    simp only [isDirectiveComment_returned_iff h.1]

/-- A carriage return in front of every newline of a file changes nothing in the text of comments,
and with it in whether they carry a deprecation mark, nor in which of them are directives. -/
theorem commentText_map_returned {comments : List (List Char)}
    (h : ∀ raw ∈ comments, IsComment raw) :
    commentText (comments.map returned) = commentText comments ∧
      isDeprecated (some (String.ofList (commentText (comments.map returned)))) =
        isDeprecated (some (String.ofList (commentText comments))) ∧
      ∀ raw ∈ comments, (commentBody (returned raw) = none ↔ commentBody raw = none) := by
  have htext : commentText (comments.map returned) = commentText comments := by
    rw [commentText_eq_flatMap, commentText_eq_flatMap, proseLines_map_returned h]
  refine ⟨htext, by rw [htext], ?_⟩
  intro raw hraw
  rw [commentBody_eq_none_iff, commentBody_eq_none_iff]
  exact isDirectiveComment_returned_iff (h raw hraw)

/-- A directive, two line comments that are nearly one, an empty one, and a block comment. -/
def mixedComments : List (List Char) :=
  ["//go:x Deprecated:".toList, "//line".toList, "//go:".toList, "//".toList,
    "/* Deprecated:\n\n\n  gone */".toList]

theorem commentText_map_returned_mixedComments :
    (∀ raw ∈ mixedComments, IsComment raw) ∧ mixedComments.map returned ≠ mixedComments ∧
      commentText (mixedComments.map returned) =
        "line\ngo:\n\n Deprecated:\n\n  gone\n".toList := by
  have hcomments : ∀ raw ∈ mixedComments, IsComment raw := by
    simp only [mixedComments, List.forall_mem_cons, List.not_mem_nil, false_implies, implies_true,
      and_true]
    exact ⟨.inl ⟨_, rfl, by decide⟩, .inl ⟨_, rfl, by decide⟩, .inl ⟨_, rfl, by decide⟩,
      .inl ⟨_, rfl, by decide⟩, .inr ⟨" Deprecated:\n\n\n  gone ".toList, by decide⟩⟩
  refine ⟨hcomments, by decide, ?_⟩
  rw [(commentText_map_returned hcomments).1]
  decide

end Go

end Registrar
