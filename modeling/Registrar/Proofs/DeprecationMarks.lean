import Mathlib.Data.List.Flatten
import Registrar.Proofs.CommentText
import Registrar.Proofs.Decoding
import Registrar.Proofs.Survivors

/-!
# Deprecation marks in comments

The text of some comments is cut from their bytes in several steps: bytes are decoded, markers and
directives dropped, lines cut apart and trimmed, empty lines dropped, and what is left is joined
again. All cuts are made at newlines, white space, slashes and stars. A word that has none of these
is neither cut nor put together, so a deprecation mark stands in the text exactly if its bytes stand
in a comment that is no directive.
-/

namespace Registrar

namespace Text

variable {word : List Char} {sep : Char}

/-- A separator that a word does not have keeps it on one side. -/
theorem infix_append_cons_iff (h : sep ∉ word) (s t : List Char) :
    word <:+: s ++ sep :: t ↔ word <:+: s ∨ word <:+: t := by
  constructor
  · intro hinfix
    rcases List.infix_append_iff_ne_nil.mp hinfix with
      hs | ht | ⟨left, right, -, hne, rfl, -, hright⟩
    · exact .inl hs
    · rcases List.infix_cons_iff.mp ht with hprefix | ht
      · rcases List.prefix_cons_iff.mp hprefix with rfl | ⟨rest, rfl, -⟩
        · exact .inl List.nil_infix
        · exact absurd List.mem_cons_self h
      · exact .inr ht
    · rcases List.prefix_cons_iff.mp hright with rfl | ⟨rest, rfl, -⟩
      · exact absurd rfl hne
      · exact absurd (List.mem_append_right left List.mem_cons_self) h
  · rintro (hs | ht)
    · exact List.infix_append_of_infix_left hs
    · exact List.infix_append_of_infix_right (List.infix_cons ht)

theorem infix_cons_iff_of_notMem (hne : word ≠ []) (h : sep ∉ word) (t : List Char) :
    word <:+: sep :: t ↔ word <:+: t := by
  rw [← List.nil_append (sep :: t), infix_append_cons_iff h, List.infix_nil, or_iff_right hne]

/-- A word without separators stands in one of the lines that are joined. -/
theorem infix_flatMap_iff (hne : word ≠ []) (h : sep ∉ word) (lines : List (List Char)) :
    word <:+: lines.flatMap (fun line => line ++ [sep]) ↔ ∃ line ∈ lines, word <:+: line := by
  induction lines with
  | nil => simp [hne]
  | cons line lines ih =>
    rw [List.flatMap_cons, List.append_assoc, List.singleton_append, infix_append_cons_iff h, ih,
      List.exists_mem_cons_iff]

/-- A word without separators stands in one of the pieces that are cut. -/
theorem infix_iff_exists_mem_splitOn (h : sep ∉ word) (s : List Char) :
    word <:+: s ↔ ∃ piece ∈ s.splitOn sep, word <:+: piece := by
  have hjoin : ∀ pieces : List (List Char), pieces ≠ [] →
      (word <:+: [sep].intercalate pieces ↔ ∃ piece ∈ pieces, word <:+: piece) := by
    intro pieces hpieces
    induction pieces with
    | nil => exact absurd rfl hpieces
    | cons piece pieces ih =>
      cases pieces with
      | nil => simp
      | cons next pieces =>
        rw [List.intercalate_cons_cons, List.append_assoc, List.singleton_append,
          infix_append_cons_iff h, ih (List.cons_ne_nil _ _)]
        exact (List.exists_mem_cons_iff _ _ _).symm
  rw [← hjoin _ (List.splitOn_ne_nil sep s), List.intercalate_splitOn]

/-- A word of which no character is dropped stands in what is left. -/
theorem infix_rdropWhile_iff {p : Char → Bool} (hne : word ≠ []) (h : ∀ c ∈ word, p c = false)
    (s : List Char) : word <:+: s.rdropWhile p ↔ word <:+: s := by
  constructor
  · exact fun hinfix => hinfix.trans (List.rdropWhile_prefix p s).isInfix
  · intro hinfix
    have hdropped : ∀ part : List Char, part ≠ [] → (∀ c ∈ part, c ∈ word) →
        ¬ part <:+: s.rtakeWhile p := by
      intro part hpart hsub hdrop
      obtain ⟨c, hc⟩ := List.exists_mem_of_ne_nil part hpart
      have hpc := List.mem_rtakeWhile_imp (hdrop.subset hc)
      exact Bool.false_ne_true ((h c (hsub c hc)).symm.trans hpc)
    rw [← List.rdropWhile_append_rtakeWhile (p := p) (l := s)] at hinfix
    rcases List.infix_append_iff_ne_nil.mp hinfix with
      hs | ht | ⟨left, right, -, hright, rfl, -, ht⟩
    · exact hs
    · exact absurd ht (hdropped word hne fun _ hc => hc)
    · exact absurd ht.isInfix (hdropped right hright fun _ hc => List.mem_append_right left hc)

end Text

namespace Go

open Text.Utf8 (Bytes decodeLossy encode asciiByte)

/-- A word that stays whole when comments are cut: it has something in it, but no white space, no
slash and no star. -/
def IsPlain (word : List Char) : Prop :=
  word ≠ [] ∧ ∀ c ∈ word, Text.isBlank c = false ∧ c ≠ '/' ∧ c ≠ '*'

variable {word : List Char}

theorem IsPlain.notMem {c : Char} (h : IsPlain word)
    (hc : Text.isBlank c = true ∨ c = '/' ∨ c = '*') : c ∉ word := by
  intro hmem
  obtain ⟨hblank, hslash, hstar⟩ := h.2 c hmem
  rcases hc with hc | hc | hc
  · exact Bool.false_ne_true (hblank.symm.trans hc)
  · exact hslash hc
  · exact hstar hc

/-- Tidying up keeps what stands in the lines. -/
theorem IsTidied.exists_infix_iff {lines tidy : List (List Char)} (h : IsTidied lines tidy)
    (hne : word ≠ []) : (∃ line ∈ tidy, word <:+: line) ↔ ∃ line ∈ lines, word <:+: line := by
  have hfilter : ∀ lines : List (List Char), (∃ line ∈ lines.filter (· ≠ []), word <:+: line) ↔
      ∃ line ∈ lines, word <:+: line := by
    intro lines
    constructor
    · rintro ⟨line, hline, hinfix⟩
      exact ⟨line, List.mem_of_mem_filter hline, hinfix⟩
    · rintro ⟨line, hline, hinfix⟩
      have hline' : line ≠ [] := by
        rintro rfl
        exact hne (List.infix_nil.mp hinfix)
      exact ⟨line, List.mem_filter.mpr ⟨hline, by simpa using hline'⟩, hinfix⟩
  rw [← hfilter tidy, h.filter_eq, hfilter lines]

/-- A plain word stands in the lines of some comments exactly if it stands in the prose of one that
is no directive. -/
theorem IsPlain.exists_infix_proseLines_iff (h : IsPlain word) (comments : List (List Char)) :
    (∃ line ∈ proseLines comments, word <:+: line) ↔
      ∃ raw ∈ comments, ¬ IsDirectiveComment raw ∧ word <:+: proseOf raw := by
  have hblank : ∀ c ∈ word, Text.isBlank c = false := fun c hc => (h.2 c hc).1
  have hprose : ∀ raw, (∃ line ∈ ((proseOf raw).splitOn '\n').map (·.rdropWhile Text.isBlank),
      word <:+: line) ↔ word <:+: proseOf raw := by
    intro raw
    rw [Text.infix_iff_exists_mem_splitOn (h.notMem (.inl (rfl : Text.isBlank '\n' = true)))]
    simp only [List.mem_map, exists_exists_and_eq_and, Text.infix_rdropWhile_iff h.1 hblank]
  constructor
  · rintro ⟨line, hline, hinfix⟩
    obtain ⟨raw, hraw, hline⟩ := List.mem_flatMap.mp hline
    rw [List.mem_filter, decide_eq_true_eq] at hraw
    exact ⟨raw, hraw.1, hraw.2, (hprose raw).mp ⟨line, hline, hinfix⟩⟩
  · rintro ⟨raw, hraw, hdirective, hinfix⟩
    obtain ⟨line, hline, hinfix⟩ := (hprose raw).mpr hinfix
    refine ⟨line, List.mem_flatMap.mpr ⟨raw, ?_, hline⟩, hinfix⟩
    exact List.mem_filter.mpr ⟨hraw, decide_eq_true hdirective⟩

/-- A plain word stands in the text of some comments exactly if it stands in the prose of one that
is no directive. -/
theorem IsPlain.infix_commentText_iff (h : IsPlain word) (comments : List (List Char)) :
    word <:+: commentText comments ↔
      ∃ raw ∈ comments, ¬ IsDirectiveComment raw ∧ word <:+: proseOf raw := by
  rw [commentText_eq_flatMap, Text.infix_flatMap_iff h.1 (h.notMem (.inl rfl)),
    (isTidied_squeeze _).exists_infix_iff h.1, h.exists_infix_proseLines_iff]

/-- A text with a deprecation mark in it. -/
def HasMark (text : List Char) : Prop :=
  "Deprecated:".toList <:+: text ∨ "Deprecated.".toList <:+: text

theorem isPlain_marks : IsPlain "Deprecated:".toList ∧ IsPlain "Deprecated.".toList := by
  simp [IsPlain, Text.isBlank]

/-- The text of some comments is marked exactly if the prose of one that is no directive is. -/
theorem isMarked_commentText_iff (comments : List (List Char)) :
    IsMarked (some (String.ofList (commentText comments))) ↔
      ∃ raw ∈ comments, ¬ IsDirectiveComment raw ∧ HasMark (proseOf raw) := by
  simp only [IsMarked, Option.some.injEq, exists_eq_left', String.toList_ofList,
    isPlain_marks.1.infix_commentText_iff, isPlain_marks.2.infix_commentText_iff, HasMark]
  constructor
  · rintro (⟨raw, hraw, hdirective, hmark⟩ | ⟨raw, hraw, hdirective, hmark⟩)
    · exact ⟨raw, hraw, hdirective, .inl hmark⟩
    · exact ⟨raw, hraw, hdirective, .inr hmark⟩
  · rintro ⟨raw, hraw, hdirective, hmark | hmark⟩
    · exact .inl ⟨raw, hraw, hdirective, hmark⟩
    · exact .inr ⟨raw, hraw, hdirective, hmark⟩

/-! ## Comments as bytes -/

/-- The bytes of a comment: a line comment without a newline, or a block comment. -/
def IsCommentToken (token : Bytes) : Prop :=
  (∃ body, token = 0x2F :: 0x2F :: body ∧ 0x0A ∉ body) ∨
    ∃ body, token = 0x2F :: 0x2A :: (body ++ [0x2A, 0x2F])

theorem decodeLossy_append_slash (front rest : Bytes) :
    decodeLossy (front ++ 0x2F :: rest) = decodeLossy front ++ '/' :: decodeLossy rest := by
  have hslash : '/'.toNat < 0x80 := by
    decide
  exact Text.Utf8.decodeLossy_append_cons hslash front rest

theorem decodeLossy_append_star (front rest : Bytes) :
    decodeLossy (front ++ 0x2A :: rest) = decodeLossy front ++ '*' :: decodeLossy rest := by
  have hstar : '*'.toNat < 0x80 := by
    decide
  exact Text.Utf8.decodeLossy_append_cons hstar front rest

/-- The markers of a comment are decoded apart from what they enclose. -/
theorem decodeLossy_lineComment (body : Bytes) :
    decodeLossy (0x2F :: 0x2F :: body) = '/' :: '/' :: decodeLossy body := by
  calc decodeLossy (0x2F :: 0x2F :: body)
      = '/' :: decodeLossy (0x2F :: body) := decodeLossy_append_slash [] _
    _ = '/' :: '/' :: decodeLossy body := congrArg _ (decodeLossy_append_slash [] body)

theorem decodeLossy_blockComment (body : Bytes) :
    decodeLossy (0x2F :: 0x2A :: (body ++ [0x2A, 0x2F])) =
      '/' :: '*' :: (decodeLossy body ++ ['*', '/']) := by
  calc decodeLossy (0x2F :: 0x2A :: (body ++ [0x2A, 0x2F]))
      = '/' :: decodeLossy (0x2A :: (body ++ [0x2A, 0x2F])) := decodeLossy_append_slash [] _
    _ = '/' :: '*' :: decodeLossy (body ++ [0x2A, 0x2F]) :=
      congrArg _ (decodeLossy_append_star [] _)
    _ = '/' :: '*' :: (decodeLossy body ++ '*' :: decodeLossy [0x2F]) := by
      rw [decodeLossy_append_star]
    _ = '/' :: '*' :: (decodeLossy body ++ ['*', '/']) := rfl

/-- A plain word stands in a comment exactly if it stands in its prose. -/
theorem IsPlain.infix_proseOf_iff (h : IsPlain word) {token : Bytes}
    (htoken : IsCommentToken token) :
    word <:+: proseOf (decodeLossy token) ↔ word <:+: decodeLossy token := by
  have hslash (t : List Char) : word <:+: '/' :: t ↔ word <:+: t :=
    Text.infix_cons_iff_of_notMem h.1 (h.notMem (.inr (.inl rfl))) t
  rcases htoken with ⟨body, rfl, -⟩ | ⟨body, rfl⟩
  · rw [decodeLossy_lineComment, hslash, hslash, proseOf]
    split
    · rename_i hblank
      obtain ⟨rest, hrest⟩ := List.head?_eq_some_iff.mp hblank
      rw [hrest, List.tail_cons, Text.infix_cons_iff_of_notMem h.1 (h.notMem (.inl rfl))]
    · rfl
  · have hstar : '*' ∉ word := h.notMem (.inr (.inr rfl))
    have hprose : proseOf ('/' :: '*' :: (decodeLossy body ++ ['*', '/'])) = decodeLossy body := by
      simp [proseOf]
    rw [decodeLossy_blockComment, hprose, hslash, Text.infix_cons_iff_of_notMem h.1 hstar,
      Text.infix_append_cons_iff hstar, hslash, List.infix_nil, or_iff_left h.1]

/-- A comment is marked in its prose exactly if its bytes are. -/
theorem hasMark_proseOf_iff {token : Bytes} (h : IsCommentToken token) :
    HasMark (proseOf (decodeLossy token)) ↔
      encode "Deprecated:" <:+: token ∨ encode "Deprecated." <:+: token := by
  rw [HasMark, isPlain_marks.1.infix_proseOf_iff h, isPlain_marks.2.infix_proseOf_iff h,
    Text.Utf8.infix_decodeLossy_iff (by simp), Text.Utf8.infix_decodeLossy_iff (by simp)]

/-- The text of some comments, given by their bytes, is deprecated exactly if the bytes of a mark
stand in a comment that is no directive. -/
theorem isDeprecated_commentText_iff {tokens : List Bytes}
    (h : ∀ token ∈ tokens, IsCommentToken token) :
    isDeprecated (some (String.ofList (commentText (tokens.map decodeLossy)))) = true ↔
      ∃ token ∈ tokens, ¬ IsDirectiveComment (decodeLossy token) ∧
        (encode "Deprecated:" <:+: token ∨ encode "Deprecated." <:+: token) := by
  rw [isDeprecated_eq_true_iff, isMarked_commentText_iff]
  constructor
  · rintro ⟨raw, hraw, hdirective, hmark⟩
    obtain ⟨token, htoken, rfl⟩ := List.mem_map.mp hraw
    exact ⟨token, htoken, hdirective, (hasMark_proseOf_iff (h token htoken)).mp hmark⟩
  · rintro ⟨token, htoken, hdirective, hmark⟩
    exact ⟨_, List.mem_map_of_mem htoken, hdirective,
      (hasMark_proseOf_iff (h token htoken)).mpr hmark⟩

/-- A directive with a mark, and a block comment in which unreadable bytes surround one. -/
def markedTokens : List Bytes :=
  [encode "//go:x Deprecated:",
    0x2F :: 0x2A :: ([0xE2] ++ encode "Deprecated." ++ [0x80] ++ [0x2A, 0x2F])]

theorem isDeprecated_commentText_iff_markedTokens :
    (∀ token ∈ markedTokens, IsCommentToken token) ∧
      isDeprecated (some (String.ofList (commentText (markedTokens.map decodeLossy)))) = true := by
  have htokens : ∀ token ∈ markedTokens, IsCommentToken token := by
    rw [markedTokens, List.forall_mem_cons, List.forall_mem_singleton]
    exact ⟨.inl ⟨encode "go:x Deprecated:", by decide, by decide⟩, .inr ⟨_, rfl⟩⟩
  refine ⟨htokens, (isDeprecated_commentText_iff htokens).mpr ?_⟩
  refine ⟨_, List.mem_cons_of_mem _ List.mem_cons_self, by decide, .inr ?_⟩
  exact ⟨0x2F :: 0x2A :: [0xE2], [0x80, 0x2A, 0x2F], by decide⟩

end Go

end Registrar
