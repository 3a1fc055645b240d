import Mathlib.Data.List.Basic
import Registrar.Text.Lines

/-!
# Pieces between separators

A separator between two texts keeps their pieces apart, and a text without separators is one piece.
The pieces hold every character of a text but the separators.
-/

namespace Registrar.Text

variable {sep : Char}

/-- A separator at the front of a text ends an empty piece. -/
theorem splitAt_cons_self (sep : Char) (s : List Char) :
    splitAt sep (sep :: s) = [] :: splitAt sep s := by
  simp [splitAt]

/-- Any other character at the front of a text belongs to the first piece. -/
theorem splitAt_cons_of_ne {c : Char} (hc : c ≠ sep) {s line : List Char}
    {lines : List (List Char)} (h : splitAt sep s = line :: lines) :
    splitAt sep (c :: s) = (c :: line) :: lines := by
  rw [splitAt, if_neg hc, h]

/-- Cutting a text at a separator is the splitting of lists. -/
theorem splitAt_eq_splitOn (sep : Char) (s : List Char) : splitAt sep s = s.splitOn sep := by
  induction s with
  | nil => rfl
  | cons c rest ih =>
    rw [List.splitOn_cons_eq_if_modifyHead, ← ih]
    by_cases hc : c = sep
    · rw [hc, splitAt_cons_self, if_pos (beq_self_eq_true sep)]
    · obtain ⟨line, lines, hrest⟩ := List.exists_cons_of_ne_nil (splitAt_ne_nil sep rest)
      rw [splitAt_cons_of_ne hc hrest, if_neg (mt beq_iff_eq.mp hc), hrest, List.modifyHead_cons]

/-- A separator between two texts keeps their pieces apart. -/
theorem splitAt_append_cons (sep : Char) (s t : List Char) :
    splitAt sep (s ++ sep :: t) = splitAt sep s ++ splitAt sep t := by
  simp only [splitAt_eq_splitOn]
  exact List.splitOn_append_cons_self s t

/-- A text without separators is one piece. -/
theorem splitAt_of_notMem {s : List Char} (h : sep ∉ s) : splitAt sep s = [s] := by
  rw [splitAt_eq_splitOn, List.splitOn_eq_singleton h]

/-- Lines that each end in a separator are cut apart where they were joined. -/
theorem splitAt_flatMap {lines : List (List Char)} (h : ∀ line ∈ lines, sep ∉ line) :
    splitAt sep (lines.flatMap fun line => line ++ [sep]) = lines ++ [[]] := by
  induction lines with
  | nil => rfl
  | cons line lines ih =>
    rw [List.forall_mem_cons] at h
    rw [List.flatMap_cons, List.append_assoc, List.singleton_append, splitAt_append_cons,
      splitAt_of_notMem h.1, ih h.2]
    rfl

/-- The pieces of a text hold no separator and no character that the text does not have. -/
theorem of_mem_splitAt {sep : Char} {s piece : List Char} (h : piece ∈ splitAt sep s) :
    sep ∉ piece ∧ ∀ c ∈ piece, c ∈ s := by
  induction s generalizing piece with
  | nil =>
    have hnil : piece = [] := List.mem_singleton.mp h
    simp [hnil]
  | cons c rest ih =>
    by_cases hc : c = sep
    · rw [splitAt, if_pos hc] at h
      rcases List.mem_cons.mp h with rfl | h
      · simp
      · exact ⟨(ih h).1, fun x hx => List.mem_cons_of_mem _ ((ih h).2 x hx)⟩
    · obtain ⟨line, lines, hrest⟩ := List.exists_cons_of_ne_nil (splitAt_ne_nil sep rest)
      rw [splitAt_cons_of_ne hc hrest] at h
      rcases List.mem_cons.mp h with rfl | h
      · obtain ⟨hsep, hsub⟩ := ih (hrest ▸ List.mem_cons_self)
        exact ⟨by simp [hsep, Ne.symm hc], fun x hx => by
          rcases List.mem_cons.mp hx with rfl | hx
          · exact List.mem_cons_self
          · exact List.mem_cons_of_mem _ (hsub x hx)⟩
      · obtain ⟨hsep, hsub⟩ := ih (hrest ▸ List.mem_cons_of_mem _ h)
        exact ⟨hsep, fun x hx => List.mem_cons_of_mem _ (hsub x hx)⟩

end Registrar.Text
