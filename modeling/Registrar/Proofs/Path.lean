import Mathlib.Data.List.Infix
import Registrar.FileTree.Path
import Registrar.Proofs.Lines

/-!
# Parts of joined path texts

A text that is joined to another behind a slash adds its parts to those of the other, and a name
without slashes is a single part. So what is joined to the text of a directory is looked up from
that directory.
-/

namespace Registrar

/-- A text that can stand between two slashes: it is not empty and holds none. -/
def IsPart (part : String) : Prop :=
  part ≠ "" ∧ '/' ∉ part.toList

instance (part : String) : Decidable (IsPart part) :=
  inferInstanceAs (Decidable (_ ∧ _))

@[simp]
theorem pathParts_empty : pathParts "" = [] :=
  rfl

/-- A slash between two texts keeps their parts apart. -/
theorem pathParts_append_slash (first second : String) :
    pathParts (first ++ "/" ++ second) = pathParts first ++ pathParts second := by
  have hlist : (first ++ "/" ++ second).toList = first.toList ++ '/' :: second.toList := by
    simp
  rw [pathParts, hlist, Text.splitAt_append_cons, List.map_append, List.filter_append]
  rfl

/-- A text without slashes is its only part. -/
theorem pathParts_of_isPart {part : String} (h : IsPart part) : pathParts part = [part] := by
  rw [pathParts, Text.splitAt_of_notMem h.2]
  simp [h.1]

/-- Parts that are joined by slashes are the parts of the text. -/
theorem pathParts_intercalate {parts : List String} (h : ∀ part ∈ parts, IsPart part) :
    pathParts ("/".intercalate parts) = parts := by
  induction parts with
  | nil => rfl
  | cons first rest ih =>
    obtain ⟨hfirst, hrest⟩ := List.forall_mem_cons.mp h
    cases rest with
    | nil => simpa using pathParts_of_isPart hfirst
    | cons second rest =>
      rw [String.intercalate_cons_cons, pathParts_append_slash, pathParts_of_isPart hfirst,
        ih hrest, List.singleton_append]

/-- A text that starts with a slash. -/
theorem startsWith_slash_iff (text : String) :
    text.startsWith "/" = true ↔ ∃ rest, text.toList = '/' :: rest := by
  rw [String.startsWith_string_iff]
  constructor
  · rintro ⟨rest, hrest⟩
    exact ⟨rest, hrest.symm⟩
  · rintro ⟨rest, hrest⟩
    exact ⟨rest, hrest.symm⟩

/-- A text that ends in a slash. -/
theorem endsWith_slash_iff (text : String) :
    text.endsWith "/" = true ↔ ∃ front, text = front ++ "/" := by
  rw [String.endsWith_eq_endsWith_toSlice, String.Slice.endsWith_string_iff,
    String.copy_toSlice]
  constructor
  · rintro ⟨front, hfront⟩
    refine ⟨String.ofList front, String.ext_iff.mpr ?_⟩
    rw [String.toList_append, String.toList_ofList, hfront]
  · rintro ⟨front, rfl⟩
    exact ⟨front.toList, by simp⟩

/-- A part starts with no slash. -/
theorem IsPart.startsWith_eq_false {part : String} (h : IsPart part) :
    part.startsWith "/" = false := by
  rw [Bool.eq_false_iff]
  intro hslash
  obtain ⟨rest, hrest⟩ := (startsWith_slash_iff part).mp hslash
  exact h.2 (hrest ▸ List.mem_cons_self)

/-- A text that ends in a part ends in no slash. -/
theorem IsPart.endsWith_append_eq_false {part : String} (h : IsPart part) (front : String) :
    (front ++ part).endsWith "/" = false := by
  rw [Bool.eq_false_iff]
  intro hslash
  obtain ⟨front', hfront⟩ := (endsWith_slash_iff _).mp hslash
  have hne : part.toList ≠ [] := fun hnil => h.1 (String.toList_eq_nil_iff.mp hnil)
  have hlast : part.toList.getLast hne = '/' := by
    have hlists : front.toList ++ part.toList = front'.toList ++ ['/'] := by
      simpa using congrArg String.toList hfront
    have hends := congrArg List.getLast? hlists
    rw [List.getLast?_append_of_ne_nil _ hne, List.getLast?_concat,
      List.getLast?_eq_some_getLast hne] at hends
    exact Option.some.inj hends
  exact h.2 (hlast ▸ List.getLast_mem hne)

/-- What stands in front of a text that is not empty decides whether a slash comes first. -/
theorem startsWith_append_of_ne_empty {first : String} (h : first ≠ "") (second : String) :
    (first ++ second).startsWith "/" = first.startsWith "/" := by
  obtain ⟨c, rest, hfirst⟩ := List.exists_cons_of_ne_nil
    fun hnil : first.toList = [] => h (String.toList_eq_nil_iff.mp hnil)
  rw [Bool.eq_iff_iff, startsWith_slash_iff, startsWith_slash_iff, String.toList_append, hfirst]
  simp

section JoinPath

variable (directory : String) {part : String} (h : IsPart part)
include h

/-- A part is joined to a directory behind a slash, which the directory may end in. -/
theorem joinPath_of_isPart :
    joinPath directory part =
      if directory = "" ∨ directory.endsWith "/" = true then directory ++ part
      else directory ++ "/" ++ part := by
  rw [joinPath, h.startsWith_eq_false]
  simp [Bool.or_eq_true]

/-- A joined part stands behind the parts of the directory. -/
theorem pathParts_joinPath : pathParts (joinPath directory part) = pathParts directory ++ [part] := by
  rw [joinPath_of_isPart directory h]
  split
  · rename_i hend
    rcases hend with rfl | hslash
    · rw [String.empty_append, pathParts_of_isPart h, pathParts_empty, List.nil_append]
    · obtain ⟨front, rfl⟩ := (endsWith_slash_iff _).mp hslash
      have hfront : pathParts (front ++ "/") = pathParts front := by
        simpa using pathParts_append_slash front ""
      rw [pathParts_append_slash, pathParts_of_isPart h, hfront]
  · rw [pathParts_append_slash, pathParts_of_isPart h]

/-- A joined part leaves where the look-up starts. -/
theorem startsWith_joinPath : (joinPath directory part).startsWith "/" = directory.startsWith "/" := by
  rw [joinPath_of_isPart directory h]
  by_cases hempty : directory = ""
  · subst hempty
    simp [h.startsWith_eq_false]
  · split
    · exact startsWith_append_of_ne_empty hempty part
    · rw [String.append_assoc]
      exact startsWith_append_of_ne_empty hempty _

/-- A joined part ends in no slash. -/
theorem endsWith_joinPath : (joinPath directory part).endsWith "/" = false := by
  rw [joinPath_of_isPart directory h]
  split
  · exact h.endsWith_append_eq_false directory
  · exact h.endsWith_append_eq_false (directory ++ "/")

end JoinPath

namespace Path

/-- The slashes at the start of a path are none, one or two. -/
def IsAnchored (p : Path) : Prop :=
  p.anchor = "" ∨ p.anchor = "/" ∨ p.anchor = "//"

/-- A path that is read from a text is anchored. -/
theorem isAnchored_ofText (text : String) : (ofText text).IsAnchored := by
  unfold IsAnchored ofText anchorOf
  split <;> simp

/-- A path below an anchored one is anchored. -/
theorem IsAnchored.join {p q : Path} (hp : p.IsAnchored) (hq : q.IsAnchored) :
    (p.join q).IsAnchored := by
  unfold Path.join
  split
  · exact hp
  · exact hq

/-- The normal form of a part other than the point is the part. -/
theorem ofText_of_isPart {part : String} (h : IsPart part) (hpoint : part ≠ ".") :
    ofText part = { anchor := "", parts := [part] } := by
  have hanchor : anchorOf part = "" := by
    obtain ⟨c, rest, hlist⟩ := List.exists_cons_of_ne_nil
      fun hnil : part.toList = [] => h.1 (String.toList_eq_nil_iff.mp hnil)
    have hc : c ≠ '/' := by
      rintro rfl
      exact h.2 (hlist ▸ List.mem_cons_self)
    unfold anchorOf
    rw [hlist]
    split <;> simp_all
  rw [ofText, hanchor, pathParts_of_isPart h]
  simp [hpoint]

/-- A part below a path: a slash is added unless the path has no parts. -/
theorem toText_join_part {p : Path} {part : String} :
    (p.join { anchor := "", parts := [part] }).toText =
      if p.parts = [] then p.anchor ++ part else p.toText ++ "/" ++ part := by
  have hjoin : p.join { anchor := "", parts := [part] } =
      { p with parts := p.parts ++ [part] } := rfl
  rw [hjoin]
  split
  · rename_i hnil
    simp [toText, hnil]
  · rename_i hparts
    simp [toText, hparts, String.intercalate_append_of_ne_nil, String.append_assoc]

end Path

end Registrar
