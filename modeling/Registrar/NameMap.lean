/-!
# Finite maps keyed by names

The entries of a map stand in strictly increasing order of their names, compared by code point.
Order is therefore no property of how a map was built: two maps with the same entries are the
same list, and reading the keys needs no sorting.
-/

namespace Registrar

/-- A finite map from names, kept in the code-point order of the names. -/
structure NameMap (α : Type) where
  /-- The entries in order. -/
  entries : List (String × α)
  /-- Names increase strictly. -/
  ordered : entries.Pairwise fun a b => a.1 < b.1

namespace NameMap

variable {α : Type}

/-- Puts an entry in its place, over an earlier value of the same name. -/
def insertEntry (name : String) (value : α) : List (String × α) → List (String × α)
  | [] => [(name, value)]
  | e :: rest =>
    if name < e.1 then (name, value) :: e :: rest
    else if name = e.1 then (name, value) :: rest
    else e :: insertEntry name value rest

theorem mem_insertEntry {name : String} {value : α} {l : List (String × α)} {x : String × α}
    (h : x ∈ insertEntry name value l) : x = (name, value) ∨ x ∈ l := by
  induction l with
  | nil => simpa [insertEntry] using h
  | cons e rest ih =>
    unfold insertEntry at h
    split at h
    · simpa using h
    · split at h
      · rcases List.mem_cons.mp h with h | h
        · exact .inl h
        · exact .inr (List.mem_cons_of_mem _ h)
      · rcases List.mem_cons.mp h with h | h
        · exact .inr (h ▸ List.mem_cons_self)
        · exact (ih h).imp id (List.mem_cons_of_mem _)

/-- Inserting keeps the strict order. -/
theorem insertEntry_ordered (name : String) (value : α) {l : List (String × α)}
    (h : l.Pairwise fun a b => a.1 < b.1) :
    (insertEntry name value l).Pairwise fun a b => a.1 < b.1 := by
  induction l with
  | nil => simp [insertEntry]
  | cons e rest ih =>
    have hrest := List.pairwise_cons.mp h
    unfold insertEntry
    split
    · rename_i hlt
      refine List.pairwise_cons.mpr ⟨fun x hx => ?_, h⟩
      rcases List.mem_cons.mp hx with rfl | hx
      · exact hlt
      · exact String.lt_trans hlt (hrest.1 x hx)
    · split
      · rename_i heq
        exact List.pairwise_cons.mpr ⟨fun x hx => heq ▸ hrest.1 x hx, hrest.2⟩
      · rename_i hnlt hne
        refine List.pairwise_cons.mpr ⟨fun x hx => ?_, ih hrest.2⟩
        rcases mem_insertEntry hx with rfl | hx
        · rcases String.le_total e.1 name with hle | hle
          · exact Classical.byContradiction fun hn =>
              hne (String.le_antisymm (String.not_lt.mp hn) hle)
          · exact absurd (String.le_antisymm hle (String.not_lt.mp hnlt)) hne
        · exact hrest.1 x hx

/-- The map without entries. -/
def empty : NameMap α :=
  ⟨[], .nil⟩

/-- The map with a name bound to a value and all else unchanged. -/
def insert (m : NameMap α) (name : String) (value : α) : NameMap α :=
  ⟨insertEntry name value m.entries, insertEntry_ordered name value m.ordered⟩

/-- The map without a name. -/
def erase (m : NameMap α) (name : String) : NameMap α :=
  ⟨m.entries.filter fun e => e.1 ≠ name, m.ordered.filter _⟩

/-- The value of a name. -/
def get? (m : NameMap α) (name : String) : Option α :=
  (m.entries.find? fun e => e.1 = name).map Prod.snd

/-- The name has a value. -/
def contains (m : NameMap α) (name : String) : Bool :=
  m.entries.any fun e => e.1 = name

/-- The names in increasing order. -/
def keys (m : NameMap α) : List String :=
  m.entries.map Prod.fst

/-- The values in the order of their names. -/
def values (m : NameMap α) : List α :=
  m.entries.map Prod.snd

/-- The number of names. -/
def size (m : NameMap α) : Nat :=
  m.entries.length

/-- The map has no name. -/
def isEmpty (m : NameMap α) : Bool :=
  m.entries.isEmpty

end NameMap

/-- A finite set of names, kept in code-point order. -/
abbrev NameSet := NameMap Unit

namespace NameSet

/-- The set with one more name. -/
def add (s : NameSet) (name : String) : NameSet :=
  s.insert name ()

/-- The set with all the names of a list. -/
def addAll (s : NameSet) (names : List String) : NameSet :=
  names.foldl add s

/-- The set of the names of a list. -/
def ofList (names : List String) : NameSet :=
  addAll .empty names

end NameSet

/-- The distinct names of a list in code-point order. -/
def sortNames (names : List String) : List String :=
  (NameSet.ofList names).keys

end Registrar
