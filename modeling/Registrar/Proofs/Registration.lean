import Mathlib.Data.List.Induction
import Registrar.Proofs.NameMap
import Registrar.Registry.Session

/-!
# What a session leaves in a registry

The first decorator that is applied for a key gives the key its item for good, whenever the decorator
was made and whatever is tried before and after. The keys stand in the order of these first
applications. A use that fails changes nothing, so what comes of the uses behind it is the same
without it.
-/

namespace Registrar.Registry

variable {α κ ε ι : Type}

/-! ## The history of a registry -/

/-- The keys for which decorators are made, in order. -/
def decoratorKeys (uses : List (Use α κ)) : List String :=
  uses.filterMap fun
    | .decorator key => some key
    | _ => none

theorem decoratorKeys_append (uses later : List (Use α κ)) :
    decoratorKeys (uses ++ later) = decoratorKeys uses ++ decoratorKeys later :=
  List.filterMap_append

/-- The use at a place applies a decorator for a key to an item. -/
def AppliesAt (uses : List (Use α κ)) (place : Nat) (key : String) (item : α) : Prop :=
  ∃ n, uses[place]? = some (.apply n item) ∧ (decoratorKeys (uses.take place))[n]? = some key

/-- The use at a place is the first that applies a decorator for a key, and does so to an item. -/
def IsFirstAt (uses : List (Use α κ)) (place : Nat) (key : String) (item : α) : Prop :=
  AppliesAt uses place key item ∧
    ∀ earlier < place, ∀ other, ¬ AppliesAt uses earlier key other

/-- Each place has one use, with one key and one item. -/
theorem AppliesAt.unique {uses : List (Use α κ)} {place : Nat} {key key' : String} {item item' : α}
    (h : AppliesAt uses place key item) (h' : AppliesAt uses place key' item') :
    key = key' ∧ item = item' := by
  obtain ⟨n, huse, hkey⟩ := h
  obtain ⟨n', huse', hkey'⟩ := h'
  have hsame : Use.apply n item = Use.apply n' item' :=
    Option.some.inj (huse.symm.trans huse')
  cases hsame
  exact ⟨Option.some.inj (hkey.symm.trans hkey'), rfl⟩

theorem AppliesAt.lt_length {uses : List (Use α κ)} {place : Nat} {key : String} {item : α}
    (h : AppliesAt uses place key item) : place < uses.length := by
  obtain ⟨n, huse, -⟩ := h
  exact (List.getElem?_eq_some_iff.mp huse).1

/-- A key has one first place. -/
theorem IsFirstAt.place_unique {uses : List (Use α κ)} {place place' : Nat} {key : String}
    {item item' : α} (h : IsFirstAt uses place key item) (h' : IsFirstAt uses place' key item') :
    place = place' := by
  rcases Nat.lt_trichotomy place place' with hlt | heq | hlt
  · exact absurd h.1 (h'.2 place hlt item)
  · exact heq
  · exact absurd h'.1 (h.2 place' hlt item')

/-- A key for which a decorator is applied has a first place. -/
theorem AppliesAt.exists_isFirstAt {uses : List (Use α κ)} {place : Nat} {key : String} {item : α}
    (h : AppliesAt uses place key item) : ∃ first item, IsFirstAt uses first key item := by
  classical
  have hsome : ∃ place item, AppliesAt uses place key item := ⟨place, item, h⟩
  obtain ⟨first, hfirst⟩ := Nat.find_spec hsome
  refine ⟨_, first, hfirst, fun earlier hlt other happlies => ?_⟩
  exact Nat.find_min hsome hlt ⟨other, happlies⟩

/-! ## One more use -/

/-- The earlier uses of a longer history are those of the shorter one. -/
theorem appliesAt_append_singleton_iff (uses : List (Use α κ)) (u : Use α κ) (place : Nat)
    (key : String) (item : α) :
    AppliesAt (uses ++ [u]) place key item ↔ AppliesAt uses place key item ∨
      place = uses.length ∧ ∃ n, u = .apply n item ∧ (decoratorKeys uses)[n]? = some key := by
  rcases Nat.lt_trichotomy place uses.length with hlt | rfl | hlt
  · have huse : (uses ++ [u])[place]? = uses[place]? := List.getElem?_append_left hlt
    have htake : (uses ++ [u]).take place = uses.take place :=
      List.take_append_of_le_length hlt.le
    rw [AppliesAt, huse, htake, or_iff_left fun h => hlt.ne h.1]
    rfl
  · have huse : (uses ++ [u])[uses.length]? = some u := by simp
    have htake : (uses ++ [u]).take uses.length = uses := by simp
    have hnone : ¬ AppliesAt uses uses.length key item := fun h => h.lt_length.false
    rw [AppliesAt, huse, htake, or_iff_right hnone]
    simp only [Option.some.injEq, true_and]
  · have hshort : (uses ++ [u]).length ≤ place := by
      rw [List.length_append]
      exact hlt
    refine iff_of_false (fun h => h.lt_length.not_ge hshort) ?_
    rintro (h | ⟨rfl, -⟩)
    · exact hlt.not_gt h.lt_length
    · exact hlt.false

/-- The last of some uses is the first application for a key if there was none before. -/
theorem isFirstAt_append_singleton_iff (uses : List (Use α κ)) (u : Use α κ) (place : Nat)
    (key : String) (item : α) :
    IsFirstAt (uses ++ [u]) place key item ↔ IsFirstAt uses place key item ∨
      place = uses.length ∧ (∃ n, u = .apply n item ∧ (decoratorKeys uses)[n]? = some key) ∧
        ∀ earlier other, ¬ AppliesAt uses earlier key other := by
  have hearlier : ∀ bound ≤ uses.length,
      (∀ earlier < bound, ∀ other, ¬ AppliesAt (uses ++ [u]) earlier key other) ↔
        ∀ earlier < bound, ∀ other, ¬ AppliesAt uses earlier key other := by
    intro bound hbound
    refine forall_congr' fun earlier => forall_congr' fun hlt => forall_congr' fun other => ?_
    rw [appliesAt_append_singleton_iff, or_iff_left fun h => (hlt.trans_le hbound).ne h.1]
  rw [IsFirstAt, appliesAt_append_singleton_iff, or_and_right]
  refine or_congr ?_ ?_
  · constructor
    · rintro ⟨happlies, hnone⟩
      exact ⟨happlies, (hearlier place happlies.lt_length.le).mp hnone⟩
    · rintro ⟨happlies, hnone⟩
      exact ⟨happlies, (hearlier place happlies.lt_length.le).mpr hnone⟩
  · constructor
    · rintro ⟨⟨rfl, hlast⟩, hnone⟩
      refine ⟨rfl, hlast, fun earlier other happlies => ?_⟩
      exact (hearlier _ le_rfl).mp hnone earlier happlies.lt_length other happlies
    · rintro ⟨rfl, hlast, hnone⟩
      exact ⟨⟨rfl, hlast⟩, (hearlier _ le_rfl).mpr fun earlier _ => hnone earlier⟩

/-! ## What a use does -/

namespace Session

/-- A session after some uses of a registry: its decorators are those that were made, and its entries
those of the first applications, in their order. -/
structure Follows (s : Session α) (name : String) (uses : List (Use α κ)) : Prop where
  /-- The registry keeps its name. -/
  name_eq : s.registry.name = name
  /-- The decorators are those that were made. -/
  decorators_eq : s.decorators = decoratorKeys uses
  /-- The first application for a key gives it its item. -/
  mem_iff : ∀ key item, (key, item) ∈ s.registry.entries ↔ ∃ place, IsFirstAt uses place key item
  /-- Entries stand in the order of the first applications. -/
  inOrder : s.registry.entries.Pairwise fun a b => ∃ i j, i < j ∧
    IsFirstAt uses i a.1 a.2 ∧ IsFirstAt uses j b.1 b.2

/-- A use makes one more decorator, or registers an item for a free key, or leaves the session as it
is; the last happens to an application only if its decorator was never made or its key is taken. -/
theorem next_cases (construct : α → κ → Except ε ι) (s : Session α) (u : Use α κ) :
    (∃ key, u = .decorator key ∧
      s.next construct u = { s with decorators := s.decorators ++ [key] }) ∨
    (∃ n item key, u = .apply n item ∧ s.decorators[n]? = some key ∧
      s.registry.find? key = none ∧
      s.next construct u =
        { s with registry := { s.registry with
            entries := s.registry.entries ++ [(key, item)] } }) ∨
    (s.next construct u = s ∧ (∀ key, u ≠ .decorator key) ∧
      ∀ n item key, u = .apply n item → s.decorators[n]? = some key →
        ∃ holder, s.registry.find? key = some holder) := by
  cases u with
  | decorator key => exact .inl ⟨key, rfl, rfl⟩
  | apply n item =>
    cases hdecorator : s.decorators[n]? with
    | none =>
      refine .inr (.inr ⟨?_, by simp, ?_⟩)
      · rw [next, step, hdecorator]
      · intro n' item' key h hkey
        cases h
        rw [hdecorator] at hkey
        cases hkey
    | some key =>
      cases hfind : s.registry.find? key with
      | none =>
        refine .inr (.inl ⟨n, item, key, rfl, hdecorator, hfind, ?_⟩)
        rw [next, step, hdecorator]
        simp only [register, hfind]
      | some holder =>
        refine .inr (.inr ⟨?_, by simp, ?_⟩)
        · rw [next, step, hdecorator]
          simp only [register, hfind]
        · intro n' item' key' h hkey
          cases h
          obtain rfl : key = key' := Option.some.inj (hdecorator.symm.trans hkey)
          exact ⟨holder, hfind⟩
  | get key =>
    refine .inr (.inr ⟨?_, by simp, by simp⟩)
    rw [next, step]
    split <;> rfl
  | create key arguments =>
    refine .inr (.inr ⟨?_, by simp, by simp⟩)
    rw [next, step]
    split <;> rfl
  | keys | contains | size => exact .inr (.inr ⟨rfl, by simp, by simp⟩)

theorem after_cons (construct : α → κ → Except ε ι) (s : Session α) (u : Use α κ)
    (later : List (Use α κ)) :
    s.after construct (u :: later) = (s.next construct u).after construct later := rfl

theorem after_append (construct : α → κ → Except ε ι) (s : Session α)
    (uses later : List (Use α κ)) :
    s.after construct (uses ++ later) = (s.after construct uses).after construct later :=
  List.foldl_append

/-- A use that fails leaves the session as it is. -/
theorem next_of_isFailure (construct : α → κ → Except ε ι) (s : Session α) (u : Use α κ)
    (h : (s.answer construct u).isFailure = true) : s.next construct u = s := by
  rcases next_cases construct s u with ⟨key, rfl, -⟩ | ⟨n, item, key, rfl, hkey, hfree, -⟩ |
    ⟨hnext, -⟩
  · cases h
  · rw [answer, step, hkey] at h
    simp [register, hfree, Answer.isFailure] at h
  · exact hnext

namespace Follows

variable {s : Session α} {name : String} {uses : List (Use α κ)}

/-- No key stands twice. -/
theorem keys_nodup (h : s.Follows name uses) : (s.registry.entries.map Prod.fst).Nodup := by
  rw [List.Nodup, List.pairwise_map]
  refine h.inOrder.imp ?_
  rintro a b ⟨i, j, hlt, ha, hb⟩ heq
  rw [heq] at ha
  exact hlt.ne (ha.place_unique hb)

/-- A key has the item of its first application. -/
theorem find?_eq_some_iff (h : s.Follows name uses) (key : String) (item : α) :
    s.registry.find? key = some item ↔ ∃ place, IsFirstAt uses place key item := by
  rw [find?, NameMap.find?_map_eq_some_iff h.keys_nodup, h.mem_iff]

/-- A key is free as long as no decorator is applied for it. -/
theorem find?_eq_none_iff (h : s.Follows name uses) (key : String) :
    s.registry.find? key = none ↔ ∀ place item, ¬ AppliesAt uses place key item := by
  rw [Option.eq_none_iff_forall_ne_some]
  constructor
  · intro hnone place item happlies
    obtain ⟨first, holder, hfirst⟩ := happlies.exists_isFirstAt
    exact hnone holder ((h.find?_eq_some_iff key holder).mpr ⟨first, hfirst⟩)
  · intro hnone item hitem
    obtain ⟨place, hfirst⟩ := (h.find?_eq_some_iff key item).mp hitem
    exact hnone place item hfirst.1

/-- What was first stays first. -/
theorem inOrder_append (h : s.Follows name uses) (u : Use α κ) :
    s.registry.entries.Pairwise fun a b => ∃ i j, i < j ∧
      IsFirstAt (uses ++ [u]) i a.1 a.2 ∧ IsFirstAt (uses ++ [u]) j b.1 b.2 := by
  refine h.inOrder.imp ?_
  rintro a b ⟨i, j, hlt, ha, hb⟩
  exact ⟨i, j, hlt, (isFirstAt_append_singleton_iff _ _ _ _ _).mpr (.inl ha),
    (isFirstAt_append_singleton_iff _ _ _ _ _).mpr (.inl hb)⟩

/-- The entries stay those of the first applications if no application is the first of its key. -/
theorem mem_iff_append (h : s.Follows name uses) {u : Use α κ}
    (hu : ∀ n item key, u = .apply n item → (decoratorKeys uses)[n]? = some key →
      ∃ place other, AppliesAt uses place key other) (key : String) (item : α) :
    (key, item) ∈ s.registry.entries ↔ ∃ place, IsFirstAt (uses ++ [u]) place key item := by
  rw [h.mem_iff]
  refine exists_congr fun place => ?_
  rw [isFirstAt_append_singleton_iff, or_iff_left]
  rintro ⟨-, ⟨n, rfl, hkey⟩, hnone⟩
  obtain ⟨earlier, other, happlies⟩ := hu n item key rfl hkey
  exact hnone earlier other happlies

/-- A session with one more decorator follows one more use. -/
theorem decorated (h : s.Follows name uses) (key : String) :
    Follows { s with decorators := s.decorators ++ [key] } name (uses ++ [.decorator key]) := by
  refine ⟨h.name_eq, ?_, h.mem_iff_append (by simp), h.inOrder_append _⟩
  rw [decoratorKeys_append, ← h.decorators_eq]
  rfl

/-- A session with an item for a free key follows one more use, which is the first that applies a
decorator for the key. -/
theorem registered (h : s.Follows name uses) {n : Nat} {key : String} (item : α)
    (hkey : s.decorators[n]? = some key) (hfree : s.registry.find? key = none) :
    Follows
      { s with registry := { s.registry with entries := s.registry.entries ++ [(key, item)] } }
      name (uses ++ [.apply n item]) := by
  have hnone := (h.find?_eq_none_iff key).mp hfree
  have hfirst : IsFirstAt (uses ++ [.apply n item]) uses.length key item := by
    rw [h.decorators_eq] at hkey
    exact (isFirstAt_append_singleton_iff _ _ _ _ _).mpr (.inr ⟨rfl, ⟨n, rfl, hkey⟩, hnone⟩)
  refine ⟨h.name_eq, ?_, fun key' item' => ?_, ?_⟩
  · rw [decoratorKeys_append, ← h.decorators_eq]
    exact (List.append_nil _).symm
  · rw [List.mem_append, List.mem_singleton, h.mem_iff]
    constructor
    · rintro (⟨place, hplace⟩ | heq)
      · exact ⟨place, (isFirstAt_append_singleton_iff _ _ _ _ _).mpr (.inl hplace)⟩
      · cases heq
        exact ⟨_, hfirst⟩
    · rintro ⟨place, hplace⟩
      rcases (isFirstAt_append_singleton_iff _ _ _ _ _).mp hplace with hold | ⟨rfl, -, -⟩
      · exact .inl ⟨place, hold⟩
      · obtain ⟨rfl, rfl⟩ := hplace.1.unique hfirst.1
        exact .inr rfl
  · rw [List.pairwise_append]
    refine ⟨h.inOrder_append _, List.pairwise_singleton _ _, fun a ha b hb => ?_⟩
    obtain rfl := List.mem_singleton.mp hb
    obtain ⟨place, hplace⟩ := (h.mem_iff a.1 a.2).mp ha
    exact ⟨place, uses.length, hplace.1.lt_length,
      (isFirstAt_append_singleton_iff _ _ _ _ _).mpr (.inl hplace), hfirst⟩

/-- The same session follows one more use that makes no decorator and applies none for a free key. -/
theorem unchanged (h : s.Follows name uses) {u : Use α κ} (hu : ∀ key, u ≠ .decorator key)
    (htaken : ∀ n item key, u = .apply n item → s.decorators[n]? = some key →
      ∃ holder, s.registry.find? key = some holder) :
    s.Follows name (uses ++ [u]) := by
  refine ⟨h.name_eq, ?_, h.mem_iff_append ?_, h.inOrder_append _⟩
  · have hnil : decoratorKeys [u] = [] := by
      cases u with
      | decorator key => exact absurd rfl (hu key)
      | apply | get | create | keys | contains | size => rfl
    rw [decoratorKeys_append, hnil, List.append_nil, h.decorators_eq]
  · intro n item key happly hkey
    rw [← h.decorators_eq] at hkey
    obtain ⟨holder, hholder⟩ := htaken n item key happly hkey
    obtain ⟨place, hplace⟩ := (h.find?_eq_some_iff key holder).mp hholder
    exact ⟨place, holder, hplace.1⟩

/-- One more use is followed by the session behind it. -/
theorem next (h : s.Follows name uses) (construct : α → κ → Except ε ι) (u : Use α κ) :
    (s.next construct u).Follows name (uses ++ [u]) := by
  rcases next_cases construct s u with ⟨key, rfl, hnext⟩ | ⟨n, item, key, rfl, hkey, hfree, hnext⟩ |
    ⟨hnext, hu, htaken⟩
  · rw [hnext]
    exact h.decorated key
  · rw [hnext]
    exact h.registered item hkey hfree
  · rw [hnext]
    exact h.unchanged hu htaken

end Follows

/-- A session that starts with an empty registry follows its uses. -/
theorem follows_after (construct : α → κ → Except ε ι) (name : String) (uses : List (Use α κ)) :
    ((opened name).after construct uses).Follows name uses := by
  induction uses using List.reverseRecOn with
  | nil =>
    refine ⟨rfl, rfl, fun key item => ?_, .nil⟩
    refine iff_of_false (List.not_mem_nil) ?_
    rintro ⟨place, hfirst⟩
    exact Nat.not_lt_zero place hfirst.1.lt_length
  | append_singleton uses u ih =>
    rw [after_append]
    exact ih.next construct u

/-! ## What comes of uses -/

section Answers

variable {s : Session α} {name : String} {uses : List (Use α κ)}
  (construct : α → κ → Except ε ι)

/-- The item of a key is found and makes instances, and no other item can be registered. -/
theorem Follows.answer_of_find? (h : s.Follows name uses) {key : String} {item : α}
    (hitem : s.registry.find? key = some item) :
    s.answer construct (.get key) = .item item ∧
      (∀ arguments, s.answer construct (.create key arguments) =
        .created (construct item arguments)) ∧
      ∀ n other, (decoratorKeys uses)[n]? = some key →
        s.answer construct (.apply n other) = .taken { registry := name, key, holder := item } := by
  have hget : s.registry.get key = .ok item := by rw [get, hitem]
  refine ⟨?_, fun arguments => ?_, fun n other hkey => ?_⟩
  · rw [answer, step, hget]
  · rw [answer, step, create, hget]
    rfl
  · rw [← h.decorators_eq] at hkey
    rw [answer, step, hkey]
    simp only [register, hitem, h.name_eq]

/-- A free key has no item, and one can be registered. -/
theorem Follows.answer_of_free (h : s.Follows name uses) {key : String}
    (hfree : s.registry.find? key = none) :
    s.answer construct (.get key) =
        .unknown { registry := name, key, available := sortNames s.registry.keys } ∧
      (∀ arguments, s.answer construct (.create key arguments) =
        .unknown { registry := name, key, available := sortNames s.registry.keys }) ∧
      ∀ n item, (decoratorKeys uses)[n]? = some key →
        s.answer construct (.apply n item) = .item item := by
  have hget : s.registry.get key =
      .error { registry := name, key, available := sortNames s.registry.keys } := by
    rw [get, hfree, h.name_eq]
  refine ⟨?_, fun arguments => ?_, fun n item hkey => ?_⟩
  · rw [answer, step, hget]
  · rw [answer, step, create, hget]
    rfl
  · rw [← h.decorators_eq] at hkey
    rw [answer, step, hkey]
    simp only [register, hfree]

theorem Follows.mem_keys_iff (h : s.Follows name uses) (key : String) :
    key ∈ s.registry.keys ↔ ∃ place item, AppliesAt uses place key item := by
  rw [keys, List.mem_map]
  constructor
  · rintro ⟨⟨_, item⟩, hentry, rfl⟩
    obtain ⟨place, hplace⟩ := (h.mem_iff _ item).mp hentry
    exact ⟨place, item, hplace.1⟩
  · rintro ⟨place, item, happlies⟩
    obtain ⟨first, holder, hfirst⟩ := happlies.exists_isFirstAt
    exact ⟨(key, holder), (h.mem_iff key holder).mpr ⟨first, hfirst⟩, rfl⟩

theorem Follows.find?_eq_none_iff_notMem (h : s.Follows name uses) (key : String) :
    s.registry.find? key = none ↔ key ∉ s.registry.keys := by
  rw [h.find?_eq_none_iff, h.mem_keys_iff]
  simp only [not_exists]

/-- The keys stand in the order of the first applications. -/
theorem Follows.keys_inOrder (h : s.Follows name uses) :
    s.registry.keys.Pairwise fun a b => ∃ i j x y, i < j ∧
      IsFirstAt uses i a x ∧ IsFirstAt uses j b y := by
  rw [keys, List.pairwise_map]
  refine h.inOrder.imp ?_
  rintro a b ⟨i, j, hlt, ha, hb⟩
  exact ⟨i, j, a.2, b.2, hlt, ha, hb⟩

theorem Follows.contains_eq (h : s.Follows name uses) (key : String) :
    s.registry.contains key = decide (key ∈ s.registry.keys) := by
  have hfree := h.find?_eq_none_iff_notMem key
  rw [contains, Bool.eq_iff_iff, Option.isSome_iff_ne_none, ne_eq, hfree, not_not, decide_eq_true_eq]

end Answers

/-- A use that fails can be left out of a history. -/
theorem outcome_append_of_isFailure (construct : α → κ → Except ε ι) (name : String)
    (uses : List (Use α κ)) (u : Use α κ)
    (h : (outcome construct name uses u).isFailure = true) (later : List (Use α κ)) (v : Use α κ) :
    outcome construct name (uses ++ u :: later) v = outcome construct name (uses ++ later) v := by
  have hsame : next construct ((opened name).after construct uses) u =
      (opened name).after construct uses := next_of_isFailure construct _ u h
  have hafter : (opened name).after construct (uses ++ u :: later) =
      (opened name).after construct (uses ++ later) := by
    rw [after_append, after_append, after_cons, hsame]
  rw [outcome, outcome, hafter]

/-- Behind any uses of a registry, a key that was applied for has the item of its first application,
which makes the instances, and any other application for it fails and names this item. The keys that
were applied for are listed in the order of their first applications, are the ones that are contained
and are counted; for any other key there is no item, which the message says with the keys in increasing
order, and an application succeeds. A decorator can always be made. What fails can be left out of the
history without a change in what comes of any use behind it. -/
theorem outcome_first_wins (construct : α → κ → Except ε ι) (label : α → String) (name : String)
    (uses : List (Use α κ)) :
    (∀ place key item, IsFirstAt uses place key item →
      outcome construct name uses (.get key) = .item item ∧
      (∀ arguments, outcome construct name uses (.create key arguments) =
        .created (construct item arguments)) ∧
      ∀ n other, (decoratorKeys uses)[n]? = some key →
        outcome construct name uses (.apply n other) =
          .taken { registry := name, key, holder := item } ∧
        (outcome construct name uses (.apply n other)).message? label =
          some (name ++ ": key '" ++ key ++ "' already registered to " ++ label item)) ∧
    (∃ keys available : List String,
      outcome construct name uses .keys = .names keys ∧
      (∀ key, key ∈ keys ↔ ∃ place item, AppliesAt uses place key item) ∧
      (keys.Pairwise fun a b => ∃ i j x y, i < j ∧ IsFirstAt uses i a x ∧ IsFirstAt uses j b y) ∧
      (∀ key, outcome construct name uses (.contains key) = .truth (decide (key ∈ keys))) ∧
      outcome construct name uses .size = .number keys.length ∧
      available.Pairwise (· < ·) ∧ (∀ key, key ∈ available ↔ key ∈ keys) ∧
      ∀ key, key ∉ keys →
        (∀ u, u = .get key ∨ (∃ arguments, u = .create key arguments) →
          outcome construct name uses u = .unknown { registry := name, key, available } ∧
          (outcome construct name uses u).message? label =
            some (name ++ ": unknown key '" ++ key ++ "'. Available: " ++
              ", ".intercalate available)) ∧
        ∀ n item, (decoratorKeys uses)[n]? = some key →
          outcome construct name uses (.apply n item) = .item item) ∧
    (∀ key, outcome construct name uses (.decorator key) = .made) ∧
    ∀ u, (outcome construct name uses u).isFailure = true → ∀ later v,
      outcome construct name (uses ++ u :: later) v = outcome construct name (uses ++ later) v := by
  have hfollows := follows_after construct name uses
  refine ⟨fun place key item hfirst => ?_, ?_, fun key => rfl,
    fun u hu => outcome_append_of_isFailure construct name uses u hu⟩
  · have hitem := (hfollows.find?_eq_some_iff key item).mpr ⟨place, hfirst⟩
    obtain ⟨hget, hcreate, happly⟩ := hfollows.answer_of_find? construct hitem
    refine ⟨hget, hcreate, fun n other hkey => ⟨happly n other hkey, ?_⟩⟩
    rw [outcome, happly n other hkey]
    rfl
  · refine ⟨_, sortNames ((opened name).after construct uses).registry.keys, rfl,
      hfollows.mem_keys_iff, hfollows.keys_inOrder, fun key => ?_, ?_, NameMap.keys_ordered _,
      NameSet.mem_keys_ofList _, fun key hkey => ?_⟩
    · exact congrArg Answer.truth (hfollows.contains_eq key)
    · exact congrArg Answer.number (List.length_map _).symm
    · have hfree := (hfollows.find?_eq_none_iff_notMem key).mpr hkey
      obtain ⟨hget, hcreate, happly⟩ := hfollows.answer_of_free construct hfree
      refine ⟨fun u hu => ?_, happly⟩
      have hunknown : outcome construct name uses u = .unknown
          { registry := name, key
            available := sortNames ((opened name).after construct uses).registry.keys } := by
        rcases hu with rfl | ⟨arguments, rfl⟩
        · exact hget
        · exact hcreate arguments
      refine ⟨hunknown, ?_⟩
      rw [hunknown]
      rfl

/-- Instances of items that only accept the number one. -/
def instanceOf (item : String) (argument : Nat) : Except String String :=
  if argument = 1 then .ok (item ++ "()") else .error "unexpected argument"

/-- Uses in which decorators are made before one of them is applied. Of two decorators for a key the
second is applied first, and the first one in vain. -/
def interleavedUses : List (Use String Nat) :=
  [.decorator "b", .decorator "a", .decorator "b", .apply 2 "First", .apply 0 "Second", .get "a",
    .apply 1 "Third", .create "b" 2]

/-- The first application for the key of two decorators. -/
theorem isFirstAt_interleavedUses : IsFirstAt interleavedUses 3 "b" "First" := by
  refine ⟨⟨2, rfl, rfl⟩, fun earlier hlt other => ?_⟩
  rintro ⟨n, huse, -⟩
  have hplace : earlier = 0 ∨ earlier = 1 ∨ earlier = 2 := by omega
  rcases hplace with rfl | rfl | rfl <;> cases huse

theorem outcome_first_wins_interleavedUses :
    IsFirstAt interleavedUses 3 "b" "First" ∧
      outcome instanceOf "renderer" interleavedUses (.get "b") = .item "First" ∧
      (decoratorKeys interleavedUses)[0]? = some "b" ∧
      (outcome instanceOf "renderer" interleavedUses (.apply 0 "Fourth")).message? id =
        some "renderer: key 'b' already registered to First" ∧
      outcome instanceOf "renderer" interleavedUses .keys = .names ["b", "a"] ∧
      "go" ∉ ["b", "a"] ∧
      (∃ available, outcome instanceOf "renderer" interleavedUses (.get "go") =
        .unknown { registry := "renderer", key := "go", available }) ∧
      (outcome instanceOf "renderer" interleavedUses (.create "b" 2)).isFailure = true ∧
      outcome instanceOf "renderer" (interleavedUses ++ [.create "b" 2, .apply 0 "Fourth"]) .size =
        outcome instanceOf "renderer" (interleavedUses ++ [.apply 0 "Fourth"]) .size := by
  obtain ⟨hfirst, ⟨keys, available, hkeys, -, -, -, -, -, -, hother⟩, -, hfails⟩ :=
    outcome_first_wins instanceOf id "renderer" interleavedUses
  obtain ⟨hget, -, happly⟩ := hfirst 3 "b" "First" isFirstAt_interleavedUses
  have hdecorator : (decoratorKeys interleavedUses)[0]? = some "b" := rfl
  have hlisted : outcome instanceOf "renderer" interleavedUses .keys = .names ["b", "a"] := rfl
  obtain rfl : ["b", "a"] = keys := by
    rw [hlisted] at hkeys
    exact Answer.names.inj hkeys
  have hfree : "go" ∉ ["b", "a"] := by decide
  have hunknown := (hother "go" hfree).1 (.get "go") (.inl rfl)
  have hfailure :
      (outcome instanceOf "renderer" interleavedUses (.create "b" 2)).isFailure = true := rfl
  refine ⟨isFirstAt_interleavedUses, hget, hdecorator, ?_, hlisted, hfree, ⟨available, hunknown.1⟩,
    hfailure, ?_⟩
  · exact (happly 0 "Fourth" hdecorator).2
  · exact hfails (.create "b" 2) hfailure [.apply 0 "Fourth"] .size

end Session

end Registrar.Registry
