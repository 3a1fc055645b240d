import Mathlib.Data.List.Forall2

/-!
# Computations that can fail

How a chain of computations, or one over a list, comes to succeed.
-/

namespace Except

variable {ε ε' α β : Type}

@[simp] theorem ok_bind (a : α) (f : α → Except ε β) : (Except.ok a >>= f) = f a := rfl

@[simp] theorem error_bind (e : ε) (f : α → Except ε β) :
    (Except.error e >>= f) = Except.error e := rfl

@[simp] theorem pure_eq_ok_iff (a b : α) : (pure a : Except ε α) = Except.ok b ↔ a = b :=
  ⟨Except.ok.inj, fun h => h ▸ rfl⟩

@[simp] theorem mapError_ok (f : ε → ε') (a : α) :
    (Except.ok a : Except ε α).mapError f = Except.ok a := rfl

@[simp] theorem mapError_error (f : ε → ε') (e : ε) :
    (Except.error e : Except ε α).mapError f = Except.error (f e) := rfl

/-- A chain succeeds when both of its parts do. -/
theorem bind_eq_ok_iff (x : Except ε α) (f : α → Except ε β) (b : β) :
    (x >>= f) = Except.ok b ↔ ∃ a, x = Except.ok a ∧ f a = Except.ok b := by
  cases x with
  | error e => simp
  | ok a => simp

/-- A chain fails where its first part does, or else where the second does. -/
theorem bind_eq_error_iff (x : Except ε α) (f : α → Except ε β) (e : ε) :
    (x >>= f) = Except.error e ↔
      x = Except.error e ∨ ∃ a, x = Except.ok a ∧ f a = Except.error e := by
  cases x with
  | error e' => simp
  | ok a => simp

/-- A renamed failure comes from a failure. -/
theorem mapError_eq_error_iff (f : ε → ε') (x : Except ε α) (e' : ε') :
    x.mapError f = Except.error e' ↔ ∃ e, x = Except.error e ∧ f e = e' := by
  cases x <;> simp

/-- A changed result comes from a result. -/
theorem map_eq_ok_iff (f : α → β) (x : Except ε α) (b : β) :
    x.map f = Except.ok b ↔ ∃ a, x = Except.ok a ∧ f a = b := by
  cases x <;> simp [Except.map]

/-- Renaming failures makes none and hides none. -/
theorem mapError_eq_ok_iff (f : ε → ε') (x : Except ε α) (a : α) :
    x.mapError f = Except.ok a ↔ x = Except.ok a := by
  cases x <;> simp

theorem toOption_eq_some_iff (x : Except ε α) (a : α) :
    x.toOption = some a ↔ x = Except.ok a := by
  cases x <;> simp [Except.toOption]

/-- A computation over a list succeeds when it does for every member. -/
theorem mapM_eq_ok_iff (f : α → Except ε β) (l : List α) (l' : List β) :
    l.mapM f = Except.ok l' ↔ List.Forall₂ (fun a b => f a = Except.ok b) l l' := by
  induction l generalizing l' with
  | nil =>
    rw [List.mapM_nil, List.forall₂_nil_left_iff]
    exact ⟨fun h => (Except.ok.inj h).symm, fun h => h ▸ rfl⟩
  | cons a rest ih =>
    rw [List.mapM_cons, bind_eq_ok_iff, List.forall₂_cons_left_iff]
    constructor
    · rintro ⟨b, hb, h⟩
      obtain ⟨bs, hbs, h⟩ := (bind_eq_ok_iff _ _ _).mp h
      exact ⟨b, bs, hb, (ih bs).mp hbs, (Except.ok.inj h).symm⟩
    · rintro ⟨b, bs, hb, hbs, rfl⟩
      exact ⟨b, hb, (bind_eq_ok_iff _ _ _).mpr ⟨bs, (ih bs).mpr hbs, rfl⟩⟩

/-- The results of a list are those of its members. -/
theorem mem_of_mapM_eq_ok {f : α → Except ε β} {l : List α} {l' : List β}
    (h : l.mapM f = Except.ok l') :
    (∀ a ∈ l, ∃ b ∈ l', f a = Except.ok b) ∧ ∀ b ∈ l', ∃ a ∈ l, f a = Except.ok b := by
  rw [mapM_eq_ok_iff] at h
  induction h with
  | nil => simp
  | @cons a b l l' hab _ ih =>
    constructor
    · rw [List.forall_mem_cons]
      refine ⟨⟨b, List.mem_cons_self, hab⟩, fun x hx => ?_⟩
      obtain ⟨y, hy, hxy⟩ := ih.1 x hx
      exact ⟨y, List.mem_cons_of_mem _ hy, hxy⟩
    · rw [List.forall_mem_cons]
      refine ⟨⟨a, List.mem_cons_self, hab⟩, fun y hy => ?_⟩
      obtain ⟨x, hx, hxy⟩ := ih.2 y hy
      exact ⟨x, List.mem_cons_of_mem _ hx, hxy⟩

/-- Computations that agree on the members of a list agree on the list. -/
theorem mapM_congr {f g : α → Except ε β} {l : List α} (h : ∀ a ∈ l, f a = g a) :
    l.mapM f = l.mapM g := by
  induction l with
  | nil => rfl
  | cons a rest ih =>
    obtain ⟨ha, hrest⟩ := List.forall_mem_cons.mp h
    rw [List.mapM_cons, List.mapM_cons, ha, ih hrest]

/-- A computation over a list fails with the failure of the first member that has no result. -/
theorem mapM_eq_error_iff (f : α → Except ε β) (l : List α) (e : ε) :
    l.mapM f = Except.error e ↔ ∃ front a back, l = front ++ a :: back ∧
      (∀ x ∈ front, ∃ b, f x = Except.ok b) ∧ f a = Except.error e := by
  induction l with
  | nil =>
    refine iff_of_false nofun ?_
    rintro ⟨front, a, back, h, -⟩
    exact List.append_ne_nil_of_right_ne_nil front (List.cons_ne_nil a back) h.symm
  | cons a rest ih =>
    rw [List.mapM_cons, bind_eq_error_iff]
    constructor
    · rintro (ha | ⟨b, hb, h⟩)
      · exact ⟨[], a, rest, rfl, by simp, ha⟩
      · rcases (bind_eq_error_iff _ _ _).mp h with h | ⟨bs, -, h⟩
        · obtain ⟨front, x, back, rfl, hfront, hx⟩ := ih.mp h
          exact ⟨a :: front, x, back, rfl, List.forall_mem_cons.mpr ⟨⟨b, hb⟩, hfront⟩, hx⟩
        · cases h
    · rintro ⟨front, x, back, h, hfront, hx⟩
      cases front with
      | nil =>
        obtain ⟨rfl, rfl⟩ := List.cons.inj h
        exact .inl hx
      | cons _ front =>
        obtain ⟨rfl, rfl⟩ := List.cons.inj h
        obtain ⟨⟨b, hb⟩, hfront⟩ := List.forall_mem_cons.mp hfront
        have hrest := ih.mpr ⟨front, x, back, rfl, hfront, hx⟩
        exact .inr ⟨b, hb, (bind_eq_error_iff _ _ _).mpr (.inl hrest)⟩

/-- A computation over a list fails with the failure of a member. -/
theorem exists_mem_of_mapM_eq_error {f : α → Except ε β} {l : List α} {e : ε}
    (h : l.mapM f = Except.error e) : ∃ a ∈ l, f a = Except.error e := by
  obtain ⟨front, a, back, rfl, -, ha⟩ := (mapM_eq_error_iff f l e).mp h
  exact ⟨a, List.mem_append_right front List.mem_cons_self, ha⟩

/-- If every member has a result, so has the list. -/
theorem exists_mapM_eq_ok (f : α → Except ε β) (l : List α)
    (h : ∀ a ∈ l, ∃ b, f a = Except.ok b) : ∃ l', l.mapM f = Except.ok l' := by
  induction l with
  | nil => exact ⟨[], rfl⟩
  | cons a rest ih =>
    obtain ⟨b, hb⟩ := h a List.mem_cons_self
    obtain ⟨bs, hbs⟩ := ih fun x hx => h x (List.mem_cons_of_mem _ hx)
    refine ⟨b :: bs, ?_⟩
    rw [List.mapM_cons, hb, hbs]
    rfl

/-- Members whose results are filtered out can be left out of a list if they do not fail. -/
theorem mapM_filter_map_filter {f : α → Except ε β} {keep : α → Bool} {p : β → Bool} {l : List α}
    (h : ∀ a ∈ l, keep a = false → ∃ b, f a = .ok b ∧ p b = false) :
    ((l.filter keep).mapM f).map (List.filter p) = (l.mapM f).map (List.filter p) := by
  induction l with
  | nil => rfl
  | cons a rest ih =>
    obtain ⟨ha, hrest⟩ := List.forall_mem_cons.mp h
    have ih := ih hrest
    rw [List.mapM_cons]
    cases hkeep : keep a with
    | false =>
      obtain ⟨b, hb, hp⟩ := ha hkeep
      rw [List.filter_cons_of_neg (by simp [hkeep]), ih, hb]
      cases rest.mapM f with
      | error e => rfl
      | ok bs => simp [Except.map, hp]
    | true =>
      rw [List.filter_cons_of_pos hkeep, List.mapM_cons]
      cases f a with
      | error e => rfl
      | ok b =>
        revert ih
        cases (rest.filter keep).mapM f <;> cases rest.mapM f <;>
          simp +contextual [Except.map, List.filter_cons, pure, Except.pure]

end Except
