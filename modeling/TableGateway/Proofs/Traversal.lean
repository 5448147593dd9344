import Mathlib.Data.List.Forall2

/-! # Walks that stop at the first fault

A walk through a list does something with one item after the other and collects the results. It ends at the
first item that something is wrong with, and the fault of that item is the fault of the walk.

* `bind_eq_ok_iff` : two steps succeed if both do
* `Stops` : the first fault of a walk
* `mapM_eq_ok_iff`, `mapM_eq_error_iff` : a walk collects all results, or it stops -/

namespace TableGateway

variable {α β ε : Type}

/-! ### One step after another -/

theorem bind_eq_ok_iff {x : Except ε α} {f : α → Except ε β} {b : β} :
    x.bind f = .ok b ↔ ∃ a, x = .ok a ∧ f a = .ok b := by
  cases x <;> simp [Except.bind]

theorem map_eq_ok_iff (x : Except ε α) (f : α → β) (b : β) :
    x.map f = .ok b ↔ ∃ a, x = .ok a ∧ b = f a := by
  cases x <;> simp [Except.map, eq_comm]

theorem map_eq_error_iff (x : Except ε α) (f : α → β) (e : ε) : x.map f = .error e ↔ x = .error e := by
  cases x <;> simp [Except.map]

theorem mapError_map_eq_ok_iff {ε' : Type} (x : Except ε α) (f : α → β) (g : ε → ε') (b : β) :
    (x.map f).mapError g = .ok b ↔ ∃ a, x = .ok a ∧ b = f a := by
  rw [← map_eq_ok_iff]
  cases x <;> simp [Except.map, Except.mapError]

/-! ### Corresponding items -/

section

variable {R : α → β → Prop}

theorem exists_mem_of_forall₂ {xs : List α} {ys : List β} (h : List.Forall₂ R xs ys) :
    ∀ x ∈ xs, ∃ y ∈ ys, R x y := by
  induction h with
  | nil => exact nofun
  | @cons x y xs ys hxy _ ih =>
    intro x' hx'
    rcases List.mem_cons.mp hx' with rfl | hx'
    · exact ⟨y, List.mem_cons_self, hxy⟩
    · obtain ⟨y', hy', hxy'⟩ := ih x' hx'
      exact ⟨y', List.mem_cons_of_mem y hy', hxy'⟩

theorem exists_forall₂_of_forall : ∀ {xs : List α}, (∀ x ∈ xs, ∃ y, R x y) → ∃ ys, List.Forall₂ R xs ys
  | [], _ => ⟨[], .nil⟩
  | x :: xs, h => by
    obtain ⟨y, hy⟩ := h x List.mem_cons_self
    obtain ⟨ys, hys⟩ := exists_forall₂_of_forall fun x hx => h x (List.mem_cons_of_mem _ hx)
    exact ⟨y :: ys, .cons hy hys⟩

theorem exists_append_of_forall₂ {xs' : List α} : ∀ {xs : List α} {ys : List β},
    List.Forall₂ R (xs ++ xs') ys → ∃ zs zs', ys = zs ++ zs' ∧ List.Forall₂ R xs zs ∧ List.Forall₂ R xs' zs'
  | [], ys, h => ⟨[], ys, rfl, .nil, h⟩
  | _ :: _, _, .cons hx h => by
    obtain ⟨zs, zs', rfl, hxs, hxs'⟩ := exists_append_of_forall₂ h
    exact ⟨_ :: zs, zs', rfl, .cons hx hxs, hxs'⟩

end

/-! ### Walks -/

/-- **A walk that stops with a fault**: there are results for all items before one, and for that one there is
the fault. -/
def Stops (f : α → Except ε β) (xs : List α) (e : ε) : Prop :=
  ∃ before x after, xs = before ++ x :: after ∧ (∀ b ∈ before, ∃ y, f b = .ok y) ∧ f x = .error e

variable {f : α → Except ε β} {x : α} {xs : List α} {e : ε}

theorem not_stops_nil : ¬ Stops f [] e := by
  rintro ⟨before, x, after, h, -⟩
  cases before <;> cases h

theorem stops_cons_iff : Stops f (x :: xs) e ↔ f x = .error e ∨ (∃ y, f x = .ok y) ∧ Stops f xs e := by
  constructor
  · rintro ⟨before, x', after, h, hbefore, hx⟩
    cases before with
    | nil =>
      obtain ⟨rfl, rfl⟩ := List.cons.inj h
      exact .inl hx
    | cons b before =>
      obtain ⟨rfl, rfl⟩ := List.cons.inj h
      exact .inr ⟨hbefore x List.mem_cons_self, before, x', after, rfl,
        fun b hb => hbefore b (List.mem_cons_of_mem _ hb), hx⟩
  · rintro (hx | ⟨hx, before, x', after, rfl, hbefore, hx'⟩)
    · exact ⟨[], x, xs, rfl, fun b hb => absurd hb List.not_mem_nil, hx⟩
    · refine ⟨x :: before, x', after, rfl, fun b hb => ?_, hx'⟩
      rcases List.mem_cons.mp hb with rfl | hb
      · exact hx
      · exact hbefore b hb

theorem mapM_cons_eq (f : α → Except ε β) (x : α) (xs : List α) :
    (x :: xs).mapM f = (f x).bind fun y => (xs.mapM f).map (y :: ·) := by
  rw [List.mapM_cons]
  rcases f x with e | y
  · rfl
  · rcases xs.mapM f with e | ys <;> rfl

/-- **A walk collects the results of all items, in order**, if each item has one. -/
theorem mapM_eq_ok_iff : ∀ {xs : List α} {ys : List β},
    xs.mapM f = .ok ys ↔ List.Forall₂ (fun x y => f x = .ok y) xs ys
  | [], ys => by
    rw [List.mapM_nil, List.forall₂_nil_left_iff]
    exact ⟨fun h => (Except.ok.inj h).symm, fun h => congrArg Except.ok h.symm⟩
  | x :: xs, ys => by
    rw [mapM_cons_eq, List.forall₂_cons_left_iff]
    simp only [← mapM_eq_ok_iff]
    rcases f x with e | y
    · simp [Except.bind]
    · rcases xs.mapM f with e | ys' <;> simp [Except.bind, Except.map, eq_comm]

/-- **A walk has the fault of the first item that has no result.** -/
theorem mapM_eq_error_iff : ∀ {xs : List α}, xs.mapM f = .error e ↔ Stops f xs e
  | [] => iff_of_false (fun h : Except.ok [] = Except.error e => nomatch h) not_stops_nil
  | x :: xs => by
    rw [mapM_cons_eq, stops_cons_iff, ← mapM_eq_error_iff]
    rcases f x with e' | y
    · simp [Except.bind]
    · rcases xs.mapM f with e' | ys <;> simp [Except.bind, Except.map]

theorem exists_mapM_eq_ok_iff {xs : List α} : (∃ ys, xs.mapM f = .ok ys) ↔ ∀ x ∈ xs, ∃ y, f x = .ok y := by
  constructor
  · rintro ⟨ys, h⟩ x hx
    obtain ⟨y, -, hy⟩ := exists_mem_of_forall₂ (mapM_eq_ok_iff.mp h) x hx
    exact ⟨y, hy⟩
  · intro h
    rcases hxs : xs.mapM f with e | ys
    · obtain ⟨before, x, after, rfl, -, hx⟩ := mapM_eq_error_iff.mp hxs
      obtain ⟨y, hy⟩ := h x (List.mem_append_right before List.mem_cons_self)
      rw [hx] at hy
      cases hy
    · exact ⟨ys, rfl⟩

theorem mapM_congr {g : α → Except ε β} : ∀ {xs : List α}, (∀ x ∈ xs, f x = g x) → xs.mapM f = xs.mapM g
  | [], _ => rfl
  | x :: xs, h => by
    rw [mapM_cons_eq, mapM_cons_eq, h x List.mem_cons_self,
      mapM_congr fun y hy => h y (List.mem_cons_of_mem x hy)]

end TableGateway
