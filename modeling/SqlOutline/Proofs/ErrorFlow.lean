import Mathlib.Data.List.Forall2

/-!
How a failure passes through a computation.

A computation fails with the first failure of its steps. So one that succeeds has succeeded in each
of its steps, and two that fail alike so far go on to fail alike.
-/

namespace SqlOutline

section
variable {ε α β : Type}

theorem exists_of_map_ok {x : Except ε α} {f : α → β} {b : β} (h : x.map f = .ok b) :
    ∃ a, x = .ok a ∧ f a = b := by
  cases x with
  | error e => cases h
  | ok a => exact ⟨a, rfl, Except.ok.inj h⟩

theorem forall_of_map_ok {x : Except ε α} {f : α → β} {b : β} (h : x.map f = .ok b) :
    ∀ a, x = .ok a → f a = b := by
  rintro a rfl
  exact Except.ok.inj h

theorem exists_singleton_of_map_ok {x : Except ε (List α)} {f : α → β} {b : β}
    (h : x.map (·.map f) = .ok [b]) : ∃ a, x = .ok [a] ∧ f a = b := by
  obtain ⟨l, hl, hmap⟩ := exists_of_map_ok h
  obtain ⟨a, rfl, ha⟩ := List.map_eq_singleton_iff.mp hmap
  exact ⟨a, hl, ha⟩

theorem exists_of_bind_ok {x : Except ε α} {f : α → Except ε β} {b : β}
    (h : x >>= f = .ok b) : ∃ a, x = .ok a ∧ f a = .ok b := by
  cases x with
  | error e => cases h
  | ok a => exact ⟨a, rfl, h⟩

/-- What a step makes of each element stands in the list that all the steps give. -/
theorem forall₂_of_mapM_ok {f : α → Except ε β} {l : List α} {bs : List β}
    (h : l.mapM f = .ok bs) : List.Forall₂ (fun a b => f a = .ok b) l bs := by
  induction l generalizing bs with
  | nil =>
    obtain rfl := Except.ok.inj h
    exact .nil
  | cons a l ih =>
    rw [List.mapM_cons] at h
    obtain ⟨b, hb, hrest⟩ := exists_of_bind_ok h
    obtain ⟨cs, hcs, hbs⟩ := exists_of_bind_ok hrest
    obtain rfl := Except.ok.inj hbs
    exact .cons hb (ih hcs)

theorem mapError_eq_ok_iff {ε' : Type} {f : ε → ε'} {x : Except ε α} {a : α} :
    x.mapError f = .ok a ↔ x = .ok a := by
  cases x <;> simp [Except.mapError]

/-- What comes next keeps two computations alike that are alike up to what `f` shows of a
failure. -/
theorem mapError_bind_congr {ε' : Type} {f : ε → ε'} {x y : Except ε α}
    (h : x.mapError f = y.mapError f) (k : α → Except ε β) :
    (x >>= k).mapError f = (y >>= k).mapError f := by
  cases x with
  | error e =>
    cases y with
    | error e' => exact congrArg Except.error (Except.error.inj h)
    | ok b => cases h
  | ok a =>
    cases y with
    | error e' => cases h
    | ok b =>
      obtain rfl : a = b := Except.ok.inj h
      rfl

end

end SqlOutline
