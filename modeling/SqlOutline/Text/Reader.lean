import SqlOutline.Text.Basic

/-!
Readers split a part off the front of a text, or refuse the text.

Every reader here is faithful: the part read and the part left append to the text they came from.
-/

namespace SqlOutline

/-- What a reader answers: the part read, then what is left. -/
abbrev Reader := Text → Option (Text × Text)

namespace Reader

/-- What is read and what is left make up the text. -/
def Faithful (r : Reader) : Prop :=
  ∀ ⦃t a b : Text⦄, r t = some (a, b) → a ++ b = t

/-- Reads the letters of `w`, compared by `same`. -/
def letters (same : Char → Char → Bool) : Text → Reader
  | [], t => some ([], t)
  | _ :: _, [] => none
  | l :: w, c :: t => if same l c then (letters same w t).map fun (a, b) => (c :: a, b) else none

/-- Reads the longest run of characters that satisfy `p`; it may not be empty. -/
def run (p : Char → Bool) : Reader := fun t =>
  if t.head?.any p then some (t.takeWhile p, t.dropWhile p) else none

/-- Reads with `r`, then with `s`. -/
def andThen (r s : Reader) : Reader := fun t => do
  let (a, t) ← r t
  let (b, t) ← s t
  return (a ++ b, t)

/-- Reads with the first of `rs` that accepts the text. -/
def firstOf (rs : List Reader) : Reader := fun t => rs.findSome? (· t)

/-- Reads with `r`, provided that what is left satisfies `ok`. -/
def upTo (r : Reader) (ok : Text → Bool) : Reader := fun t => (r t).filter fun (_, b) => ok b

theorem letters_faithful (same : Char → Char → Bool) (w : Text) : (letters same w).Faithful := by
  induction w with
  | nil =>
    intro t a b h
    obtain ⟨rfl, rfl⟩ : [] = a ∧ t = b := by simpa [letters] using h
    rfl
  | cons l w ih =>
    intro t a b h
    cases t with
    | nil => simp [letters] at h
    | cons c t =>
      rw [letters] at h
      split at h
      · obtain ⟨⟨a', b'⟩, ht, he⟩ := Option.map_eq_some_iff.mp h
        obtain ⟨rfl, rfl⟩ : c :: a' = a ∧ b' = b := by simpa using he
        simp [ih ht]
      · simp at h

theorem run_faithful (p : Char → Bool) : (run p).Faithful := by
  intro t a b h
  rw [run] at h
  split at h
  · obtain ⟨rfl, rfl⟩ : t.takeWhile p = a ∧ t.dropWhile p = b := by simpa using h
    exact List.takeWhile_append_dropWhile
  · simp at h

theorem run_ne_nil {p : Char → Bool} {t a b : Text} (h : run p t = some (a, b)) : a ≠ [] := by
  rw [run] at h
  split at h
  · obtain ⟨rfl, -⟩ : t.takeWhile p = a ∧ t.dropWhile p = b := by simpa using h
    cases t with
    | nil => simp_all
    | cons c t => simp_all
  · simp at h

theorem andThen_faithful {r s : Reader} (hr : r.Faithful) (hs : s.Faithful) :
    (r.andThen s).Faithful := by
  intro t a b h
  simp only [andThen, Option.bind_eq_bind, Option.bind_eq_some_iff, Option.pure_def,
    Option.some.injEq, Prod.mk.injEq, Prod.exists] at h
  obtain ⟨a₁, t₁, h₁, a₂, t₂, h₂, rfl, rfl⟩ := h
  rw [List.append_assoc, hs h₂, hr h₁]

theorem firstOf_faithful {rs : List Reader} (h : ∀ r ∈ rs, r.Faithful) :
    (firstOf rs).Faithful := by
  intro t a b ht
  obtain ⟨r, hr, hrt⟩ := List.exists_of_findSome?_eq_some ht
  exact h r hr hrt

theorem upTo_faithful {r : Reader} (hr : r.Faithful) (ok : Text → Bool) :
    (r.upTo ok).Faithful := by
  intro t a b h
  exact hr (Option.filter_eq_some_iff.mp h).1

/-- What a faithful reader leaves is no longer than the text. -/
theorem Faithful.length_le {r : Reader} (hr : r.Faithful) {t a b : Text} (h : r t = some (a, b)) :
    b.length ≤ t.length := by
  simp [← hr h]

end Reader
end SqlOutline
