import Mathlib.Data.List.Nodup
import SqlOutline.Literal.Store

/-!
The entries of a store, by their placeholders.

Placeholders with different numbers are different texts. So the entries are a table in which a
placeholder has at most one literal.
-/

namespace SqlOutline

/-- In a table without repeated keys a look-up gives the one entry of its key. -/
theorem lookup_eq_some_iff_mem {α β : Type} [BEq α] [LawfulBEq α] {es : List (α × β)}
    (h : (es.map (·.1)).Nodup) {a : α} {b : β} : es.lookup a = some b ↔ (a, b) ∈ es := by
  induction es with
  | nil => simp
  | cons e es ih =>
    obtain ⟨a', b'⟩ := e
    obtain ⟨ha', hes⟩ := List.nodup_cons.mp h
    rw [List.lookup_cons, List.mem_cons, Prod.mk.injEq]
    by_cases hkey : a = a'
    · subst hkey
      have hno : (a, b) ∉ es := fun hin => ha' (List.mem_map.mpr ⟨(a, b), hin, rfl⟩)
      simp [hno, eq_comm]
    · have hne : (a == a') = false := by simpa using hkey
      simp [hkey, hne, ih hes]

/-- The number of a placeholder can be read off its text. -/
theorem Placeholder.text_injective (tag : Text) : Function.Injective (Placeholder.text tag) := by
  intro i j h
  simp only [Placeholder.text, List.append_assoc] at h
  have hrest := List.append_cancel_left (List.append_cancel_left h)
  have hdigits : Nat.toDigits 10 i = Nat.toDigits 10 j := List.append_cancel_right hrest
  apply Option.some.inj
  rw [← Placeholder.number?_toDigits i, hdigits, Placeholder.number?_toDigits]

namespace LiteralStore
variable {s : LiteralStore}

theorem getElem?_entries (s : LiteralStore) (i : Nat) :
    s.entries[i]? = s.names[i]?.map fun l => (s.placeholder i, l) := by
  simp [entries, Function.comp_def]

theorem mem_entries_iff {p l : Text} :
    (p, l) ∈ s.entries ↔ ∃ i, s.placeholder i = p ∧ s.names[i]? = some l := by
  simp only [List.mem_iff_getElem?, getElem?_entries, Option.map_eq_some_iff, Prod.mk.injEq]
  constructor
  · rintro ⟨i, l, hl, hp, rfl⟩
    exact ⟨i, hp, hl⟩
  · rintro ⟨i, hp, hl⟩
    exact ⟨i, l, hl, hp, rfl⟩

/-- No two entries have one placeholder. -/
theorem nodup_entries (s : LiteralStore) : (s.entries.map (·.1)).Nodup := by
  have hkeys : s.entries.map (·.1) = (s.names.zipIdx.map Prod.snd).map s.placeholder := by
    rw [entries, List.map_map, List.map_map]
    rfl
  rw [hkeys, List.zipIdx_map_snd]
  exact List.Nodup.map (Placeholder.text_injective s.tag) List.nodup_range'

end LiteralStore
end SqlOutline
