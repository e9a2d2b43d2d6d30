import SqlOutline.Text.Reader
import SqlOutline.Unicode.Word

/-!
Placeholders stand for the quoted names taken out of a text.

A placeholder is written as two low lines, a tag chosen by the caller, a number, and two low lines
again. Reading allows digits of any script in the number; only a number in ASCII digits names
anything.
-/

namespace SqlOutline.Placeholder
open Unicode

/-- The two low lines at each end of a placeholder. -/
def rail : Text := ['_', '_']

/-- The tag when the caller names none. -/
def defaultTag : Text := "ref".toList

/-- The placeholder numbered `i`. -/
def text (tag : Text) (i : Nat) : Text := rail ++ tag ++ Nat.toDigits 10 i ++ rail

/-- A placeholder read off the front of a text: its spelling, the digits in it, what is left. -/
structure Reading where
  spelling : Text
  digits : Text
  rest : Text
  deriving DecidableEq, Repr

/-- Reads a placeholder; the letters of its tag are compared by `same`. -/
def read? (same : Char → Char → Bool) (tag t : Text) : Option Reading := do
  let (opening, t) ← Reader.letters same (rail ++ tag) t
  let (digits, t) ← Reader.run isDecimalDigit t
  let (closing, t) ← Reader.letters same rail t
  return ⟨opening ++ digits ++ closing, digits, t⟩

/-- The number that `digits` writes, if all of them are ASCII digits. It may be of any size: a
number past the machine word names nothing, because no store is that long. -/
def number? (digits : Text) : Option Nat :=
  if digits.all Char.isDigit then some (Nat.ofDigitChars 10 digits 0) else none

theorem spelling_append_rest {same : Char → Char → Bool} {tag t : Text} {r : Reading}
    (h : read? same tag t = some r) : r.spelling ++ r.rest = t := by
  simp only [read?, Option.bind_eq_bind, Option.bind_eq_some_iff, Option.pure_def,
    Option.some.injEq, Prod.exists] at h
  obtain ⟨a, t₁, h₁, d, t₂, h₂, b, t₃, h₃, rfl⟩ := h
  rw [List.append_assoc, List.append_assoc, Reader.letters_faithful same rail h₃,
    Reader.run_faithful isDecimalDigit h₂, Reader.letters_faithful same _ h₁]

theorem spelling_ne_nil {same : Char → Char → Bool} {tag t : Text} {r : Reading}
    (h : read? same tag t = some r) : r.spelling ≠ [] := by
  simp only [read?, Option.bind_eq_bind, Option.bind_eq_some_iff, Option.pure_def,
    Option.some.injEq, Prod.exists] at h
  obtain ⟨a, t₁, -, d, t₂, h₂, b, t₃, -, rfl⟩ := h
  have hd := Reader.run_ne_nil h₂
  simp [hd]

/-- A placeholder takes at least one character off the text. -/
theorem rest_length_lt {same : Char → Char → Bool} {tag t : Text} {r : Reading}
    (h : read? same tag t = some r) : r.rest.length < t.length := by
  have hs := List.length_pos_iff.mpr (spelling_ne_nil h)
  rw [← spelling_append_rest h, List.length_append]
  omega

/-- A written number reads back. -/
@[simp] theorem number?_toDigits (i : Nat) : number? (Nat.toDigits 10 i) = some i := by
  have h : (Nat.toDigits 10 i).all Char.isDigit = true :=
    List.all_eq_true.mpr fun _ hc => Nat.isDigit_of_mem_toDigits (by decide) (by decide) hc
  simp [number?, h, Nat.ofDigitChars_toDigits]

end SqlOutline.Placeholder
