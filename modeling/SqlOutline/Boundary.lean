import SqlOutline.Keyword
import SqlOutline.Placeholder

/-!
Keywords in a text whose literals are hidden behind placeholders.

Here a word breaks at the ends of the text, at any character that is no word character, and at any
placeholder, so that a keyword may touch a placeholder on either side. Of all breaks with the keyword
behind them the one that starts first decides.
-/

namespace SqlOutline
open Unicode

/-- Reads the break at the front of a text: one character that is no word character, or one
placeholder of `tag`, whose letters may differ in case. -/
def readBreak (tag : Text) : Reader
  | [] => none
  | c :: t =>
    if isWordChar c then
      (Placeholder.read? sameLetter tag (c :: t)).map fun r => (r.spelling, r.rest)
    else some ([c], t)

/-- Whether a word breaks in front of `t`. -/
def breaksWord (tag t : Text) : Bool := t.isEmpty || (readBreak tag t).isSome

theorem readBreak_faithful (tag : Text) : (readBreak tag).Faithful := by
  intro t a b h
  cases t with
  | nil => simp [readBreak] at h
  | cons c t =>
    rw [readBreak] at h
    split at h
    · obtain ⟨r, hr, he⟩ := Option.map_eq_some_iff.mp h
      obtain ⟨rfl, rfl⟩ : r.spelling = a ∧ r.rest = b := by simpa using he
      exact Placeholder.spelling_append_rest hr
    · obtain ⟨rfl, rfl⟩ : [c] = a ∧ t = b := by simpa using h
      rfl

namespace Keyword

/-- Reads the keyword where a word breaks after it. -/
def readBounded (k : Keyword) (tag : Text) : Reader := k.read.upTo (breaksWord tag)

theorem readBounded_faithful (k : Keyword) (tag : Text) : (k.readBounded tag).Faithful :=
  Reader.upTo_faithful k.read_faithful (breaksWord tag)

/-- The keyword behind the break at the front of `t`. -/
def behindBreak? (k : Keyword) (tag t : Text) : Option Occurrence := do
  let (gap, t) ← readBreak tag t
  let (found, after) ← k.readBounded tag t
  return ⟨gap, found, after⟩

/-- The keyword behind the first break of `t` that has it behind it. -/
def findBehindBreak? (k : Keyword) (tag : Text) : Text → Option Occurrence
  | [] => none
  | c :: t =>
    match k.behindBreak? tag (c :: t) with
    | some o => some o
    | none => (k.findBehindBreak? tag t).map (·.behind [c])

/-- The first bounded occurrence of the keyword in `t`: at the very start, or behind a break. -/
def find? (k : Keyword) (tag t : Text) : Option Occurrence :=
  match k.readBounded tag t with
  | some (found, after) => some ⟨[], found, after⟩
  | none => k.findBehindBreak? tag t

/-- Whether the keyword has a bounded occurrence in `t`. -/
def occursIn (k : Keyword) (tag t : Text) : Bool := (k.find? tag t).isSome

theorem text_of_behindBreak? {k : Keyword} {tag t : Text} {o : Occurrence}
    (h : k.behindBreak? tag t = some o) : o.text = t := by
  simp only [behindBreak?, Option.bind_eq_bind, Option.bind_eq_some_iff, Option.pure_def,
    Option.some.injEq, Prod.exists] at h
  obtain ⟨gap, t', hg, found, after, hk, rfl⟩ := h
  rw [Occurrence.text, List.append_assoc, k.readBounded_faithful tag hk, readBreak_faithful tag hg]

theorem text_of_findBehindBreak? {k : Keyword} {tag t : Text} {o : Occurrence}
    (h : k.findBehindBreak? tag t = some o) : o.text = t := by
  induction t generalizing o with
  | nil => simp [findBehindBreak?] at h
  | cons c t ih =>
    rw [findBehindBreak?] at h
    split at h
    · obtain rfl : _ = o := by simpa using h
      exact text_of_behindBreak? (by assumption)
    · obtain ⟨o', ho, rfl⟩ := Option.map_eq_some_iff.mp h
      simp [ih ho]

/-- An occurrence splits the text that was searched. -/
theorem text_of_find? {k : Keyword} {tag t : Text} {o : Occurrence} (h : k.find? tag t = some o) :
    o.text = t := by
  rw [find?] at h
  split at h
  · obtain rfl : _ = o := by simpa using h
    exact k.readBounded_faithful tag (by assumption)
  · exact text_of_findBehindBreak? h

end Keyword
end SqlOutline
