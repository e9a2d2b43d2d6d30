import Mathlib.Data.List.Infix
import SqlOutline.Proofs.BoundedOccurrence
import SqlOutline.Query.Clause

/-!
Keywords searched for, by their offsets.

An occurrence is a span of the text between two offsets in UTF-8. The search returns the bounded
occurrence with the least first offset, and that offset alone tells which one it is
(`find?_first_occurrence`). A join found in this way has its kind in front whenever a word may start
before that.
-/

namespace SqlOutline
open Unicode Placeholder

namespace Text

theorem byteSize_pos {t : Text} (h : t ≠ []) : 0 < byteSize t := by
  obtain ⟨c, t, rfl⟩ := List.exists_cons_of_ne_nil h
  have hc := c.utf8Size_pos
  show 0 < c.utf8Size + byteSize t
  omega

/-- Of two fronts of one text the longer one has the greater size. -/
theorem length_le_of_byteSize_le {a b a' b' : Text} (ht : a ++ b = a' ++ b')
    (h : byteSize a ≤ byteSize a') : a.length ≤ a'.length := by
  by_contra hlt
  obtain ⟨u, rfl⟩ : a' <+: a :=
    List.prefix_of_prefix_length_le ⟨b', rfl⟩ ⟨b, ht⟩ (by omega)
  have hu : u ≠ [] := by
    intro hnil
    simp [hnil] at hlt
  have hpos := byteSize_pos hu
  rw [byteSize_append] at h
  omega

theorem byteSize_le_of_length_le {a b a' b' : Text} (ht : a ++ b = a' ++ b')
    (h : a.length ≤ a'.length) : byteSize a ≤ byteSize a' := by
  obtain ⟨u, rfl⟩ : a <+: a' := List.prefix_of_prefix_length_le ⟨b, ht⟩ ⟨b', rfl⟩ h
  rw [byteSize_append]
  omega

end Text

namespace Occurrence

theorem text_eq (o : Occurrence) : o.before ++ (o.found ++ o.after) = o.text := by
  simp [text]

/-- Offsets order the occurrences in one text as the numbers of characters before them do. -/
theorem start_le_iff {o o' : Occurrence} (ht : o.text = o'.text) :
    o.start ≤ o'.start ↔ o.before.length ≤ o'.before.length := by
  rw [← text_eq, ← text_eq] at ht
  exact ⟨Text.length_le_of_byteSize_le ht, Text.byteSize_le_of_length_le ht⟩

end Occurrence

/-- The keyword has a bounded occurrence at `o`, which is a span of the text `t`. -/
structure OccursAt (k : Keyword) (tag t : Text) (o : Occurrence) : Prop where
  text : o.text = t
  bounded : Bounded k tag o

/-- The keywords that are searched for: those of the clauses, and single words. -/
inductive Keyword.Searched : Keyword → Prop
  | clause (c : Clause) : Searched c.keyword
  | word {w : Text} (hne : w ≠ []) (hw : ∀ l ∈ w, l.isAlpha = true) : Searched (.ofWord w)

theorem Keyword.Searched.plain {k : Keyword} (h : k.Searched) : k.Plain := by
  cases h with
  | clause c => cases c <;> decide
  | @word w hne hw =>
    have hsingle : ∀ p ∈ (Keyword.ofWord w).spellings, p = [w] := fun p hp =>
      List.mem_singleton.mp hp
    intro p hp
    obtain rfl := hsingle p hp
    have hletters : Phrase.Lettered [w] := by
      refine ⟨by simp, fun v hv => ?_⟩
      obtain rfl := List.mem_singleton.mp hv
      exact ⟨hne, hw⟩
    exact ⟨hletters, fun q hq => .inl (hsingle q hq).symm⟩

/-- The words that may stand in front of JOIN. -/
def Clause.joinKinds : List Phrase :=
  [["INNER".toList], ["CROSS".toList], ["LEFT".toList, "OUTER".toList], ["LEFT".toList],
    ["RIGHT".toList, "OUTER".toList], ["RIGHT".toList]]

/-- Behind a phrase and white space one more word goes on with the phrase. -/
theorem Phrase.Spells.snoc {p : Phrase} {a g u w : Text} (h : p.Spells a) (hp : p ≠ [])
    (hg : IsGap g) (hu : SameWord w u) : (p ++ [w]).Spells (a ++ (g ++ u)) := by
  induction p generalizing a with
  | nil => exact absurd rfl hp
  | cons v p ih =>
    obtain ⟨x, r, rfl, hx, hrest⟩ := spells_cons_iff.mp h
    rw [List.cons_append, List.append_assoc]
    apply spells_cons_iff.mpr
    rcases hrest with ⟨rfl, rfl⟩ | ⟨hne, g₁, y, rfl, hg₁, hy⟩
    · exact ⟨x, g ++ u, rfl, hx, .inr ⟨by simp, g, u, rfl, hg, hu⟩⟩
    · refine ⟨x, g₁ ++ (y ++ (g ++ u)), by simp, hx, .inr ⟨by simp, g₁, _, rfl, hg₁, ?_⟩⟩
      exact ih hy hne

/-- A kind in front of JOIN spells the keyword of joins together with it. -/
theorem Clause.spells_joins {p : Phrase} (hp : p ∈ joinKinds) {q g j : Text} (hq : p.Spells q)
    (hg : IsGap g) (hj : SameWord "JOIN".toList j) : joins.keyword.Spells (q ++ (g ++ j)) := by
  have hmem : ∀ p ∈ joinKinds, p ≠ [] ∧ p ++ ["JOIN".toList] ∈ joins.keyword.spellings := by
    decide
  obtain ⟨hne, hin⟩ := hmem p hp
  exact ⟨_, hin, hq.snoc hne hg hj⟩

section
variable {tag : Text} (htag : PlainTag tag)
include htag

theorem Keyword.find?_isSome_iff {k : Keyword} (hk : k.Plain) {t : Text} :
    (k.find? tag t).isSome = true ↔ ∃ o, OccursAt k tag t o := by
  constructor
  · intro h
    obtain ⟨o, ho⟩ := Option.isSome_iff_exists.mp h
    exact ⟨o, text_of_find? ho, (find?_spec htag hk ho).1⟩
  · intro ⟨o, ht, ho⟩
    by_contra hnone
    rw [Option.not_isSome_iff_eq_none, find?_eq_none_iff htag hk] at hnone
    exact hnone o ht ho

omit htag in
/-- Two bounded occurrences that start at one offset are the same. -/
theorem OccursAt.eq_of_start_eq {k : Keyword} (hk : k.Plain) {t : Text} {o o' : Occurrence}
    (h : OccursAt k tag t o) (h' : OccursAt k tag t o') (hstart : o.start = o'.start) : o = o' := by
  have ht : o.text = o'.text := h.text.trans h'.text.symm
  have hlen : o.before.length = o'.before.length := by
    apply Nat.le_antisymm
    · exact (Occurrence.start_le_iff ht).mp hstart.le
    · exact (Occurrence.start_le_iff ht.symm).mp hstart.ge
  exact h.bounded.spelled.occurrence_eq hk ht hlen h'.bounded.spelled

/-- No join is found behind its kind where a word may start in front of the kind. -/
theorem Clause.joins_found_with_kind {t : Text} {o : Occurrence}
    (h : joins.keyword.find? tag t = some o) {u j : Text} (hfound : u ++ j = o.found)
    (hj : SameWord "JOIN".toList j) {x q g : Text} (hx : EndsInBreak tag x) (hg : IsGap g)
    {p : Phrase} (hp : p ∈ joinKinds) (hq : p.Spells q) (hbefore : x ++ (q ++ g) = o.before ++ u) :
    q ++ g <:+ u := by
  obtain ⟨ho, hfirst⟩ := Keyword.find?_spec htag (Keyword.Searched.clause joins).plain h
  have ht : Occurrence.text ⟨x, q ++ (g ++ j), o.after⟩ = t := by
    rw [← Keyword.text_of_find? h, ← o.text_eq, ← hfound, List.append_assoc u,
      ← List.append_assoc o.before, ← hbefore]
    simp [Occurrence.text]
  have hkind : Bounded joins.keyword tag ⟨x, q ++ (g ++ j), o.after⟩ :=
    ⟨spells_joins hp hq hg hj, hx, ho.right⟩
  obtain ⟨v, hv⟩ : o.before <+: x :=
    List.prefix_of_prefix_length_le ⟨u, hbefore.symm⟩ ⟨q ++ g, rfl⟩ (hfirst _ ht hkind)
  rw [← hv, List.append_assoc] at hbefore
  exact ⟨v, List.append_cancel_left hbefore⟩

/-- The search finds a bounded occurrence wherever there is one. What it finds is one, none starts
before it, and no two start together; a join comes with the kind that stands in front of it. -/
theorem find?_first_occurrence {k : Keyword} (hk : k.Searched) (t : Text) :
    ((k.find? tag t).isSome = true ↔ ∃ o, OccursAt k tag t o) ∧
      (∀ o, k.find? tag t = some o →
        OccursAt k tag t o ∧ ∀ o', OccursAt k tag t o' → o.start ≤ o'.start) ∧
      (∀ o o', OccursAt k tag t o → OccursAt k tag t o' → o.start = o'.start → o = o') ∧
      ∀ o, Clause.joins.keyword.find? tag t = some o →
        ∀ u j, u ++ j = o.found → SameWord "JOIN".toList j →
          ∀ x q g, x ++ (q ++ g) = o.before ++ u → EndsInBreak tag x → IsGap g →
            (∃ p ∈ Clause.joinKinds, p.Spells q) → q ++ g <:+ u := by
  have hplain := hk.plain
  refine ⟨Keyword.find?_isSome_iff htag hplain, ?_, ?_, ?_⟩
  · intro o ho
    obtain ⟨hbounded, hfirst⟩ := Keyword.find?_spec htag hplain ho
    have ht := Keyword.text_of_find? ho
    refine ⟨⟨ht, hbounded⟩, fun o' ho' => ?_⟩
    apply (Occurrence.start_le_iff (ht.trans ho'.text.symm)).mpr
    exact hfirst o' ho'.text ho'.bounded
  · intro o o' ho ho' hstart
    exact ho.eq_of_start_eq hplain ho' hstart
  · intro o ho u j hfound hj x q g hbefore hx hg ⟨p, hp, hq⟩
    exact Clause.joins_found_with_kind htag ho hfound hj hx hg hp hq hbefore

end

/-- In `aJOIN` no word starts before the keyword. `Left` starts behind a placeholder. -/
theorem find?_first_occurrence_of_join :
    PlainTag "ref".toList ∧ Clause.joins.keyword.Searched ∧
      OccursAt Clause.joins.keyword "ref".toList "aJOIN__REF0__Left\nJOIN b".toList
        ⟨"aJOIN__REF0__".toList, "Left\nJOIN".toList, " b".toList⟩ ∧
      ∀ o', OccursAt Clause.joins.keyword "ref".toList "aJOIN__REF0__Left\nJOIN b".toList o' →
        13 ≤ o'.start := by
  have htag : PlainTag "ref".toList := by decide
  have hk := Keyword.Searched.clause .joins
  have hfind : Clause.joins.keyword.find? "ref".toList "aJOIN__REF0__Left\nJOIN b".toList =
      some ⟨"aJOIN__REF0__".toList, "Left\nJOIN".toList, " b".toList⟩ := by
    decide +kernel
  obtain ⟨hoccurs, hfirst⟩ := (find?_first_occurrence htag hk _).2.1 _ hfind
  exact ⟨htag, hk, hoccurs, hfirst⟩

end SqlOutline
