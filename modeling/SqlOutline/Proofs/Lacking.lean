import SqlOutline.Proofs.BoundedOccurrence
import SqlOutline.Proofs.Trimming

/-!
Texts that lack a keyword.

What is cut off at a bounded keyword, or left over, has new ends. They could make a word break where
the text had none; but at a bounded keyword words break already, and white space that is trimmed off
is a break itself. So the parts lack what the whole lacks.
-/

namespace SqlOutline
open Unicode

/-- The keyword has no bounded occurrence in the text. -/
def Lacks (k : Keyword) (tag t : Text) : Prop := ∀ o : Occurrence, o.text = t → ¬ Bounded k tag o

theorem StartsInBreak.append {tag b : Text} (h : StartsInBreak tag b) (hb : b ≠ []) (x : Text) :
    StartsInBreak tag (b ++ x) := by
  rcases h with hnil | ⟨g, y, rfl, hg⟩
  · exact absurd hnil hb
  · exact .inr ⟨g, y ++ x, by simp, hg⟩

theorem EndsInBreak.append {tag a : Text} (h : EndsInBreak tag a) (ha : a ≠ []) (x : Text) :
    EndsInBreak tag (x ++ a) := by
  rcases h with hnil | ⟨y, g, rfl, hg⟩
  · exact absurd hnil ha
  · exact .inr ⟨x ++ y, g, by simp, hg⟩

/-- What is found before `o` is found in the whole text of `o`. -/
theorem Occurrence.text_of_before {o o' : Occurrence} (ht : o'.text = o.before) :
    text ⟨o'.before, o'.found, o'.after ++ (o.found ++ o.after)⟩ = o.text := by
  rw [text, text, ← ht, text]
  simp

/-- White space is a break of words, whatever comes after it. -/
theorem Blank.startsInBreak {g : Text} (hg : Blank g) (hne : g ≠ []) (tag x : Text) :
    StartsInBreak tag (g ++ x) := by
  obtain ⟨c, g, rfl⟩ := List.exists_cons_of_ne_nil hne
  exact .inr ⟨[c], g ++ x, rfl, .inl ⟨c, not_isWordChar_of_isWhiteSpace (hg c (by simp)), rfl⟩⟩

/-- White space is a break of words, whatever comes before it. -/
theorem Blank.endsInBreak {g : Text} (hg : Blank g) (hne : g ≠ []) (tag x : Text) :
    EndsInBreak tag (x ++ g) := by
  refine .inr ⟨x ++ g.dropLast, [g.getLast hne], ?_,
    .inl ⟨g.getLast hne, not_isWordChar_of_isWhiteSpace (hg _ (List.getLast_mem hne)), rfl⟩⟩
  rw [List.append_assoc, List.dropLast_concat_getLast]

/-- White space behind a text takes no break away from its start. -/
theorem StartsInBreak.append_blank {tag b g : Text} (h : StartsInBreak tag b) (hg : Blank g) :
    StartsInBreak tag (b ++ g) := by
  by_cases hb : b = []
  · by_cases hgn : g = []
    · exact .inl (by simp [hb, hgn])
    · simpa [hb] using hg.startsInBreak hgn tag []
  · exact h.append hb g

section
variable {tag : Text} (htag : Placeholder.PlainTag tag) {k : Keyword} (hk : k.Plain)
include htag hk

theorem lacks_iff {t : Text} : Lacks k tag t ↔ k.find? tag t = none :=
  (Keyword.find?_eq_none_iff htag hk).symm

omit htag in
theorem lacks_nil : Lacks k tag [] := by
  rintro ⟨a, f, b⟩ ht ho
  have hf : f = [] := by simp_all [Occurrence.text]
  exact ho.found_ne_nil hk hf

/-- An occurrence in the text before a bounded keyword is one in the whole text. -/
theorem Bounded.of_before {k' : Keyword} {o o' : Occurrence} (ho : Bounded k' tag o)
    (ht : o'.text = o.before) (ho' : Bounded k tag o') :
    Bounded k tag ⟨o'.before, o'.found, o'.after ++ (o.found ++ o.after)⟩ := by
  refine ⟨ho'.spelled, ho'.left, ?_⟩
  by_cases hne : o'.after = []
  · -- Then the two keywords would touch.
    exfalso
    have hf := ho'.found_ne_nil hk
    have hsolid := (ho'.spelled.last_letter hk (List.getLast?_eq_some_getLast hf)).1
    have hno := ho.left.last_not_isSolid htag (o'.found.getLast hf) (by
      rw [← ht, Occurrence.text, hne, List.append_nil, List.getLast?_append_of_ne_nil _ hf]
      exact List.getLast?_eq_some_getLast hf)
    rw [hsolid] at hno
    exact Bool.false_ne_true hno.symm
  · exact ho'.right.append hne _

theorem Lacks.before {k' : Keyword} {o : Occurrence} (h : Lacks k tag o.text)
    (ho : Bounded k' tag o) : Lacks k tag o.before := by
  intro o' ht ho'
  exact h _ (Occurrence.text_of_before ht) (ho.of_before htag hk ht ho')

/-- The text before the first occurrence has no other one. -/
theorem lacks_before_of_find? {t : Text} {o : Occurrence} (h : k.find? tag t = some o) :
    Lacks k tag o.before := by
  obtain ⟨rfl, ho, hfirst⟩ := (Keyword.find?_eq_some_iff htag hk).mp h
  intro o' ht ho'
  have hle := hfirst _ (Occurrence.text_of_before ht) (ho.of_before htag hk ht ho')
  have hpos := List.length_pos_iff.mpr (ho'.found_ne_nil hk)
  rw [← ht, Occurrence.text] at hle
  simp only [List.length_append] at hle
  omega

omit htag in
/-- The trimmed end of a text lacks what the whole lacks if no word goes on where it starts. -/
theorem Lacks.trim_end {x b : Text} (h : Lacks k tag (x ++ b))
    (hx : EndsInBreak tag x ∨ ∀ c ∈ b.head?, isSolid c = false) : Lacks k tag (Text.trim b) := by
  obtain ⟨g, g', hb, hg, hg', -⟩ := Text.trim_split b
  rintro ⟨a, f, z⟩ ht ho
  have hf : f ≠ [] := ho.found_ne_nil hk
  simp only [Occurrence.text] at ht
  refine h ⟨x ++ g ++ a, f, z ++ g'⟩ ?_ ⟨ho.spelled, ?_, ?_⟩
  · rw [← hb, ← ht]
    simp [Occurrence.text]
  · show EndsInBreak tag (x ++ g ++ a)
    by_cases ha : a = []
    · subst ha
      rw [List.append_nil]
      by_cases hgn : g = []
      · subst hgn
        rw [List.append_nil]
        rcases hx with hx | hx
        · exact hx
        · exfalso
          obtain ⟨c, f, rfl⟩ := List.exists_cons_of_ne_nil hf
          have hno := hx c (by rw [← hb, ← ht]; rfl)
          rw [ho.spelled.head_isSolid hk rfl] at hno
          exact Bool.false_ne_true hno.symm
      · exact hg.endsInBreak hgn tag x
    · exact ho.left.append ha _
  · exact ho.right.append_blank hg'

end
end SqlOutline
