import SqlOutline.Proofs.HiddenText
import SqlOutline.Proofs.Lacking

/-!
Texts that are clear of a tag.

In such a text no placeholder is read but those that stand for its literals: none is in the text
between literals, and none is completed by the low lines at the end of a placeholder. There words
break at literals and at characters that are no word characters, so that the tag has no say in where
keywords are found (`Keyword.find?_retag`).
-/

namespace SqlOutline
open Unicode Placeholder

/-- Nowhere in `t` the rail and the tag stand, in whatever case. -/
def OpeningFree (tag t : Text) : Prop := ∀ o, SameWord (rail ++ tag) o → ¬ o <:+: t

instance (tag t : Text) : Decidable (OpeningFree tag t) :=
  decidable_of_iff (∀ u ∈ t.tails, Reader.letters sameLetter (rail ++ tag) u = none) <| by
    simp only [List.mem_tails, Option.eq_none_iff_forall_ne_some, Prod.forall, ne_eq,
      Reader.letters_eq_some_iff, not_and]
    constructor
    · rintro h o ho ⟨x, y, rfl⟩
      exact h (o ++ y) ⟨x, by simp⟩ o y rfl ho
    · rintro h u ⟨x, rfl⟩ o y rfl ho
      exact h o ho ⟨x, y, by simp⟩

/-- Behind a placeholder, `t` goes on with another one that starts in the low lines of the first. -/
def CompletesPlaceholder (tag t : Text) : Prop :=
  ∃ e p d, e ≠ [] ∧ e <:+ rail ∧ Placeholder.Spells sameLetter tag p d ∧ p <+: e ++ t

theorem OpeningFree.of_infix {tag s t : Text} (h : OpeningFree tag t) (hs : s <:+: t) :
    OpeningFree tag s :=
  fun o ho hin => h o ho (hin.trans hs)

theorem OpeningFree.stemFree {tag t : Text} (h : OpeningFree tag t) : StemFree tag t := by
  intro c _ hin
  refine h (rail ++ tag) (List.forall₂_same.mpr fun l _ => sameLetter_self l) ?_
  exact List.infix_append_left.trans hin

theorem CompletesPlaceholder.append {tag t : Text} (h : CompletesPlaceholder tag t) (s : Text) :
    CompletesPlaceholder tag (t ++ s) := by
  obtain ⟨e, p, d, hne, he, hp, hpre⟩ := h
  exact ⟨e, p, d, hne, he, hp, hpre.trans ⟨s, by simp⟩⟩

theorem completesPlaceholder_iff {tag : Text} (htag : PlainTag tag) {t : Text} :
    CompletesPlaceholder tag t ↔
      ∃ e ∈ [['_'], rail], (Placeholder.read? sameLetter tag (e ++ t)).isSome = true := by
  have suffix_iff : ∀ {e : Text}, e ≠ [] ∧ e <:+ rail ↔ e ∈ [['_'], rail] := by
    intro e
    rw [← List.mem_tails]
    constructor
    · rintro ⟨hne, he⟩
      have hcases : e = rail ∨ e = ['_'] := by simpa [rail, hne] using he
      rcases hcases with rfl | rfl <;> simp
    · intro he
      simp only [List.mem_cons, List.not_mem_nil, or_false] at he
      rcases he with rfl | rfl <;> decide
  simp only [Option.isSome_iff_exists, read?_eq_some_iff htag.railed_sameLetter]
  constructor
  · rintro ⟨e, p, d, hne, he, hp, y, hy⟩
    exact ⟨e, suffix_iff.mp ⟨hne, he⟩, ⟨p, d, y⟩, hy, hp⟩
  · rintro ⟨e, he, ⟨p, d, y⟩, hy, hp⟩
    obtain ⟨hne, hsuffix⟩ := suffix_iff.mpr he
    exact ⟨e, p, d, hne, hsuffix, hp, y, hy⟩

/-- A placeholder has an opening. -/
theorem Placeholder.Spells.opening {tag p d : Text} (h : Placeholder.Spells sameLetter tag p d) :
    ∃ o z, SameWord (rail ++ tag) o ∧ o ++ (z ++ rail) = p ∧ z ≠ [] := by
  obtain ⟨hne, -, m, hm, rfl⟩ := h
  exact ⟨rail ++ m, d, List.rel_append (List.forall₂_same.mpr fun l _ => sameLetter_self l) hm,
    by simp, hne⟩

theorem OpeningFree.not_infix {tag t p d : Text} (h : OpeningFree tag t)
    (hp : Placeholder.Spells sameLetter tag p d) : ¬ p <:+: t := by
  intro hin
  obtain ⟨o, z, ho, rfl, -⟩ := hp.opening
  exact h o ho (List.infix_append_left.trans hin)

namespace Cut

@[simp] theorem lead_plain (t : Text) : (plain t).lead = t := rfl

/-- The texts behind literals all satisfy `p`. -/
def AllBehind (p : Text → Prop) (c : Cut) : Prop := ∀ x ∈ c.literals, p x.2

@[simp] theorem allBehind_plain {p : Text → Prop} {t : Text} : (plain t).AllBehind p := by
  simp [AllBehind, plain]

@[simp] theorem allBehind_literal {p : Text → Prop} {r l : Text} {c : Cut} :
    (literal r l c).AllBehind p ↔ p c.lead ∧ c.AllBehind p := by
  simp [AllBehind, literal]

theorem lead_isPrefix_append (c d : Cut) : c.lead <+: (c ++ d).lead := by
  cases c using Cut.induction with
  | plain t => cases d using Cut.induction <;> exact List.prefix_append t _
  | literal r l c => exact List.prefix_rfl

/-- A property that fronts inherit holds behind the literals of both halves. -/
theorem AllBehind.of_append {p : Text → Prop} (hp : ∀ s t, s <+: t → p t → p s) {c d : Cut}
    (h : (c ++ d).AllBehind p) : c.AllBehind p ∧ d.AllBehind p := by
  induction c using Cut.induction with
  | plain t =>
    cases d using Cut.induction with
    | plain s => simp
    | literal r l d => simpa using h
  | literal r l c ih =>
    obtain ⟨hlead, hcd⟩ := allBehind_literal.mp h
    simpa [hp _ _ (lead_isPrefix_append c d) hlead] using ih hcd

/-- No placeholder of the tag is in the texts between the literals, nor is one completed there. -/
structure ClearOf (tag : Text) (c : Cut) : Prop where
  outside : c.AllOutside (OpeningFree tag)
  behind : c.AllBehind (¬ CompletesPlaceholder tag ·)

theorem ClearOf.of_append {tag : Text} {A B : Cut} (h : (A ++ B).ClearOf tag) :
    A.ClearOf tag ∧ B.ClearOf tag := by
  obtain ⟨hA, hB⟩ := h.outside.of_append fun x y hxy =>
    ⟨hxy.of_infix List.infix_append_left, hxy.of_infix List.infix_append_right⟩
  obtain ⟨hA', hB'⟩ := h.behind.of_append fun s t hst ht hs => by
    obtain ⟨u, rfl⟩ := hst
    exact ht (hs.append u)
  exact ⟨⟨hA, hA'⟩, ⟨hB, hB'⟩⟩

end Cut

/-- In a text without openings a word ends at its end and before characters that no word has. -/
theorem OpeningFree.startsInBreak_iff {tag t : Text} (h : OpeningFree tag t) :
    StartsInBreak tag t ↔ ∀ x ∈ t.head?, isWordChar x = false := by
  constructor
  · rintro (rfl | ⟨g, y, rfl, ⟨c, hc, rfl⟩ | ⟨d, hd⟩⟩)
    · simp
    · simpa using hc
    · exact absurd List.infix_append_left (h.not_infix hd)
  · intro hhead
    cases t with
    | nil => exact .inl rfl
    | cons c t => exact .inr ⟨[c], t, rfl, .inl ⟨c, hhead c rfl, rfl⟩⟩

/-- In a text without openings a word starts at its start and behind characters that no word has. -/
theorem OpeningFree.endsInBreak_iff {tag t : Text} (h : OpeningFree tag t) :
    EndsInBreak tag t ↔ ∀ x ∈ t.getLast?, isWordChar x = false := by
  constructor
  · rintro (rfl | ⟨x, g, rfl, ⟨c, hc, rfl⟩ | ⟨d, hd⟩⟩)
    · simp
    · simpa using hc
    · exact absurd List.infix_append_right (h.not_infix hd)
  · intro hlast
    by_cases ht : t = []
    · exact .inl ht
    · refine .inr ⟨t.dropLast, [t.getLast ht], List.dropLast_concat_getLast ht, .inl ⟨_, ?_, rfl⟩⟩
      exact hlast _ (List.getLast?_eq_some_getLast ht)

/-- No placeholder goes from a text without openings into the next placeholder. -/
theorem OpeningFree.not_isPrefix_rail {tag t p d : Text} (h : OpeningFree tag t)
    (hp : Placeholder.Spells sameLetter tag p d) : ¬ p <+: t ++ rail := by
  intro hpre
  obtain ⟨o, z, ho, rfl, hz⟩ := hp.opening
  have hlen := hpre.length_le
  have hpos := List.length_pos_iff.mpr hz
  have hin : o <+: t := List.prefix_of_prefix_length_le ((List.prefix_append o _).trans hpre)
    (List.prefix_append t rail) (by simp only [List.length_append] at hlen; omega)
  exact h o ho hin.isInfix

/-- A placeholder that goes from the low lines of another one to the end of `t` is completed by
`t`. -/
theorem OpeningFree.completesPlaceholder {tag t p d : Text} (h : OpeningFree tag t)
    (hp : Placeholder.Spells sameLetter tag p d) (hsuffix : p <:+ rail ++ t) :
    CompletesPlaceholder tag t := by
  rcases List.suffix_or_suffix_of_suffix hsuffix (List.suffix_append rail t) with hin | ⟨e, rfl⟩
  · exact absurd hin.isInfix (h.not_infix hp)
  · refine ⟨e, e ++ t, d, ?_, ?_, hp, List.prefix_rfl⟩
    · rintro rfl
      exact h.not_infix hp List.infix_rfl
    · obtain ⟨y, hy⟩ := hsuffix
      rw [← List.append_assoc] at hy
      exact ⟨y, List.append_cancel_right hy⟩

section
variable {tag : Text} (htag : PlainTag tag)
include htag

/-- Words end in front of a literal, and before it where they end in the text alone. -/
theorem Cut.ClearOf.startsInBreak_iff {c : Cut} (h : c.ClearOf tag) (i : Nat) :
    StartsInBreak tag (c.hiddenAt tag i) ↔ ∀ x ∈ c.lead.head?, isWordChar x = false := by
  cases c using Cut.induction with
  | plain t => simpa using (allOutside_plain.mp h.outside).startsInBreak_iff
  | literal r l c =>
    have hr : OpeningFree tag r := (allOutside_literal.mp h.outside).1
    rw [hiddenAt_literal]
    show _ ↔ ∀ x ∈ r.head?, isWordChar x = false
    cases r with
    | nil =>
      simp only [List.nil_append, List.head?_nil, Option.mem_def, reduceCtorEq, false_implies,
        implies_true, iff_true]
      exact .inr ⟨Placeholder.text tag i, _, rfl, .inr ⟨_, spells_text htag.railed_sameLetter i⟩⟩
    | cons y r =>
      constructor
      · rintro (hnil | ⟨g, z, hg, ⟨x, hx, rfl⟩ | ⟨d, hd⟩⟩)
        · simp at hnil
        · obtain ⟨rfl, -⟩ := List.cons_eq_cons.mp hg
          simpa using hx
        · obtain ⟨v, hv⟩ := rail_isPrefix_text tag i (c.hiddenAt tag (i + 1))
          refine absurd (hd.isPrefix_rail (u := y :: r) (v := v) (y := z)
            htag.railed_sameLetter (by simp) ?_)
            (hr.not_isPrefix_rail hd)
          rw [hg, ← hv, List.append_assoc]
      · intro hhead
        exact .inr ⟨[y], r ++ (Placeholder.text tag i ++ c.hiddenAt tag (i + 1)), rfl,
          .inl ⟨y, hhead y rfl, rfl⟩⟩

/-- Words start behind a literal, and further behind it where they start in the text alone. -/
theorem Cut.ClearOf.endsInBreak_iff {c : Cut} (h : c.ClearOf tag) (i : Nat) :
    EndsInBreak tag (c.hiddenAt tag i) ↔ ∀ x ∈ c.lastText.getLast?, isWordChar x = false := by
  rcases c.snoc_cases with ⟨t, rfl⟩ | ⟨A, l, r, rfl⟩
  · simpa using (allOutside_plain.mp h.outside).endsInBreak_iff
  · have hr : OpeningFree tag r := by simpa using h.outside.lastText
    have hbehind : ¬ CompletesPlaceholder tag r := by
      have hlast := (h.behind.of_append fun s t hst ht hs => by
        obtain ⟨u, rfl⟩ := hst
        exact ht (hs.append u)).2
      simpa using hlast
    have hform : (A ++ literal [] l (plain r)).hiddenAt tag i =
        A.hiddenAt tag i ++ (Placeholder.text tag (i + A.names.length) ++ r) := by
      simp [hiddenAt_append]
    rw [hform, lastText_append_literal, lastText_plain]
    by_cases hrn : r = []
    · subst hrn
      simp only [List.append_nil, List.getLast?_nil, Option.mem_def, reduceCtorEq, false_implies,
        implies_true, iff_true]
      exact .inr ⟨_, _, rfl, .inr ⟨_, spells_text htag.railed_sameLetter _⟩⟩
    · constructor
      · rintro (hnil | ⟨x, g, hg, ⟨y, hy, rfl⟩ | ⟨d, hd⟩⟩)
        · simp [hrn] at hnil
        · intro z hz
          rw [← List.getLast?_append_of_ne_nil (Placeholder.text tag _) hrn,
            ← List.getLast?_append_of_ne_nil (A.hiddenAt tag i) (by simp [hrn]), ← hg] at hz
          obtain rfl : y = z := by simpa using hz
          exact hy
        · refine absurd (hr.completesPlaceholder hd ?_) hbehind
          refine hd.isSuffix_rail (y := x) htag.railed_sameLetter hrn (u := A.hiddenAt tag i ++
            (rail ++ tag ++ Nat.toDigits 10 (i + A.names.length))) ?_
          rw [hg, Placeholder.text]
          simp
      · intro hlast
        rw [← List.append_assoc]
        exact (hr.endsInBreak_iff.mpr hlast).append hrn _

end

/-- In a cut that is clear of two tags words break at the same places. -/
theorem Cut.ClearOf.sameBreaks {tag tag' : Text} (htag : PlainTag tag) (htag' : PlainTag tag')
    {c : Cut} (hc : c.ClearOf tag) (hc' : c.ClearOf tag') : c.SameBreaks tag tag' where
  ends := by
    rintro A B rfl i j
    rw [hc.of_append.1.endsInBreak_iff htag, hc'.of_append.1.endsInBreak_iff htag']
  starts := by
    rintro A B rfl i j
    rw [hc.of_append.2.startsInBreak_iff htag, hc'.of_append.2.startsInBreak_iff htag']

end SqlOutline
