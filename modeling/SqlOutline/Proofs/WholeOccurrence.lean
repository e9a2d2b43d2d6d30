import SqlOutline.Proofs.FirstOccurrence
import SqlOutline.Proofs.Restoring

/-!
Keywords that no word character touches.

`Keyword.findWhole?` finds the first whole occurrence of a keyword and knows of no placeholders. A
text without placeholders should not be searched in another way, but the bounded search compares the
letters of a tag up to case, and literals are put back letter for letter. So a placeholder in other
letters breaks words although it stands for nothing, and the two searches agree exactly if this lets
no keyword in before the first whole one (`find?_eq_findWhole?_iff`).
-/

namespace SqlOutline
open Unicode Placeholder

theorem endsWord_iff {t : Text} : endsWord t = true ↔ ∀ c ∈ t.head?, isWordChar c = false := by
  cases t <;> simp [endsWord]

/-- The keyword stands at `o`, and no word character touches it. -/
structure Whole (k : Keyword) (o : Occurrence) : Prop where
  spelled : k.Spells o.found
  left : ∀ c ∈ o.before.getLast?, isWordChar c = false
  right : ∀ c ∈ o.after.head?, isWordChar c = false

/-- The keyword stands whole at `o`, where `inWord` tells whether a word character stands right
before the text. -/
structure WholeBehind (k : Keyword) (inWord : Bool) (o : Occurrence) : Prop where
  spelled : k.Spells o.found
  left : (o.before.getLast?.map isWordChar).getD inWord = false
  right : endsWord o.after = true

theorem wholeBehind_false_iff {k : Keyword} {o : Occurrence} :
    WholeBehind k false o ↔ Whole k o := by
  have hleft : (o.before.getLast?.map isWordChar).getD false = false ↔
      ∀ c ∈ o.before.getLast?, isWordChar c = false := by
    cases o.before.getLast? <;> simp
  constructor
  · rintro ⟨hspelled, hl, hr⟩
    exact ⟨hspelled, hleft.mp hl, endsWord_iff.mp hr⟩
  · rintro ⟨hspelled, hl, hr⟩
    exact ⟨hspelled, hleft.mpr hl, endsWord_iff.mpr hr⟩

theorem wholeBehind_behind_iff {k : Keyword} {inWord : Bool} {c : Char} {o : Occurrence} :
    WholeBehind k inWord (o.behind [c]) ↔ WholeBehind k (isWordChar c) o := by
  have hleft : ((c :: o.before).getLast?.map isWordChar).getD inWord =
      (o.before.getLast?.map isWordChar).getD (isWordChar c) := by
    rw [List.getLast?_cons]
    cases o.before.getLast? <;> rfl
  constructor
  · rintro ⟨hspelled, hl, hr⟩
    exact ⟨hspelled, hleft ▸ hl, hr⟩
  · rintro ⟨hspelled, hl, hr⟩
    exact ⟨hspelled, hleft.trans hl, hr⟩

namespace Keyword

section
variable {k : Keyword} (hk : k.Plain)
include hk

/-- A whole occurrence is read at the very start of the text, or stands behind its first
character. -/
theorem wholeBehind_cases {inWord : Bool} {c : Char} {t : Text} {o : Occurrence}
    (ht : o.text = c :: t) (h : WholeBehind k inWord o) :
    (inWord = false ∧ o.before = [] ∧ k.readWhole (c :: t) = some (o.found, o.after)) ∨
      ∃ o₁ : Occurrence, o₁.behind [c] = o ∧ o₁.text = t ∧ WholeBehind k (isWordChar c) o₁ := by
  obtain ⟨before, found, after⟩ := o
  cases before with
  | nil =>
    left
    exact ⟨h.left, rfl, (readWhole_eq_some_iff hk).mpr ⟨ht, h.spelled, h.right⟩⟩
  | cons d before =>
    right
    obtain ⟨rfl, rfl⟩ : d = c ∧ before ++ found ++ after = t := List.cons_eq_cons.mp ht
    exact ⟨⟨before, found, after⟩, rfl, rfl, wholeBehind_behind_iff.mp h⟩

theorem findWhole?_spec {inWord : Bool} {t : Text} {o : Occurrence}
    (h : k.findWhole? inWord t = some o) :
    WholeBehind k inWord o ∧ ∀ o' : Occurrence, o'.text = t → WholeBehind k inWord o' →
      o.before.length ≤ o'.before.length := by
  induction t generalizing inWord o with
  | nil => simp [findWhole?] at h
  | cons c t ih =>
    rw [findWhole?] at h
    split at h
    · rename_i found after hread
      obtain rfl : ⟨[], found, after⟩ = o := Option.some.inj h
      cases inWord with
      | true => simp at hread
      | false =>
        obtain ⟨-, hspelled, hend⟩ := (readWhole_eq_some_iff hk).mp hread
        exact ⟨⟨hspelled, rfl, hend⟩, fun o' _ _ => Nat.zero_le _⟩
    · rename_i hread
      obtain ⟨o₁, ho₁, rfl⟩ := Option.map_eq_some_iff.mp h
      obtain ⟨hwhole, hfirst⟩ := ih ho₁
      refine ⟨wholeBehind_behind_iff.mpr hwhole, fun o' ht' ho' => ?_⟩
      rcases wholeBehind_cases hk ht' ho' with ⟨rfl, -, hstart⟩ | ⟨o₂, rfl, ht₂, ho₂⟩
      · rw [if_neg Bool.false_ne_true, hstart] at hread
        cases hread
      · exact Nat.succ_le_succ (hfirst o₂ ht₂ ho₂)

theorem findWhole?_eq_none {inWord : Bool} {t : Text} (h : k.findWhole? inWord t = none) :
    ∀ o : Occurrence, o.text = t → ¬ WholeBehind k inWord o := by
  induction t generalizing inWord with
  | nil =>
    intro o ht ho
    simp only [Occurrence.text, List.append_eq_nil_iff] at ht
    exact ho.spelled.ne_nil hk ht.1.2
  | cons c t ih =>
    intro o ht ho
    rw [findWhole?] at h
    split at h
    · cases h
    · rename_i hread
      rcases wholeBehind_cases hk ht ho with ⟨rfl, -, hstart⟩ | ⟨o₁, rfl, ht₁, ho₁⟩
      · rw [if_neg Bool.false_ne_true, hstart] at hread
        cases hread
      · exact ih (Option.map_eq_none_iff.mp h) o₁ ht₁ ho₁

/-- The search finds the whole occurrence that starts first. -/
theorem findWhole?_eq_some_iff {t : Text} {o : Occurrence} :
    k.findWhole? false t = some o ↔
      o.text = t ∧ Whole k o ∧ ∀ o' : Occurrence, o'.text = t → Whole k o' → o.start ≤ o'.start := by
  simp only [← wholeBehind_false_iff]
  constructor
  · intro h
    have ht := text_of_findWhole? h
    obtain ⟨hwhole, hfirst⟩ := findWhole?_spec hk h
    refine ⟨ht, hwhole, fun o' ht' ho' => ?_⟩
    exact (Occurrence.start_le_iff (ht.trans ht'.symm)).mpr (hfirst o' ht' ho')
  · rintro ⟨ht, hwhole, hfirst⟩
    cases hfind : k.findWhole? false t with
    | none => exact absurd hwhole (findWhole?_eq_none hk hfind o ht)
    | some o' =>
      have ht' := text_of_findWhole? hfind
      obtain ⟨hwhole', hfirst'⟩ := findWhole?_spec hk hfind
      have hle := (Occurrence.start_le_iff (ht.trans ht'.symm)).mp (hfirst o' ht' hwhole')
      have hlen := Nat.le_antisymm (hfirst' o ht hwhole) hle
      rw [hwhole'.spelled.occurrence_eq hk (ht'.trans ht.symm) hlen hwhole.spelled]

end

end Keyword

/-- A placeholder of the tag up to case, but not letter for letter. -/
structure Placeholder.Miscased (tag g : Text) : Prop where
  alike : ∃ d, Spells sameLetter tag g d
  differs : ∀ d, ¬ Spells (· == ·) tag g d

/-- A miscased placeholder stands right before or right behind the keyword. -/
def Occurrence.TouchesMiscased (tag : Text) (o : Occurrence) : Prop :=
  ∃ g, Miscased tag g ∧ (g <:+ o.before ∨ g <+: o.after)

theorem Whole.bounded {k : Keyword} {tag : Text} {o : Occurrence} (h : Whole k o) :
    Bounded k tag o := by
  refine ⟨h.spelled, ?_, ?_⟩
  · rcases List.eq_nil_or_concat o.before with hnil | ⟨x, c, hx⟩
    · exact .inl hnil
    · rw [List.concat_eq_append] at hx
      exact .inr ⟨x, [c], hx.symm, .inl ⟨c, h.left c (by simp [hx]), rfl⟩⟩
  · cases hafter : o.after with
    | nil => exact .inl rfl
    | cons c y => exact .inr ⟨[c], y, rfl, .inl ⟨c, h.right c (by simp [hafter]), rfl⟩⟩

section
variable {tag : Text} (htag : PlainTag tag)
include htag

/-- In a text without placeholders a keyword between breaks is whole, unless one of the breaks is a
miscased placeholder. -/
theorem Bounded.whole_iff {k : Keyword} {o : Occurrence} (h : Bounded k tag o)
    (hfree : PlaceholderFree tag o.text) : Whole k o ↔ ¬ o.TouchesMiscased tag := by
  have hline : isWordChar '_' = true := by decide
  constructor
  · rintro hwhole ⟨g, ⟨⟨d, hd⟩, -⟩, ⟨x, hx⟩ | ⟨y, hy⟩⟩
    · have hlast := hwhole.left '_' (by
        rw [← hx, List.getLast?_append_of_ne_nil _ (hd.ne_nil htag.railed_sameLetter)]
        exact hd.getLast?_eq htag.railed_sameLetter)
      exact absurd (hlast.symm.trans hline) Bool.false_ne_true
    · have hhead := hwhole.right '_' (by
        rw [← hy, List.head?_append_of_ne_nil _ (hd.ne_nil htag.railed_sameLetter)]
        exact hd.head?_eq htag.railed_sameLetter)
      exact absurd (hhead.symm.trans hline) Bool.false_ne_true
  · intro hno
    have miscased : ∀ {g d : Text}, Spells sameLetter tag g d → g <:+: o.text → Miscased tag g :=
      fun hd hin => ⟨⟨_, hd⟩, fun d' hd' => hfree _ d' hd' hin⟩
    refine ⟨h.spelled, fun c hc => ?_, fun c hc => ?_⟩
    · rcases h.left with hnil | ⟨x, g, hx, ⟨c', hc', rfl⟩ | ⟨d, hd⟩⟩
      · simp [hnil] at hc
      · obtain rfl : c' = c := by simpa [← hx] using hc
        exact hc'
      · have hin : g <:+: o.text := ⟨x, o.found ++ o.after, by simp [Occurrence.text, ← hx]⟩
        exact absurd ⟨g, miscased hd hin, .inl ⟨x, hx⟩⟩ hno
    · rcases h.right with hnil | ⟨g, y, hy, ⟨c', hc', rfl⟩ | ⟨d, hd⟩⟩
      · simp [hnil] at hc
      · obtain rfl : c' = c := by simpa [← hy] using hc
        exact hc'
      · have hin : g <:+: o.text := ⟨o.before ++ o.found, y, by simp [Occurrence.text, ← hy]⟩
        exact absurd ⟨g, miscased hd hin, .inr ⟨y, hy⟩⟩ hno

/-- What the bounded search finds is a bounded occurrence, and none starts before it. -/
theorem OccursAt.of_find? {k : Keyword} (hk : k.Plain) {t : Text} {o : Occurrence}
    (h : k.find? tag t = some o) :
    OccursAt k tag t o ∧ ∀ o', OccursAt k tag t o' → o.start ≤ o'.start := by
  obtain ⟨ht, hbounded, hfirst⟩ := (Keyword.find?_eq_some_iff htag hk).mp h
  refine ⟨⟨ht, hbounded⟩, fun o' ho' => ?_⟩
  exact (Occurrence.start_le_iff (ht.trans ho'.text.symm)).mpr (hfirst o' ho'.text ho'.bounded)

/-- The two searches agree exactly if every bounded occurrence that is not whole has a whole one
before it. -/
theorem find?_eq_findWhole?_of_plain {k : Keyword} (hk : k.Plain) {t : Text} :
    k.find? tag t = k.findWhole? false t ↔
      ∀ o, OccursAt k tag t o → ¬ Whole k o →
        ∃ o' : Occurrence, o'.text = t ∧ Whole k o' ∧ o'.start < o.start := by
  constructor
  · intro hsame o ho hnot
    cases hfind : k.find? tag t with
    | none => exact absurd ho.bounded ((Keyword.find?_eq_none_iff htag hk).mp hfind o ho.text)
    | some o₁ =>
      obtain ⟨ho₁, hfirst⟩ := OccursAt.of_find? htag hk hfind
      obtain ⟨-, hwhole, -⟩ := (Keyword.findWhole?_eq_some_iff hk).mp (hsame ▸ hfind)
      have hne : o₁.start ≠ o.start := by
        intro hstart
        rw [ho₁.eq_of_start_eq hk ho hstart] at hwhole
        exact hnot hwhole
      exact ⟨o₁, ho₁.text, hwhole, Nat.lt_of_le_of_ne (hfirst o ho) hne⟩
  · intro hearlier
    cases hfind : k.find? tag t with
    | none =>
      cases hfindWhole : k.findWhole? false t with
      | none => rfl
      | some o =>
        obtain ⟨ht, hwhole, -⟩ := (Keyword.findWhole?_eq_some_iff hk).mp hfindWhole
        exact absurd hwhole.bounded ((Keyword.find?_eq_none_iff htag hk).mp hfind o ht)
    | some o =>
      obtain ⟨ho, hfirst⟩ := OccursAt.of_find? htag hk hfind
      have hwhole : Whole k o := by
        by_contra hnot
        obtain ⟨o', ht', ho', hlt⟩ := hearlier o ho hnot
        exact absurd (hfirst o' ⟨ht', ho'.bounded⟩) (Nat.not_le.mpr hlt)
      exact ((Keyword.findWhole?_eq_some_iff hk).mpr
        ⟨ho.text, hwhole, fun o' ht' ho' => hfirst o' ⟨ht', ho'.bounded⟩⟩).symm

/-- In a text without placeholders the bounded search finds the first whole occurrence of a keyword,
as the search that knows of no placeholders does, exactly if every keyword that a miscased
placeholder touches has a whole one before it. So it does where no placeholder is miscased. -/
theorem find?_eq_findWhole?_iff {k : Keyword} (hk : k.Searched) {t : Text}
    (hfree : PlaceholderFree tag t) :
    (∀ o, k.findWhole? false t = some o ↔
        o.text = t ∧ Whole k o ∧ ∀ o' : Occurrence, o'.text = t → Whole k o' → o.start ≤ o'.start) ∧
      (k.find? tag t = k.findWhole? false t ↔
        ∀ o, OccursAt k tag t o → o.TouchesMiscased tag →
          ∃ o' : Occurrence, o'.text = t ∧ Whole k o' ∧ o'.start < o.start) ∧
      ((∀ g, g <:+: t → ¬ Miscased tag g) → k.find? tag t = k.findWhole? false t) := by
  have hplain := hk.plain
  have htouch : ∀ o, OccursAt k tag t o → (¬ Whole k o ↔ o.TouchesMiscased tag) := by
    intro o ho
    rw [ho.bounded.whole_iff htag (ho.text ▸ hfree), not_not]
  have hiff : k.find? tag t = k.findWhole? false t ↔
      ∀ o, OccursAt k tag t o → o.TouchesMiscased tag →
        ∃ o' : Occurrence, o'.text = t ∧ Whole k o' ∧ o'.start < o.start := by
    rw [find?_eq_findWhole?_of_plain htag hplain]
    exact forall₂_congr fun o ho => by rw [htouch o ho]
  refine ⟨fun o => Keyword.findWhole?_eq_some_iff hplain, hiff, fun hnone => hiff.mpr ?_⟩
  rintro o ho ⟨g, hg, ⟨x, hx⟩ | ⟨y, hy⟩⟩
  · exact absurd hg (hnone g ⟨x, o.found ++ o.after, by simp [← ho.text, Occurrence.text, ← hx]⟩)
  · exact absurd hg (hnone g ⟨o.before ++ o.found, y, by simp [← ho.text, Occurrence.text, ← hy]⟩)

end

/-- A miscased placeholder in front of a later keyword does no harm, and neither does a front of
one. -/
theorem find?_eq_findWhole?_behind_whole :
    PlainTag "ref".toList ∧ Clause.source.keyword.Searched ∧
      PlaceholderFree "ref".toList "FROM t FROM__REF0__FROM".toList ∧
      (∀ o, OccursAt Clause.source.keyword "ref".toList "FROM t FROM__REF0__FROM".toList o →
        o.TouchesMiscased "ref".toList → ∃ o' : Occurrence,
          o'.text = "FROM t FROM__REF0__FROM".toList ∧ Whole Clause.source.keyword o' ∧
            o'.start < o.start) ∧
      Clause.source.keyword.find? "ref".toList "FROM t FROM__REF0__FROM".toList =
        some ⟨[], "FROM".toList, " t FROM__REF0__FROM".toList⟩ ∧
      PlaceholderFree "ref".toList "__REF0_FROM t".toList ∧
      (∀ g, g <:+: "__REF0_FROM t".toList → ¬ Miscased "ref".toList g) ∧
      Clause.source.keyword.find? "ref".toList "__REF0_FROM t".toList =
        Clause.source.keyword.findWhole? false "__REF0_FROM t".toList := by
  have htag : PlainTag "ref".toList := by decide
  have hk := Keyword.Searched.clause .source
  have hfree : PlaceholderFree "ref".toList "FROM t FROM__REF0__FROM".toList :=
    (placeholderFree_iff (by decide)).mpr (by decide)
  have hfind : Clause.source.keyword.find? "ref".toList "FROM t FROM__REF0__FROM".toList =
      some ⟨[], "FROM".toList, " t FROM__REF0__FROM".toList⟩ := by
    decide +kernel
  have hwhole : Clause.source.keyword.findWhole? false "FROM t FROM__REF0__FROM".toList =
      some ⟨[], "FROM".toList, " t FROM__REF0__FROM".toList⟩ := by
    decide +kernel
  have hfree' : PlaceholderFree "ref".toList "__REF0_FROM t".toList :=
    (placeholderFree_iff (by decide)).mpr (by decide)
  have hnone : ∀ g, g <:+: "__REF0_FROM t".toList → ¬ Miscased "ref".toList g := by
    have hread := (not_infix_iff_read? (t := "__REF0_FROM t".toList) htag.railed_sameLetter).mpr
      (by decide +kernel)
    rintro g hg ⟨⟨d, hd⟩, -⟩
    exact hread g d hd hg
  have htouched := (find?_eq_findWhole?_iff htag hk hfree).2.1.mp (hfind.trans hwhole.symm)
  exact ⟨htag, hk, hfree, htouched, hfind, hfree', hnone,
    (find?_eq_findWhole?_iff htag hk hfree').2.2 hnone⟩

/-- No placeholder is in the text, and yet the keyword is found behind one. -/
theorem find?_behind_miscased :
    PlainTag "ref".toList ∧ Clause.source.keyword.Searched ∧
      PlaceholderFree "ref".toList "a__REF0__FROM t".toList ∧
      Clause.source.keyword.find? "ref".toList "a__REF0__FROM t".toList =
        some ⟨"a__REF0__".toList, "FROM".toList, " t".toList⟩ ∧
      Clause.source.keyword.findWhole? false "a__REF0__FROM t".toList = none := by
  refine ⟨by decide, .clause .source, (placeholderFree_iff (by decide)).mpr (by decide), ?_, ?_⟩
  · decide +kernel
  · decide +kernel

end SqlOutline
