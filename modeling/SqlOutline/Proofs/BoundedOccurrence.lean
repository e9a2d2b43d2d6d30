import SqlOutline.Boundary
import SqlOutline.Proofs.PlaceholderReading

/-!
What the search for a keyword finds.

An occurrence is bounded when words break on both sides of it. `Keyword.find?_eq_some_iff` says that
the search finds the bounded occurrence that starts first, and `Keyword.find?_eq_none_iff` that it
fails only where there is none. The search goes by the start of the break, not of the keyword: no
keyword starts inside a placeholder, and so both orders agree.
-/

namespace SqlOutline
open Unicode

/-- A break between words: a character that is no word character, or a placeholder of the tag. -/
def IsBreak (tag g : Text) : Prop :=
  (∃ c, isWordChar c = false ∧ g = [c]) ∨ ∃ d, Placeholder.Spells sameLetter tag g d

/-- A word may start behind `a`. -/
def EndsInBreak (tag a : Text) : Prop := a = [] ∨ ∃ x g, x ++ g = a ∧ IsBreak tag g

/-- A word may end in front of `b`. -/
def StartsInBreak (tag b : Text) : Prop := b = [] ∨ ∃ g y, g ++ y = b ∧ IsBreak tag g

/-- The keyword stands at `o`, with breaks on both sides. -/
structure Bounded (k : Keyword) (tag : Text) (o : Occurrence) : Prop where
  spelled : k.Spells o.found
  left : EndsInBreak tag o.before
  right : StartsInBreak tag o.after

/-- The keyword stands at `o`, and all that comes before it is one break. -/
structure BehindBreak (k : Keyword) (tag : Text) (o : Occurrence) : Prop where
  gap : IsBreak tag o.before
  spelled : k.Spells o.found
  right : StartsInBreak tag o.after

/-- A bounded occurrence starts the text or stands behind a break of it. -/
theorem Bounded.cases {k : Keyword} {tag : Text} {o : Occurrence} (h : Bounded k tag o) :
    o.before = [] ∨ ∃ (x : Text) (o₁ : Occurrence), o = o₁.behind x ∧ BehindBreak k tag o₁ := by
  rcases h.left with hnil | ⟨x, g, hx, hg⟩
  · exact .inl hnil
  · exact .inr ⟨x, ⟨g, o.found, o.after⟩, by simp [Occurrence.behind, hx], hg, h.spelled, h.right⟩

theorem BehindBreak.bounded {k : Keyword} {tag : Text} {o : Occurrence}
    (h : BehindBreak k tag o) (x : Text) : Bounded k tag (o.behind x) :=
  ⟨h.spelled, .inr ⟨x, o.before, rfl, h.gap⟩, h.right⟩

section
variable {tag : Text} (htag : Placeholder.PlainTag tag)
include htag

theorem readBreak_eq_some_iff {t g b : Text} :
    readBreak tag t = some (g, b) ↔ g ++ b = t ∧ IsBreak tag g := by
  have hrail := htag.railed_sameLetter
  cases t with
  | nil =>
    simp only [readBreak, reduceCtorEq, List.append_eq_nil_iff, false_iff]
    rintro ⟨⟨rfl, -⟩, ⟨c, -, hc⟩ | ⟨d, hd⟩⟩
    · simp at hc
    · exact hd.ne_nil hrail rfl
  | cons c t =>
    rw [readBreak]
    split
    · rename_i hc
      simp only [Option.map_eq_some_iff, Prod.mk.injEq]
      constructor
      · rintro ⟨r, hr, rfl, rfl⟩
        obtain ⟨ht, hs⟩ := (Placeholder.read?_eq_some_iff hrail).mp hr
        exact ⟨ht, .inr ⟨_, hs⟩⟩
      · rintro ⟨ht, ⟨c', hc', rfl⟩ | ⟨d, hd⟩⟩
        · obtain ⟨rfl, -⟩ : c' = c ∧ b = t := by simpa using ht
          simp [hc] at hc'
        · exact ⟨⟨g, d, b⟩, (Placeholder.read?_eq_some_iff hrail).mpr ⟨ht, hd⟩, rfl, rfl⟩
    · rename_i hc
      simp only [Option.some.injEq, Prod.mk.injEq]
      constructor
      · rintro ⟨rfl, rfl⟩
        exact ⟨rfl, .inl ⟨c, by simpa using hc, rfl⟩⟩
      · rintro ⟨ht, ⟨c', -, rfl⟩ | ⟨d, hd⟩⟩
        · obtain ⟨rfl, rfl⟩ : c' = c ∧ b = t := by simpa using ht
          exact ⟨rfl, rfl⟩
        · have hhead := hd.head?_eq hrail
          obtain ⟨c', g, rfl⟩ := List.exists_cons_of_ne_nil (hd.ne_nil hrail)
          obtain ⟨rfl, -⟩ : c' = c ∧ g ++ b = t := by simpa using ht
          obtain rfl : c' = '_' := by simpa using hhead
          exact absurd (by decide) hc

theorem breaksWord_iff {t : Text} : breaksWord tag t = true ↔ StartsInBreak tag t := by
  simp only [breaksWord, StartsInBreak, Bool.or_eq_true, List.isEmpty_iff, Option.isSome_iff_exists,
    Prod.exists, readBreak_eq_some_iff htag]

/-- Two breaks at the front of a text are the same. -/
theorem IsBreak.unique {g y g' y' : Text} (h : IsBreak tag g) (h' : IsBreak tag g')
    (ht : g ++ y = g' ++ y') : g = g' := by
  have hread := (readBreak_eq_some_iff htag).mpr ⟨ht, h⟩
  rw [(readBreak_eq_some_iff htag).mpr ⟨rfl, h'⟩] at hread
  simp_all

theorem IsBreak.ne_nil {g : Text} (h : IsBreak tag g) : g ≠ [] := by
  rcases h with ⟨c, -, rfl⟩ | ⟨d, hd⟩
  · simp
  · exact hd.ne_nil htag.railed_sameLetter

theorem StartsInBreak.head_not_isSolid {b : Text} (h : StartsInBreak tag b) :
    ∀ c ∈ b.head?, isSolid c = false := by
  intro c hc
  rcases h with rfl | ⟨g, y, rfl, ⟨c', hc', rfl⟩ | ⟨d, hd⟩⟩
  · simp at hc
  · obtain rfl : c' = c := by simpa using hc
    simp [isSolid, hc']
  · rw [List.head?_append_of_ne_nil _ (hd.ne_nil htag.railed_sameLetter),
      hd.head?_eq htag.railed_sameLetter] at hc
    obtain rfl : '_' = c := by simpa using hc
    rfl

theorem EndsInBreak.last_not_isSolid {a : Text} (h : EndsInBreak tag a) :
    ∀ c ∈ a.getLast?, isSolid c = false := by
  intro c hc
  rcases h with rfl | ⟨x, g, rfl, ⟨c', hc', rfl⟩ | ⟨d, hd⟩⟩
  · simp at hc
  · obtain rfl : c' = c := by simpa using hc
    simp [isSolid, hc']
  · rw [List.getLast?_append_of_ne_nil _ (hd.ne_nil htag.railed_sameLetter),
      hd.getLast?_eq htag.railed_sameLetter] at hc
    obtain rfl : '_' = c := by simpa using hc
    rfl

variable {k : Keyword} (hk : k.Plain)
include hk

omit htag in
theorem Bounded.found_ne_nil {o : Occurrence} (h : Bounded k tag o) : o.found ≠ [] :=
  h.spelled.ne_nil hk

/-- A bounded keyword starts with letters, and what comes behind these is not solid. -/
theorem Keyword.Spells.letters {f b : Text} (hf : k.Spells f) (hb : StartsInBreak tag b) :
    ∃ u r, u ++ r = f ++ b ∧ u ≠ [] ∧ (∀ c ∈ u, isSolid c = true ∧ isDecimalDigit c = false) ∧
      ∀ c ∈ r.head?, isSolid c = false := by
  obtain ⟨p, hp, hspell⟩ := hf
  have hletters := (hk p hp).1
  obtain ⟨w, hw, u, r, rfl, hu, hr⟩ := hspell.firstWord hletters
  refine ⟨u, r ++ b, by simp, ?_, fun c hc => ⟨hu.isSolid (hletters.alphanum hw) c hc,
    hu.not_isDecimalDigit (hletters.2 w hw).2 c hc⟩, ?_⟩
  · exact hu.ne_nil (hletters.2 w hw).1
  · intro c hc
    cases r with
    | nil => exact hb.head_not_isSolid htag c hc
    | cons d r =>
      obtain rfl : d = c := by simpa using hc
      simp [isSolid, not_isWordChar_of_isWhiteSpace (hr d rfl)]

/-- No bounded keyword starts inside a placeholder. -/
theorem Placeholder.Spells.no_keyword_inside {u z y d f b : Text}
    (h : Placeholder.Spells sameLetter tag (u ++ z) d) (hu : u ≠ []) (hz : z ≠ [])
    (hf : k.Spells f) (hb : StartsInBreak tag b) : z ++ y ≠ f ++ b := by
  intro ht
  obtain ⟨v, r, hv, hne, hletters, hr⟩ := hf.letters htag hk hb
  rw [← hv] at ht
  rcases h.inside htag hu hz with hhead | ⟨m, e, rfl, hm, hsolid, hlast⟩
  · obtain ⟨c, v, rfl⟩ := List.exists_cons_of_ne_nil hne
    obtain ⟨c', z, rfl⟩ := List.exists_cons_of_ne_nil hz
    obtain rfl : c' = '_' := by simpa using hhead
    obtain ⟨rfl, -⟩ : '_' = c ∧ z ++ y = v ++ r := by simpa using ht
    exact absurd (hletters '_' (by simp)).1 (by decide)
  · -- The letters stop before the last digit, and then another solid character comes.
    have hlv : m.getLast hm ∉ v := by
      intro hmem
      have hdigit := hlast _ (List.getLast?_eq_some_getLast hm)
      rw [(hletters _ hmem).2] at hdigit
      exact Bool.false_ne_true hdigit
    rw [List.append_assoc] at ht
    rcases List.append_eq_append_iff.mp ht with ⟨l, rfl, -⟩ | ⟨l, rfl, hl⟩
    · exact hlv (List.mem_append_left _ (List.getLast_mem hm))
    · cases l with
      | nil => exact hlv (by simp)
      | cons c l =>
        have hc := hr c (by simp [hl])
        rw [hsolid c (by simp)] at hc
        exact Bool.false_ne_true hc.symm

/-- Of two keywords behind breaks, the one whose break starts first starts first itself. -/
theorem BehindBreak.starts_no_later {o o' : Occurrence} (ho : BehindBreak k tag o)
    (ho' : BehindBreak k tag o') {x x' : Text} (ht : x ++ o.text = x' ++ o'.text)
    (hfirst : x.length ≤ x'.length) : (x ++ o.before).length ≤ (x' ++ o'.before).length := by
  by_contra hle
  obtain ⟨u, rfl⟩ : x <+: x' := List.prefix_of_prefix_length_le ⟨o.text, ht⟩ ⟨o'.text, rfl⟩ hfirst
  simp only [List.append_assoc, List.length_append, Occurrence.text] at hle ht
  have heq : o.before ++ (o.found ++ o.after) = u ++ (o'.before ++ (o'.found ++ o'.after)) :=
    List.append_cancel_left ht
  by_cases hu : u = []
  · subst hu
    have hsame := ho.gap.unique htag ho'.gap heq
    simp [hsame] at hle
  · -- The earlier break is a placeholder that the other keyword would start inside of.
    obtain ⟨z, hz⟩ : u ++ o'.before <+: o.before := List.prefix_of_prefix_length_le
      ⟨o'.found ++ o'.after, by simp [heq]⟩ ⟨o.found ++ o.after, rfl⟩
      (by simp only [List.length_append]; omega)
    have hzne : z ≠ [] := by
      rintro rfl
      simp [← hz] at hle
    have hrest : z ++ (o.found ++ o.after) = o'.found ++ o'.after := by
      rw [← hz] at heq
      simpa using heq
    rcases ho.gap with ⟨c, -, hc⟩ | ⟨d, hd⟩
    · have hlen := congrArg List.length (hz.trans hc)
      have hupos := List.length_pos_iff.mpr hu
      have hzpos := List.length_pos_iff.mpr hzne
      simp only [List.length_append, List.length_singleton] at hlen
      omega
    · rw [← hz] at hd
      exact hd.no_keyword_inside htag hk (by simp [hu]) hzne ho'.spelled ho'.right hrest

namespace Keyword

theorem readBounded_eq_some_iff {t f b : Text} :
    k.readBounded tag t = some (f, b) ↔ f ++ b = t ∧ k.Spells f ∧ StartsInBreak tag b := by
  simp only [readBounded, Reader.upTo, Option.filter_eq_some_iff, read_eq_some_iff hk,
    breaksWord_iff htag, and_assoc]

theorem behindBreak?_eq_some_iff {t : Text} {o : Occurrence} :
    k.behindBreak? tag t = some o ↔ o.text = t ∧ BehindBreak k tag o := by
  simp only [behindBreak?, Option.bind_eq_bind, Option.bind_eq_some_iff, Option.pure_def,
    Option.some.injEq, Prod.exists, readBreak_eq_some_iff htag, readBounded_eq_some_iff htag hk]
  constructor
  · rintro ⟨g, t', ⟨rfl, hg⟩, f, b, ⟨rfl, hf, hb⟩, rfl⟩
    exact ⟨by simp [Occurrence.text], hg, hf, hb⟩
  · rintro ⟨rfl, hg, hf, hb⟩
    exact ⟨o.before, o.found ++ o.after, ⟨by simp [Occurrence.text], hg⟩, o.found, o.after,
      ⟨rfl, hf, hb⟩, rfl⟩

theorem findBehindBreak?_eq_none_iff {t : Text} :
    k.findBehindBreak? tag t = none ↔
      ∀ (x : Text) (o : Occurrence), x ++ o.text = t → ¬ BehindBreak k tag o := by
  induction t with
  | nil =>
    simp only [findBehindBreak?, List.append_eq_nil_iff, Occurrence.text, true_iff]
    rintro x o ⟨-, ⟨⟨hg, -⟩, -⟩⟩ ho
    exact ho.gap.ne_nil htag hg
  | cons c t ih =>
    rw [findBehindBreak?]
    split
    · rename_i o ho
      obtain ⟨ht, ho⟩ := (behindBreak?_eq_some_iff htag hk).mp ho
      simp only [reduceCtorEq, false_iff]
      intro h
      exact h [] o ht ho
    · rename_i hnone
      rw [Option.map_eq_none_iff, ih]
      constructor
      · intro h x o ht ho
        cases x with
        | nil =>
          have := (behindBreak?_eq_some_iff htag hk).mpr ⟨ht, ho⟩
          simp [hnone] at this
        | cons d x => exact h x o (List.cons_eq_cons.mp ht).2 ho
      · intro h x o ht
        exact h (c :: x) o (by simp [ht])

/-- The search behind breaks finds the first break that has the keyword behind it. -/
theorem findBehindBreak?_spec {t : Text} {o : Occurrence} (h : k.findBehindBreak? tag t = some o) :
    ∃ (x : Text) (o₁ : Occurrence), o = o₁.behind x ∧ BehindBreak k tag o₁ ∧
      ∀ (x' : Text) (o' : Occurrence), x' ++ o'.text = t → BehindBreak k tag o' →
        x.length ≤ x'.length := by
  induction t generalizing o with
  | nil => simp [findBehindBreak?] at h
  | cons c t ih =>
    rw [findBehindBreak?] at h
    split at h
    · rename_i o₁ ho
      obtain rfl : o₁ = o := by simpa using h
      exact ⟨[], o₁, rfl, ((behindBreak?_eq_some_iff htag hk).mp ho).2, by simp⟩
    · rename_i hnone
      obtain ⟨o₂, ho₂, rfl⟩ := Option.map_eq_some_iff.mp h
      obtain ⟨x, o₁, rfl, ho₁, hfirst⟩ := ih ho₂
      refine ⟨c :: x, o₁, by simp [Occurrence.behind], ho₁, ?_⟩
      intro x' o' ht' ho'
      cases x' with
      | nil =>
        have := (behindBreak?_eq_some_iff htag hk).mpr ⟨ht', ho'⟩
        simp [hnone] at this
      | cons d x' => simpa using hfirst x' o' (List.cons_eq_cons.mp ht').2 ho'

/-- A bounded occurrence that is found starts no later than any other. -/
theorem find?_spec {t : Text} {o : Occurrence} (h : k.find? tag t = some o) :
    Bounded k tag o ∧ ∀ o' : Occurrence, o'.text = t → Bounded k tag o' →
      o.before.length ≤ o'.before.length := by
  have htext := text_of_find? h
  unfold find? at h
  split at h
  · rename_i f b hread
    obtain rfl : ⟨[], f, b⟩ = o := by simpa using h
    obtain ⟨-, hf, hb⟩ := (readBounded_eq_some_iff htag hk).mp hread
    exact ⟨⟨hf, .inl rfl, hb⟩, by simp⟩
  · rename_i hread
    obtain ⟨x, o, rfl, ho, hfirst⟩ := findBehindBreak?_spec htag hk h
    refine ⟨ho.bounded x, ?_⟩
    intro o' ht' ho'
    rcases ho'.cases with hnil | ⟨x', o', rfl, hbehind⟩
    · have := (readBounded_eq_some_iff (f := o'.found) (b := o'.after) (t := t) htag hk).mpr
        ⟨by simpa [Occurrence.text, hnil] using ht', ho'.spelled, ho'.right⟩
      simp [hread] at this
    · rw [Occurrence.text_behind] at htext ht'
      exact ho.starts_no_later htag hk hbehind (htext.trans ht'.symm) (hfirst x' o' ht' hbehind)

theorem find?_eq_none_iff {t : Text} :
    k.find? tag t = none ↔ ∀ o : Occurrence, o.text = t → ¬ Bounded k tag o := by
  constructor
  · intro h o ht ho
    unfold find? at h
    split at h
    · simp at h
    · rename_i hread
      rcases ho.cases with hnil | ⟨x, o, rfl, hbehind⟩
      · have := (readBounded_eq_some_iff (f := o.found) (b := o.after) (t := t) htag hk).mpr
          ⟨by simpa [Occurrence.text, hnil] using ht, ho.spelled, ho.right⟩
        simp [hread] at this
      · exact (findBehindBreak?_eq_none_iff htag hk).mp h x o (by simpa using ht) hbehind
  · intro h
    cases hfind : k.find? tag t with
    | none => rfl
    | some o => exact absurd (find?_spec htag hk hfind).1 (h o (text_of_find? hfind))

omit htag in
/-- Two spellings of the keyword behind fronts of one length of a text are the same occurrence. -/
theorem Spells.occurrence_eq {o o' : Occurrence} (ht : o.text = o'.text)
    (hlen : o.before.length = o'.before.length) (ho : k.Spells o.found) (ho' : k.Spells o'.found) :
    o = o' := by
  rw [Occurrence.text, Occurrence.text, List.append_assoc, List.append_assoc] at ht
  obtain ⟨hbefore, hrest⟩ := List.append_inj ht hlen
  have hfound := ho.unique hk hrest ho'
  rw [hfound] at hrest
  have hafter := List.append_cancel_left hrest
  cases o
  cases o'
  simp_all

/-- The search finds the bounded occurrence that starts first. -/
theorem find?_eq_some_iff {t : Text} {o : Occurrence} :
    k.find? tag t = some o ↔ o.text = t ∧ Bounded k tag o ∧
      ∀ o' : Occurrence, o'.text = t → Bounded k tag o' →
        o.before.length ≤ o'.before.length := by
  constructor
  · intro h
    exact ⟨text_of_find? h, find?_spec htag hk h⟩
  · rintro ⟨ht, ho, hfirst⟩
    cases hfind : k.find? tag t with
    | none => exact absurd ho ((find?_eq_none_iff htag hk).mp hfind o ht)
    | some o' =>
      obtain ⟨ho', hfirst'⟩ := find?_spec htag hk hfind
      have hlen := Nat.le_antisymm (hfirst' o ht ho) (hfirst o' (text_of_find? hfind) ho')
      rw [ho'.spelled.occurrence_eq hk ((text_of_find? hfind).trans ht.symm) hlen ho.spelled]

end Keyword

end
end SqlOutline
