import Mathlib.Data.List.Infix
import SqlOutline.Proofs.Lacking

/-!
Keywords around white space that parts two texts.

A keyword in `a ++ g ++ b`, where `g` is white space, is in `a`, or in `b`, or it reaches over the
gap: its first words end `a` and its other words start `b` (`Bounded.seam_cases`).
-/

namespace SqlOutline
open Unicode

namespace Phrase

/-- A spelling is divided at white space into the spellings of two parts of the phrase. -/
theorem Spells.split_at_gap {p : Phrase} {u g v : Text} (h : p.Spells (u ++ (g ++ v)))
    (hp : p.Lettered) (hg : IsGap g) (hun : u ≠ []) (hvn : v ≠ [])
    (hu : ∀ c ∈ u.getLast?, isWhiteSpace c = false) (hv : ∀ c ∈ v.head?, isWhiteSpace c = false) :
    ∃ q r, q ++ r = p ∧ q ≠ [] ∧ r ≠ [] ∧ q.Spells u ∧ r.Spells v := by
  induction p generalizing u with
  | nil => exact absurd rfl hp.1
  | cons w p ih =>
    obtain ⟨x, t, ht, hx, hrest⟩ := spells_cons_iff.mp h
    -- The first word ends with `u` or before it: otherwise it would have white space in it.
    obtain ⟨y, rfl, hy⟩ : ∃ y, u = x ++ y ∧ t = y ++ (g ++ v) := by
      rcases List.append_eq_append_iff.mp ht with hsplit | ⟨y, rfl, hy⟩
      · exact hsplit
      · cases y with
        | nil => exact ⟨[], by simp, by simpa using hy.symm⟩
        | cons d y =>
          obtain ⟨c, g, rfl⟩ := List.exists_cons_of_ne_nil hg.1
          obtain ⟨rfl, -⟩ := List.cons_eq_cons.mp hy
          have hno := not_isWhiteSpace_of_isSolid (hx.isSolid (hp.alphanum (by simp)) c (by simp))
          rw [hg.2 c (by simp)] at hno
          exact absurd hno (by simp)
    rcases hrest with ⟨-, rfl⟩ | ⟨hpn, g₁, z, rfl, hg₁, hz⟩
    · simp [hg.1] at hy
    · have hpl : Lettered p := hp.of_subset hpn (List.subset_cons_self w p)
      by_cases hyn : y = []
      · subst hyn
        obtain ⟨rfl, rfl⟩ := hg₁.agree hg (fun c hc =>
          hz.head_not_isWhiteSpace (b := []) hpl (by simpa using hc)) hv hy
        exact ⟨[w], p, rfl, by simp, hpn, by simpa [Spells] using hx, hz⟩
      · rw [List.getLast?_append_of_ne_nil _ hyn] at hu
        have hlast := hu (y.getLast hyn) (List.getLast?_eq_some_getLast hyn)
        rcases List.append_eq_append_iff.mp hy with ⟨m, rfl, hm⟩ | ⟨m, rfl, -⟩
        · by_cases hmn : m = []
          · subst hmn
            have hno := hg₁.2 (g₁.getLast hg₁.1) (List.getLast_mem hg₁.1)
            simp only [List.append_nil] at hlast
            rw [hlast] at hno
            exact absurd hno (by simp)
          · rw [List.getLast?_append_of_ne_nil _ hmn] at hu
            obtain ⟨q, r, rfl, hqn, hrn, hq, hr⟩ := ih (hm ▸ hz) hpl hmn hu
            refine ⟨w :: q, r, rfl, by simp, hrn, ?_, hr⟩
            exact spells_cons_iff.mpr ⟨x, g₁ ++ m, rfl, hx, .inr ⟨hqn, g₁, m, rfl, hg₁, hq⟩⟩
        · have hno := hg₁.2 _ (List.mem_append_left m (List.getLast_mem hyn))
          rw [hlast] at hno
          exact absurd hno (by simp)

end Phrase

/-- A text with no white space at its ends stands before a gap, behind it or around it. -/
theorem IsTrimmed.around_gap {l f r a g b : Text} (htrim : IsTrimmed f) (hf : f ≠ []) (hg : IsGap g)
    (ht : l ++ (f ++ r) = a ++ (g ++ b)) :
    (∃ y, l ++ (f ++ y) = a ∧ y ++ (g ++ b) = r) ∨ (∃ x, a ++ (g ++ x) = l ∧ x ++ (f ++ r) = b) ∨
      ∃ y z, y ≠ [] ∧ z ≠ [] ∧ l ++ y = a ∧ y ++ (g ++ z) = f ∧ z ++ r = b := by
  have hspace : ∀ c ∈ g, isWhiteSpace c = false → False := by
    intro c hc hno
    rw [hg.2 c hc] at hno
    exact absurd hno (by simp)
  rcases List.append_eq_append_iff.mp ht with ⟨y, rfl, hy⟩ | ⟨m, rfl, hm⟩
  · rcases List.append_eq_append_iff.mp hy with ⟨z, rfl, hz⟩ | ⟨z, rfl, hz⟩
    · exact .inl ⟨z, rfl, hz.symm⟩
    · by_cases hzn : z = []
      · subst hzn
        exact .inl ⟨[], by simp, hz⟩
      · -- The text goes on into the gap, so that it goes on behind it and starts before it.
        rcases List.append_eq_append_iff.mp hz with ⟨n, rfl, rfl⟩ | ⟨n, rfl, -⟩
        · have hyn : y ≠ [] := by
            rintro rfl
            exact hspace _ (List.head_mem hg.1) (htrim.front _ (by
              rw [List.nil_append, List.head?_append_of_ne_nil _ hg.1,
                List.head?_eq_some_head hg.1]
              rfl))
          have hnn : n ≠ [] := by
            rintro rfl
            exact hspace _ (List.getLast_mem hg.1) (htrim.back _ (by
              rw [List.append_nil, List.getLast?_append_of_ne_nil _ hg.1,
                List.getLast?_eq_some_getLast hg.1]
              rfl))
          exact .inr (.inr ⟨y, n, hyn, hnn, rfl, rfl, rfl⟩)
        · exact (hspace _ (List.mem_append_left n (List.getLast_mem hzn)) (htrim.back _ (by
            rw [List.getLast?_append_of_ne_nil _ hzn, List.getLast?_eq_some_getLast hzn]
            rfl))).elim
  · right; left
    rcases List.append_eq_append_iff.mp hm with ⟨x, rfl, rfl⟩ | ⟨n, rfl, hn⟩
    · exact ⟨x, rfl, rfl⟩
    · cases n with
      | nil => exact ⟨[], by simp, by simpa using hn⟩
      | cons c n =>
        obtain ⟨d, f, rfl⟩ := List.exists_cons_of_ne_nil hf
        obtain ⟨rfl, -⟩ := List.cons_eq_cons.mp hn
        exact (hspace d (by simp) (htrim.front d rfl)).elim

/-- Some first words of the keyword end `a`, where a word may start, and its other words start
`b`. -/
def Keyword.Straddles (k : Keyword) (tag a b : Text) : Prop :=
  ∃ (x u v : Text) (p q : Phrase), x ++ u = a ∧ EndsInBreak tag x ∧ v <+: b ∧ p ≠ [] ∧ q ≠ [] ∧
    p ++ q ∈ k.spellings ∧ p.Spells u ∧ q.Spells v

section
variable {tag : Text} (htag : Placeholder.PlainTag tag)
include htag

/-- A break with a character in it that no word has is that character. -/
theorem IsBreak.eq_of_not_isWordChar {h : Text} (hbreak : IsBreak tag h) {c : Char} (hc : c ∈ h)
    (hword : isWordChar c = false) : h = [c] := by
  rcases hbreak with ⟨d, -, rfl⟩ | ⟨d, hd⟩
  · rw [List.mem_singleton.mp hc]
  · have hyes := hd.isWordChar htag c hc
    rw [hword] at hyes
    exact absurd hyes (by simp)

/-- A break in front of a character that no word has ends there. -/
theorem StartsInBreak.of_append_cons {y b : Text} {x : Char} (h : StartsInBreak tag (y ++ x :: b))
    (hx : isWordChar x = false) : StartsInBreak tag y := by
  by_cases hy : y = []
  · exact .inl hy
  · rcases h with hnil | ⟨p, z, hp, hbreak⟩
    · simp at hnil
    · rcases List.append_eq_append_iff.mp hp with ⟨m, rfl, -⟩ | ⟨m, rfl, hm⟩
      · exact .inr ⟨p, m, rfl, hbreak⟩
      · cases m with
        | nil => exact .inr ⟨y, [], by simp, by simpa using hbreak⟩
        | cons d m =>
          obtain ⟨rfl, -⟩ := List.cons_eq_cons.mp hm
          have hlen := congrArg List.length
            (hbreak.eq_of_not_isWordChar htag (c := x) (by simp) hx)
          have hpos := List.length_pos_iff.mpr hy
          simp only [List.length_append, List.length_cons, List.length_nil] at hlen
          omega

/-- A break behind a character that no word has starts there. -/
theorem EndsInBreak.of_append_cons {a y : Text} {x : Char} (h : EndsInBreak tag (a ++ x :: y))
    (hx : isWordChar x = false) : EndsInBreak tag y := by
  by_cases hy : y = []
  · exact .inl hy
  · rcases h with hnil | ⟨z, p, hp, hbreak⟩
    · simp at hnil
    · rw [← List.singleton_append, ← List.append_assoc] at hp
      rcases List.append_eq_append_iff.mp hp with ⟨m, hm, rfl⟩ | ⟨m, rfl, rfl⟩
      · by_cases hmn : m = []
        · subst hmn
          exact .inr ⟨[], y, rfl, by simpa using hbreak⟩
        · have hlast : x ∈ m := by
            have he := congrArg List.getLast? hm
            rw [List.getLast?_concat, List.getLast?_append_of_ne_nil _ hmn] at he
            exact List.mem_of_getLast? he.symm
          have hlen := congrArg List.length
            (hbreak.eq_of_not_isWordChar htag (List.mem_append_left y hlast) hx)
          have hpos := List.length_pos_iff.mpr hy
          have hpos' := List.length_pos_iff.mpr hmn
          simp only [List.length_append, List.length_cons, List.length_nil] at hlen
          omega
      · exact .inr ⟨m, p, rfl, hbreak⟩

theorem StartsInBreak.of_gap {y g b : Text} (h : StartsInBreak tag (y ++ (g ++ b))) (hg : IsGap g) :
    StartsInBreak tag y := by
  obtain ⟨c, g, rfl⟩ := List.exists_cons_of_ne_nil hg.1
  exact h.of_append_cons htag (not_isWordChar_of_isWhiteSpace (hg.2 c (by simp)))

theorem EndsInBreak.of_gap {a g x : Text} (h : EndsInBreak tag (a ++ g ++ x)) (hg : IsGap g) :
    EndsInBreak tag x := by
  obtain ⟨g', c, rfl⟩ : ∃ g' c, g = g' ++ [c] :=
    ⟨_, _, (List.dropLast_concat_getLast hg.1).symm⟩
  have hform : a ++ (g' ++ [c]) ++ x = a ++ g' ++ c :: x := by simp
  exact (hform ▸ h).of_append_cons htag (not_isWordChar_of_isWhiteSpace (hg.2 c (by simp)))

variable {k : Keyword} (hk : k.Plain)
include hk

/-- A bounded keyword is on one side of white space, or reaches over it. -/
theorem Bounded.seam_cases {o : Occurrence} (ho : Bounded k tag o) {a g b : Text}
    (ht : o.text = a ++ g ++ b) (hg : IsGap g) (ha : ∀ c ∈ a.getLast?, isWhiteSpace c = false)
    (hb : ∀ c ∈ b.head?, isWhiteSpace c = false) :
    (∃ y, Occurrence.text ⟨o.before, o.found, y⟩ = a ∧ Bounded k tag ⟨o.before, o.found, y⟩) ∨
      (∃ x, a ++ g ++ x = o.before ∧ Occurrence.text ⟨x, o.found, o.after⟩ = b ∧
        Bounded k tag ⟨x, o.found, o.after⟩) ∨ k.Straddles tag a b := by
  obtain ⟨l, f, r⟩ := o
  have hf : f ≠ [] := ho.found_ne_nil hk
  have htrim : IsTrimmed f :=
    ⟨ho.spelled.head_not_isWhiteSpace hk, ho.spelled.last_not_isWhiteSpace hk⟩
  simp only [Occurrence.text, List.append_assoc] at ht ⊢
  rcases htrim.around_gap hf hg ht with
    ⟨y, rfl, rfl⟩ | ⟨x, rfl, rfl⟩ | ⟨y, z, hy, hz, rfl, rfl, rfl⟩
  · left
    exact ⟨y, rfl, ho.spelled, ho.left, ho.right.of_gap htag hg⟩
  · right; left
    have hleft : EndsInBreak tag (a ++ (g ++ x)) := ho.left
    rw [← List.append_assoc] at hleft
    exact ⟨x, rfl, rfl, ho.spelled, hleft.of_gap htag hg, ho.right⟩
  · right; right
    obtain ⟨p, hp, hspell⟩ := ho.spelled
    rw [List.getLast?_append_of_ne_nil _ hy] at ha
    rw [List.head?_append_of_ne_nil _ hz] at hb
    obtain ⟨q, q', rfl, hq, hq', hqy, hqz⟩ := hspell.split_at_gap (hk p hp).1 hg hy hz ha hb
    exact ⟨l, y, z, q, q', rfl, ho.left, ⟨r, rfl⟩, hq, hq', hp, hqy, hqz⟩

/-- What two texts lack is lacked by both with white space in between, unless it reaches over it. -/
theorem Lacks.seam {a g b : Text} (hla : Lacks k tag a) (hlb : Lacks k tag b)
    (hno : ¬ k.Straddles tag a b) (hg : IsGap g) (ha : ∀ c ∈ a.getLast?, isWhiteSpace c = false)
    (hb : ∀ c ∈ b.head?, isWhiteSpace c = false) : Lacks k tag (a ++ g ++ b) := by
  intro o ht ho
  rcases ho.seam_cases htag hk ht hg ha hb with ⟨y, hy, hin⟩ | ⟨x, -, hx, hin⟩ | hover
  · exact hla _ hy hin
  · exact hlb _ hx hin
  · exact hno hover

/-- What two texts lack is lacked by both with a character in between that no keyword has. -/
theorem Lacks.append_cons {a b : Text} (hla : Lacks k tag a) (hlb : Lacks k tag b) {x : Char}
    (hword : isWordChar x = false) (hspace : isWhiteSpace x = false) :
    Lacks k tag (a ++ x :: b) := by
  rintro ⟨l, f, r⟩ ht ho
  have hxf : x ∉ f := ho.spelled.notMem hk (by simp [isSolid, hword]) hspace
  simp only [Occurrence.text, List.append_assoc] at ht
  rcases List.append_eq_append_iff.mp ht with ⟨y, rfl, hy⟩ | ⟨m, rfl, hm⟩
  · -- The keyword starts in `a`, so that it ends there.
    rcases List.append_eq_append_iff.mp hy with ⟨z, rfl, rfl⟩ | ⟨m, rfl, hm⟩
    · exact hla ⟨l, f, z⟩ (by simp [Occurrence.text])
        ⟨ho.spelled, ho.left, ho.right.of_append_cons htag hword⟩
    · cases m with
      | nil =>
        obtain rfl : x :: b = r := by simpa using hm
        have hright : StartsInBreak tag ([] ++ x :: b) := ho.right
        exact hla ⟨l, y, []⟩ (by simp [Occurrence.text])
          ⟨by simpa using ho.spelled, ho.left, hright.of_append_cons htag hword⟩
      | cons c m =>
        obtain ⟨rfl, -⟩ := List.cons_eq_cons.mp hm
        exact hxf (by simp)
  · cases m with
    | nil =>
      obtain ⟨c, f, rfl⟩ := List.exists_cons_of_ne_nil (ho.found_ne_nil hk)
      obtain ⟨rfl, -⟩ := List.cons_eq_cons.mp hm
      exact hxf (by simp)
    | cons c m =>
      obtain ⟨rfl, rfl⟩ := List.cons_eq_cons.mp hm
      exact hlb ⟨m, f, r⟩ (by simp [Occurrence.text])
        ⟨ho.spelled, EndsInBreak.of_append_cons htag ho.left hword, ho.right⟩

/-- A keyword that starts behind white space is found there if it is nowhere before. -/
theorem find?_behind_gap {a g f z : Text} (hla : Lacks k tag a)
    (hno : ¬ k.Straddles tag a (f ++ z)) (hg : IsGap g)
    (ha : ∀ c ∈ a.getLast?, isWhiteSpace c = false) (ho : Bounded k tag ⟨[], f, z⟩) :
    k.find? tag (a ++ g ++ (f ++ z)) = some ⟨a ++ g, f, z⟩ := by
  rw [Keyword.find?_eq_some_iff htag hk]
  refine ⟨by simp [Occurrence.text], ⟨ho.spelled, Blank.endsInBreak hg.2 hg.1 tag a, ho.right⟩, ?_⟩
  intro o' ht' ho'
  have hstart : ∀ c ∈ (f ++ z).head?, isWhiteSpace c = false := by
    rw [List.head?_append_of_ne_nil _ (ho.found_ne_nil hk)]
    exact ho.spelled.head_not_isWhiteSpace hk
  rcases ho'.seam_cases htag hk ht' hg ha hstart with ⟨y, hy, hin⟩ | ⟨x, hx, -, -⟩ | hover
  · exact (hla _ hy hin).elim
  · rw [← hx]
    simp only [List.length_append]
    omega
  · exact (hno hover).elim

/-- A keyword that starts a text is found there. -/
theorem find?_at_start {f z : Text} (ho : Bounded k tag ⟨[], f, z⟩) :
    k.find? tag (f ++ z) = some ⟨[], f, z⟩ :=
  (Keyword.find?_eq_some_iff htag hk).mpr ⟨rfl, ho, by simp⟩

end

/-! White space behind a text. -/

/-- The same occurrence with `b` behind its text. -/
def Occurrence.followedBy (b : Text) (o : Occurrence) : Occurrence :=
  { o with after := o.after ++ b }

@[simp] theorem Occurrence.text_followedBy (b : Text) (o : Occurrence) :
    (o.followedBy b).text = o.text ++ b := by
  simp [followedBy, text]

theorem Bounded.append_blank {tag : Text} {k : Keyword} {o : Occurrence} (ho : Bounded k tag o)
    {g : Text} (hg : Blank g) : Bounded k tag (o.followedBy g) :=
  ⟨ho.spelled, ho.left, ho.right.append_blank hg⟩

section
variable {tag : Text} (htag : Placeholder.PlainTag tag)
include htag

theorem StartsInBreak.of_append_blank {b g : Text} (h : StartsInBreak tag (b ++ g))
    (hg : Blank g) : StartsInBreak tag b := by
  by_cases hgn : g = []
  · simpa [hgn] using h
  · rw [← List.append_nil g] at h
    exact h.of_gap htag ⟨hgn, hg⟩

variable {k : Keyword} (hk : k.Plain) {t g : Text} (hg : Blank g)
include hk hg

/-- A keyword does not reach into white space behind the text. -/
theorem Bounded.drop_blank {o : Occurrence} (ho : Bounded k tag o) (ht : o.text = t ++ g) :
    ∃ o' : Occurrence, o'.text = t ∧ o'.followedBy g = o ∧ Bounded k tag o' := by
  obtain ⟨b, hb, hafter⟩ := hg.split_append ht <| by
    rw [List.getLast?_append_of_ne_nil _ (ho.found_ne_nil hk)]
    exact ho.spelled.last_not_isWhiteSpace hk
  have hright : StartsInBreak tag (b ++ g) := hafter ▸ ho.right
  exact ⟨⟨o.before, o.found, b⟩, hb, by rw [Occurrence.followedBy, hafter], ho.spelled, ho.left,
    hright.of_append_blank htag hg⟩

/-- The search does not see white space behind the text. -/
theorem Keyword.find?_append_blank :
    k.find? tag (t ++ g) = (k.find? tag t).map (·.followedBy g) := by
  cases h : k.find? tag t with
  | none =>
    rw [find?_eq_none_iff htag hk] at h
    refine (find?_eq_none_iff htag hk).mpr fun o ht ho => ?_
    obtain ⟨o', ht', -, ho'⟩ := ho.drop_blank htag hk hg ht
    exact h o' ht' ho'
  | some o =>
    obtain ⟨rfl, ho, hfirst⟩ := (find?_eq_some_iff htag hk).mp h
    refine (find?_eq_some_iff htag hk).mpr ⟨by simp, ho.append_blank hg, fun o₁ ht₁ ho₁ => ?_⟩
    obtain ⟨o', ht', rfl, ho'⟩ := ho₁.drop_blank htag hk hg ht₁
    exact hfirst o' ht' ho'

theorem lacks_append_blank_iff : Lacks k tag (t ++ g) ↔ Lacks k tag t := by
  rw [lacks_iff htag hk, lacks_iff htag hk, Keyword.find?_append_blank htag hk hg,
    Option.map_eq_none_iff]

end

/-! Keywords that differ in their words. -/

/-- Whether two words differ in a letter that both have in the same place. -/
def wordsClash (w v : Text) : Bool := (List.zipWith sameLetter w v).any (!·)

/-- No word of `a` starts with the first word of a spelling of the keyword. -/
def Keyword.StartsNoWord (k : Keyword) (tag a : Text) : Prop :=
  ∀ x y, x ++ y = a → EndsInBreak tag x → ∀ p ∈ k.spellings, ∀ w ∈ p.head?, ∀ u, SameWord w u →
    ¬ u <+: y

theorem Phrase.Spells.head_word {p : Phrase} {a : Text} (h : p.Spells a) {w : Text}
    (hw : w ∈ p.head?) : ∃ u, u <+: a ∧ SameWord w u := by
  obtain ⟨p, rfl⟩ := List.head?_eq_some_iff.mp hw
  obtain ⟨u, r, rfl, hu, -⟩ := spells_cons_iff.mp h
  exact ⟨u, ⟨r, rfl⟩, hu⟩

namespace Keyword.StartsNoWord
variable {k : Keyword} {tag a : Text}

theorem lacks (h : k.StartsNoWord tag a) (hk : k.Plain) : Lacks k tag a := by
  rintro ⟨x, f, z⟩ ht ho
  obtain ⟨p, hp, hf⟩ := ho.spelled
  have hhead := List.head?_eq_some_head (hk p hp).1.1
  obtain ⟨u, hu, hw⟩ := Phrase.Spells.head_word hf hhead
  exact h x (f ++ z) (by rw [← ht, Occurrence.text, List.append_assoc]) ho.left p hp _ hhead u hw
    (hu.trans ⟨z, rfl⟩)

theorem not_straddles (h : k.StartsNoWord tag a) (b : Text) : ¬ k.Straddles tag a b := by
  rintro ⟨x, u, v, p, q, hx, hleft, -, hp, -, hmem, hu, -⟩
  have hhead := List.head?_eq_some_head hp
  obtain ⟨y, hy, hw⟩ := Phrase.Spells.head_word hu hhead
  refine h x u hx hleft (p ++ q) hmem _ ?_ y hw hy
  rw [List.head?_append, hhead]
  rfl

end Keyword.StartsNoWord

/-- The last words of the keyword clash with all spellings of `e`. -/
def Keyword.PartsFrom (k e : Keyword) : Prop :=
  ∀ p ∈ k.spellings, ∀ q ∈ p.tails, q ≠ [] → q ≠ p → ∀ r ∈ e.spellings, Phrase.clash q r = true

instance (k e : Keyword) : Decidable (k.PartsFrom e) := inferInstanceAs (Decidable (∀ _ ∈ _, _))

theorem Keyword.PartsFrom.not_straddles {k e : Keyword} (h : k.PartsFrom e) (hk : k.Plain)
    (he : e.Plain) {f b : Text} (hf : e.Spells f) (hb : f <+: b) (tag a : Text) :
    ¬ k.Straddles tag a b := by
  rintro ⟨x, u, v, p, q, -, -, ⟨z, hz⟩, hp, hq, hmem, -, hspell⟩
  obtain ⟨r, hr, hfr⟩ := hf
  obtain ⟨z', hz'⟩ := hb
  have hclash := h (p ++ q) hmem q ((List.mem_tails _ _).mpr ⟨p, rfl⟩) hq (by simp [hp]) r hr
  have hlettered := (hk _ hmem).1.of_subset hq (List.subset_append_right p q)
  exact Phrase.clash_sound hclash hlettered (he r hr).1 hspell hfr (hz.trans hz'.symm)

/-- The words of a phrase do not start with words that they clash with. -/
theorem Phrase.Spells.startsNoWord {tag : Text} (htag : Placeholder.PlainTag tag) {k : Keyword}
    (hk : k.Plain) {e : Phrase} {a : Text} (h : e.Spells a) (he : e.Lettered)
    (hclash : ∀ p ∈ k.spellings, ∀ w ∈ p.head?, ∀ v ∈ e, wordsClash w v = true) :
    k.StartsNoWord tag a := by
  induction e generalizing a with
  | nil => exact absurd rfl he.1
  | cons v e ih =>
    obtain ⟨u, r, rfl, hu, hrest⟩ := spells_cons_iff.mp h
    intro x y hxy hx p hp w hw u' hu' hpre
    have hwp : w ∈ p := List.mem_of_head? hw
    have hsolid := hu'.isSolid ((hk p hp).1.alphanum hwp)
    have hun := hu'.ne_nil ((hk p hp).1.2 w hwp).1
    rcases List.append_eq_append_iff.mp hxy with ⟨m, rfl, rfl⟩ | ⟨m, rfl, rfl⟩
    · by_cases hxn : x = []
      · subst hxn
        obtain ⟨z, hz⟩ := hpre
        have hno := hu'.agree hu hz
        rw [← wordsClash, hclash p hp w hw v (by simp)] at hno
        exact absurd hno (by simp)
      · have hlast := hx.last_not_isSolid htag _ (List.getLast?_eq_some_getLast hxn)
        rw [hu.isSolid (he.alphanum (by simp)) _
          (List.mem_append_left m (List.getLast_mem hxn))] at hlast
        exact absurd hlast (by simp)
    · rcases hrest with ⟨-, hnil⟩ | ⟨hen, g, z, hz, hg, hspell⟩
      · rw [(List.append_eq_nil_iff.mp hnil).2] at hpre
        exact hun (List.prefix_nil.mp hpre)
      · obtain ⟨x', rfl, rfl⟩ : ∃ x', m = g ++ x' ∧ z = x' ++ y := by
          rcases List.append_eq_append_iff.mp hz with hcut | ⟨n, rfl, rfl⟩
          · exact hcut
          · cases n with
            | nil => exact ⟨[], by simp, rfl⟩
            | cons c n =>
              obtain ⟨d, u', rfl⟩ := List.exists_cons_of_ne_nil hun
              obtain ⟨t, ht⟩ := hpre
              obtain ⟨rfl, -⟩ := List.cons_eq_cons.mp ht
              have hno := not_isWhiteSpace_of_isSolid (hsolid d (by simp))
              rw [hg.2 d (by simp)] at hno
              exact absurd hno (by simp)
        rw [← List.append_assoc] at hx
        exact ih hspell (he.of_subset hen (List.subset_cons_self v e))
          (fun p hp w hw v hv => hclash p hp w hw v (by simp [hv]))
          x' y rfl (hx.of_gap htag hg) p hp w hw u' hu' hpre

end SqlOutline
