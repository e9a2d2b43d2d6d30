import Mathlib.Data.List.Forall2
import Mathlib.Data.List.TakeDrop
import Mathlib.Data.List.TakeWhile
import SqlOutline.Keyword
import SqlOutline.Proofs.Characters

/-!
What readers accept, said without running them.

`Phrase.read_eq_some_iff` and `Keyword.read_eq_some_iff` turn a reading into a statement about the
part that was read; what comes after that part has no influence on it.
-/

namespace SqlOutline
open Unicode

namespace Reader

theorem andThen_eq_some {r s : Reader} {t a u b v : Text} (hr : r t = some (a, u))
    (hs : s u = some (b, v)) : (r.andThen s) t = some (a ++ b, v) := by
  rw [andThen, hr]
  show (s u).bind _ = _
  rw [hs]
  rfl

theorem letters_eq_some_iff {same : Char → Char → Bool} {w t a b : Text} :
    letters same w t = some (a, b) ↔
      a ++ b = t ∧ List.Forall₂ (fun l c => same l c = true) w a := by
  induction w generalizing t a with
  | nil =>
    simp only [letters, Option.some.injEq, Prod.mk.injEq, List.forall₂_nil_left_iff]
    constructor
    · rintro ⟨rfl, rfl⟩
      exact ⟨rfl, rfl⟩
    · rintro ⟨rfl, rfl⟩
      exact ⟨rfl, rfl⟩
  | cons l w ih =>
    constructor
    · intro h
      cases t with
      | nil => simp [letters] at h
      | cons c t =>
        rw [letters] at h
        split at h
        · rename_i hc
          obtain ⟨⟨a', b'⟩, ht, he⟩ := Option.map_eq_some_iff.mp h
          obtain ⟨rfl, rfl⟩ : c :: a' = a ∧ b' = b := by simpa using he
          obtain ⟨rfl, hw⟩ := ih.mp ht
          exact ⟨rfl, .cons hc hw⟩
        · simp at h
    · rintro ⟨rfl, h⟩
      cases h with
      | cons hc hw => simp [letters, hc, ih.mpr ⟨rfl, hw⟩]

theorem run_eq_some_iff {p : Char → Bool} {t a b : Text} :
    run p t = some (a, b) ↔
      a ++ b = t ∧ a ≠ [] ∧ (∀ c ∈ a, p c = true) ∧ ∀ c ∈ b.head?, p c = false := by
  constructor
  · intro h
    have hne := run_ne_nil h
    unfold run at h
    split at h
    · obtain ⟨rfl, rfl⟩ : t.takeWhile p = a ∧ t.dropWhile p = b := by simpa using h
      refine ⟨List.takeWhile_append_dropWhile, hne, fun c hc => List.mem_takeWhile_imp hc, ?_⟩
      intro c hc
      have := List.head?_dropWhile_not p t
      simp_all
    · simp at h
  · rintro ⟨rfl, hne, ha, hb⟩
    obtain ⟨c, a, rfl⟩ := List.exists_cons_of_ne_nil hne
    have hstop : b.takeWhile p = [] ∧ b.dropWhile p = b := by
      cases b with
      | nil => exact ⟨rfl, rfl⟩
      | cons d b => simp [hb d rfl]
    rw [run, if_pos (by simpa using ha c (by simp)), List.takeWhile_append_of_pos ha,
      List.dropWhile_append_of_pos ha, hstop.1, hstop.2, List.append_nil]

end Reader

/-- `u` is the word `w`, letter by letter and up to case. -/
def SameWord (w u : Text) : Prop := List.Forall₂ (fun l c => sameLetter l c = true) w u

instance (w u : Text) : Decidable (SameWord w u) :=
  inferInstanceAs (Decidable (List.Forall₂ _ w u))

/-- A mixture of case is the same word. -/
theorem SameWord.of_map_toLower {w u : Text} (hw : ∀ l ∈ w, l.isAlphanum = true)
    (h : u.map Char.toLower = w.map Char.toLower) : SameWord w u := by
  induction w generalizing u with
  | nil =>
    obtain rfl : u = [] := by simpa using h
    exact .nil
  | cons l w ih =>
    obtain ⟨c, u, rfl, hc, hu⟩ := List.map_eq_cons_iff.mp h
    have hl : l.toNat < 128 := toNat_lt_of_isAlphanum (hw l (by simp))
    exact .cons (sameLetter_of_toLower hl hc) (ih (fun x hx => hw x (by simp [hx])) hu)

theorem SameWord.ne_nil {w u : Text} (h : SameWord w u) (hw : w ≠ []) : u ≠ [] := by
  rintro rfl
  exact hw (List.forall₂_nil_right_iff.mp h)

/-- What holds of all that the letters of `w` stand for holds of a text that they stand for. -/
theorem forall_of_forall₂ {α β : Type} {r : α → β → Prop} {p : β → Prop} {w : List α} {u : List β}
    (h : List.Forall₂ r w u) (hp : ∀ l ∈ w, ∀ c, r l c → p c) : ∀ c ∈ u, p c := by
  induction h with
  | nil => simp
  | cons hl _ ih =>
    intro c hc
    rcases List.mem_cons.mp hc with rfl | hc
    · exact hp _ (by simp) _ hl
    · exact ih (fun l hl => hp l (by simp [hl])) c hc

theorem SameWord.isSolid {w u : Text} (h : SameWord w u) (hw : ∀ l ∈ w, l.isAlphanum = true) :
    ∀ c ∈ u, isSolid c = true :=
  forall_of_forall₂ h fun l hl _ => isSolid_of_sameLetter (hw l hl)

theorem SameWord.not_isDecimalDigit {w u : Text} (h : SameWord w u)
    (hw : ∀ l ∈ w, l.isAlpha = true) : ∀ c ∈ u, isDecimalDigit c = false :=
  forall_of_forall₂ h fun l hl _ => not_isDecimalDigit_of_sameLetter (hw l hl)

/-- A run of white space between two parts of a text. -/
def IsGap (g : Text) : Prop := g ≠ [] ∧ ∀ c ∈ g, isWhiteSpace c = true

instance (g : Text) : Decidable (IsGap g) :=
  decidable_of_iff (g ≠ [] ∧ g.all isWhiteSpace = true) (by simp [IsGap])

theorem IsGap.last_isWhiteSpace {g : Text} (hg : IsGap g) (y : Text) :
    ∀ c ∈ (y ++ g).getLast?, isWhiteSpace c = true := by
  intro c hc
  rw [List.getLast?_append_of_ne_nil _ hg.1] at hc
  exact hg.2 c (List.mem_of_getLast? hc)

namespace Phrase

/-- `a` spells the phrase: its words up to case, with white space between them. -/
def Spells : Phrase → Text → Prop
  | [], a => a = []
  | [w], a => SameWord w a
  | w :: v :: ws, a =>
    ∃ u g r, u ++ g ++ r = a ∧ SameWord w u ∧ IsGap g ∧ Spells (v :: ws) r

/-- The phrase has words, and these are made of ASCII letters. -/
def Lettered (p : Phrase) : Prop := p ≠ [] ∧ ∀ w ∈ p, w ≠ [] ∧ ∀ l ∈ w, l.isAlpha = true

instance (p : Phrase) : Decidable p.Lettered :=
  decidable_of_iff (p ≠ [] ∧ ∀ w ∈ p, w ≠ [] ∧ w.all Char.isAlpha = true) (by simp [Lettered])

theorem Lettered.of_subset {p q : Phrase} (h : p.Lettered) (hq : q ≠ []) (hsub : q ⊆ p) :
    q.Lettered :=
  ⟨hq, fun w hw => h.2 w (hsub hw)⟩

theorem Lettered.tail {w v : Text} {ws : List Text} (h : Lettered (w :: v :: ws)) :
    Lettered (v :: ws) :=
  h.of_subset (by simp) (List.subset_cons_self w (v :: ws))

theorem Lettered.alphanum {p : Phrase} (h : p.Lettered) {w : Text} (hw : w ∈ p) :
    ∀ l ∈ w, l.isAlphanum = true :=
  fun l hl => isAlphanum_of_isAlpha ((h.2 w hw).2 l hl)

/-- A spelling is that of the first word alone, or goes on with white space and the other words. -/
theorem spells_cons_iff {w : Text} {p : Phrase} {a : Text} :
    Spells (w :: p) a ↔ ∃ u r, u ++ r = a ∧ SameWord w u ∧
      ((p = [] ∧ r = []) ∨ (p ≠ [] ∧ ∃ g x, g ++ x = r ∧ IsGap g ∧ p.Spells x)) := by
  cases p with
  | nil => simp [Spells]
  | cons v ws =>
    simp only [Spells, reduceCtorEq, false_and, false_or, ne_eq, not_false_iff, true_and]
    constructor
    · rintro ⟨u, g, r, rfl, hu, hg, hr⟩
      exact ⟨u, g ++ r, by simp, hu, g, r, rfl, hg, hr⟩
    · rintro ⟨u, r, rfl, hu, g, x, rfl, hg, hx⟩
      exact ⟨u, g, x, by simp, hu, hg, hx⟩

/-- Behind the first word a spelling ends or goes on with white space. -/
theorem Spells.firstWord {p : Phrase} {a : Text} (h : p.Spells a) (hp : p.Lettered) :
    ∃ w ∈ p, ∃ u r, u ++ r = a ∧ SameWord w u ∧ ∀ c ∈ r.head?, isWhiteSpace c = true := by
  obtain ⟨w, p, rfl⟩ := List.exists_cons_of_ne_nil hp.1
  obtain ⟨u, r, rfl, hu, ⟨rfl, rfl⟩ | ⟨-, g, x, rfl, hg, -⟩⟩ := spells_cons_iff.mp h
  · exact ⟨w, by simp, u, [], rfl, hu, by simp⟩
  · refine ⟨w, by simp, u, g ++ x, rfl, hu, ?_⟩
    obtain ⟨c, g, rfl⟩ := List.exists_cons_of_ne_nil hg.1
    intro d hd
    obtain rfl : c = d := by simpa using hd
    exact hg.2 c (by simp)

theorem Spells.ne_nil {p : Phrase} {a : Text} (h : p.Spells a) (hp : p.Lettered) : a ≠ [] := by
  obtain ⟨w, hw, u, r, rfl, hu, -⟩ := h.firstWord hp
  intro he
  exact hu.ne_nil (hp.2 w hw).1 (List.append_eq_nil_iff.mp he).1

theorem Spells.head_isSolid {p : Phrase} {a : Text} (h : p.Spells a) (hp : p.Lettered) {c : Char}
    (hc : c ∈ a.head?) : isSolid c = true := by
  obtain ⟨w, hw, u, r, rfl, hu, -⟩ := h.firstWord hp
  cases hu with
  | nil => exact absurd rfl (hp.2 _ hw).1
  | cons hl hu =>
    obtain rfl : _ = c := by simpa using hc
    exact isSolid_of_sameLetter (hp.alphanum hw _ (by simp)) hl

/-- A spelling ends with the last word. -/
theorem Spells.lastWord {p : Phrase} {a : Text} (h : p.Spells a) (hp : p.Lettered) :
    ∃ w ∈ p.getLast?, ∃ r u, r ++ u = a ∧ SameWord w u := by
  fun_induction Spells p a with
  | case1 => exact absurd rfl hp.1
  | case2 w a => exact ⟨w, rfl, [], a, rfl, h⟩
  | case3 w v ws a ih =>
    obtain ⟨u, g, r, rfl, -, -, hr⟩ := h
    obtain ⟨x, hx, r', u', rfl, hu'⟩ := ih r hr hp.tail
    exact ⟨x, hx, u ++ g ++ r', u', by simp, hu'⟩

theorem Spells.last_letter {p : Phrase} {a : Text} (h : p.Spells a) (hp : p.Lettered) {c : Char}
    (hc : c ∈ a.getLast?) : isSolid c = true ∧ isDecimalDigit c = false := by
  obtain ⟨w, hw, r, u, rfl, hu⟩ := h.lastWord hp
  have hmem := List.mem_of_getLast? hw
  rw [List.getLast?_append_of_ne_nil _ (hu.ne_nil (hp.2 w hmem).1)] at hc
  have hin := List.mem_of_getLast? hc
  exact ⟨hu.isSolid (hp.alphanum hmem) c hin, hu.not_isDecimalDigit (hp.2 w hmem).2 c hin⟩

/-- A spelling has letters and white space alone. -/
theorem Spells.mem {p : Phrase} {a : Text} (h : p.Spells a) (hp : p.Lettered) {c : Char}
    (hc : c ∈ a) : isSolid c = true ∨ isWhiteSpace c = true := by
  fun_induction Spells p a with
  | case1 => exact absurd rfl hp.1
  | case2 w a => exact .inl (SameWord.isSolid h (hp.alphanum (by simp)) c hc)
  | case3 w v ws a ih =>
    obtain ⟨u, g, r, rfl, hu, hg, hr⟩ := h
    simp only [List.mem_append] at hc
    rcases hc with (hc | hc) | hc
    · exact .inl (hu.isSolid (hp.alphanum (by simp)) c hc)
    · exact .inr (hg.2 c hc)
    · exact ih r hr hp.tail hc

/-- Reading a phrase depends on its spelling alone. -/
theorem read_eq_some_iff {p : Phrase} (hp : p.Lettered) {t a b : Text} :
    p.read t = some (a, b) ↔ a ++ b = t ∧ p.Spells a := by
  fun_induction Phrase.read p generalizing t a with
  | case1 => exact absurd rfl hp.1
  | case2 w => exact Reader.letters_eq_some_iff
  | case3 w v ws ih =>
    simp only [Reader.andThen, Option.bind_eq_bind, Option.bind_eq_some_iff, Option.pure_def,
      Option.some.injEq, Prod.mk.injEq, Prod.exists]
    constructor
    · rintro ⟨u, t₁, h₁, x, t₂, ⟨g, t₃, h₃, r, t₄, h₄, rfl, rfl⟩, rfl, rfl⟩
      obtain ⟨rfl, hu⟩ := Reader.letters_eq_some_iff.mp h₁
      obtain ⟨rfl, hne, hg, -⟩ := Reader.run_eq_some_iff.mp h₃
      obtain ⟨rfl, hr⟩ := (ih hp.tail).mp h₄
      exact ⟨by simp, u, g, r, by simp, hu, ⟨hne, hg⟩, hr⟩
    · rintro ⟨rfl, u, g, r, rfl, hu, ⟨hne, hg⟩, hr⟩
      refine ⟨u, g ++ (r ++ b), Reader.letters_eq_some_iff.mpr ⟨by simp, hu⟩, g ++ r, b,
        ⟨g, r ++ b, Reader.run_eq_some_iff.mpr ⟨rfl, hne, hg, ?_⟩, r, b,
          (ih hp.tail).mpr ⟨rfl, hr⟩, rfl, rfl⟩, by simp, rfl⟩
      -- The run of white space is as long as it can be: the next word starts behind it.
      intro c hc
      obtain ⟨d, r, rfl⟩ := List.exists_cons_of_ne_nil (hr.ne_nil hp.tail)
      obtain rfl : d = c := by simpa using hc
      exact not_isWhiteSpace_of_isSolid (hr.head_isSolid hp.tail rfl)

/-- Two spellings of one phrase at the front of a text are the same. -/
theorem Spells.unique {p : Phrase} (hp : p.Lettered) {a b a' b' : Text} (ht : a ++ b = a' ++ b')
    (ha : p.Spells a) (ha' : p.Spells a') : a = a' := by
  have h := (read_eq_some_iff hp).mpr ⟨ht, ha⟩
  rw [(read_eq_some_iff hp).mpr ⟨rfl, ha'⟩] at h
  simp_all

/-- Whether two phrases differ in a letter that both have in the same place. -/
def clash : Phrase → Phrase → Bool
  | w :: p, v :: q =>
    (List.zipWith sameLetter w v).any (!·) || (w == v && clash p q)
  | _, _ => false

end Phrase

theorem SameWord.agree {w v u u' x y : Text} (hw : SameWord w u) (hv : SameWord v u')
    (h : u ++ x = u' ++ y) : (List.zipWith sameLetter w v).any (!·) = false := by
  induction hw generalizing v u' with
  | nil => simp
  | cons hl _ ih =>
    cases hv with
    | nil => simp
    | cons hm hv =>
      obtain ⟨rfl, htail⟩ := List.cons_eq_cons.mp h
      have hlm := sameLetter_trans hl (sameLetter_comm _ _ ▸ hm)
      simpa [hlm] using ih hv htail

theorem IsGap.agree {g r g' r' : Text} (hg : IsGap g) (hg' : IsGap g')
    (hr : ∀ c ∈ r.head?, isWhiteSpace c = false) (hr' : ∀ c ∈ r'.head?, isWhiteSpace c = false)
    (h : g ++ r = g' ++ r') : g = g' ∧ r = r' := by
  have h₁ : Reader.run isWhiteSpace (g ++ r) = some (g, r) :=
    Reader.run_eq_some_iff.mpr ⟨rfl, hg.1, hg.2, hr⟩
  rw [h, Reader.run_eq_some_iff.mpr ⟨rfl, hg'.1, hg'.2, hr'⟩] at h₁
  simp_all

/-- A word in front of a text with a gap in it ends in front of the gap. -/
theorem IsGap.split_word {m : Text} (hm : IsGap m) {v r u z : Text}
    (hv : ∀ c ∈ v, isWhiteSpace c = false) (h : v ++ r = u ++ (m ++ z)) :
    ∃ b, v ++ b = u ∧ b ++ (m ++ z) = r := by
  rcases List.append_eq_append_iff.mp h with ⟨b, rfl, rfl⟩ | ⟨b, rfl, hb⟩
  · exact ⟨b, rfl, rfl⟩
  · cases b with
    | nil => exact ⟨[], by simp, hb⟩
    | cons c b =>
      obtain ⟨d, m, rfl⟩ := List.exists_cons_of_ne_nil hm.1
      obtain ⟨rfl, -⟩ := List.cons_eq_cons.mp hb
      have hspace := hm.2 d (List.mem_cons_self ..)
      rw [hv d (by simp)] at hspace
      exact absurd hspace Bool.false_ne_true

/-- White space and then a text that starts with none, where a gap stands: the gap lies in the white
space or behind it. -/
theorem IsGap.split_gap {m : Text} (hm : IsGap m) {g x b z : Text}
    (hx : ∀ c ∈ x.head?, isWhiteSpace c = false) (h : g ++ x = b ++ (m ++ z)) :
    (∃ b', g ++ b' = b ∧ b' ++ (m ++ z) = x) ∨ ∃ m₂, b ++ (m ++ m₂) = g ∧ m₂ ++ x = z := by
  rcases List.append_eq_append_iff.mp h with ⟨b', rfl, rfl⟩ | ⟨g', rfl, hg⟩
  · exact .inl ⟨b', rfl, rfl⟩
  · right
    rcases List.append_eq_append_iff.mp hg with ⟨m₂, rfl, rfl⟩ | ⟨m₂, rfl, rfl⟩
    · exact ⟨m₂, rfl, rfl⟩
    · cases m₂ with
      | nil => exact ⟨[], by simp, rfl⟩
      | cons c m₂ =>
        have hspace := hm.2 c (by simp)
        rw [hx c rfl] at hspace
        exact absurd hspace Bool.false_ne_true

namespace Phrase

theorem Spells.head_not_isWhiteSpace {p : Phrase} {a b : Text} (h : p.Spells a) (hp : p.Lettered)
    {c : Char} (hc : c ∈ (a ++ b).head?) : isWhiteSpace c = false := by
  obtain ⟨d, a, rfl⟩ := List.exists_cons_of_ne_nil (h.ne_nil hp)
  obtain rfl : d = c := by simpa using hc
  exact not_isWhiteSpace_of_isSolid (h.head_isSolid hp rfl)

/-- No text starts with spellings of two phrases that clash. -/
theorem clash_sound {p q : Phrase} (h : p.clash q = true) (hp : p.Lettered) (hq : q.Lettered)
    {a b a' b' : Text} (ha : p.Spells a) (ha' : q.Spells a') : a ++ b ≠ a' ++ b' := by
  fun_induction clash p q generalizing a a' with
  | case1 w p v q ih =>
    intro ht
    obtain ⟨u, r, rfl, hu, hr⟩ := spells_cons_iff.mp ha
    obtain ⟨u', r', rfl, hu', hr'⟩ := spells_cons_iff.mp ha'
    rw [List.append_assoc, List.append_assoc] at ht
    rw [hu.agree hu' ht, Bool.false_or, Bool.and_eq_true, beq_iff_eq] at h
    obtain ⟨rfl, hpq⟩ := h
    obtain ⟨rfl, htail⟩ := List.append_inj ht (hu.length_eq.symm.trans hu'.length_eq)
    have hne : p ≠ [] ∧ q ≠ [] := by
      constructor <;> rintro rfl <;> simp [clash] at hpq
    obtain ⟨g, x, rfl, hg, hx⟩ := (hr.resolve_left fun h => hne.1 h.1).2
    obtain ⟨g', x', rfl, hg', hx'⟩ := (hr'.resolve_left fun h => hne.2 h.1).2
    have hp' : Lettered p := hp.of_subset hne.1 (List.subset_cons_self w p)
    have hq' : Lettered q := hq.of_subset hne.2 (List.subset_cons_self w q)
    rw [List.append_assoc, List.append_assoc] at htail
    have hrest := (hg.agree hg' (fun c => hx.head_not_isWhiteSpace hp')
      (fun c => hx'.head_not_isWhiteSpace hq') htail).2
    exact ih hpq hp' hq' hx hx' hrest
  | case2 => simp at h

end Phrase

namespace Keyword

/-- `a` spells the keyword in one of its ways. -/
def Spells (k : Keyword) (a : Text) : Prop := ∃ p ∈ k.spellings, p.Spells a

/-- The keyword is made of letters, and no text starts with two of its spellings. -/
def Plain (k : Keyword) : Prop :=
  ∀ p ∈ k.spellings, p.Lettered ∧ ∀ q ∈ k.spellings, p = q ∨ p.clash q = true

instance (k : Keyword) : Decidable k.Plain := inferInstanceAs (Decidable (∀ _ ∈ _, _))

/-- Whether a spelling of the keyword may start with `c`. -/
def mayStartWith (k : Keyword) (c : Char) : Bool :=
  k.spellings.any fun p => p.head?.any fun w => w.head?.any (sameLetter · c)

/-- The letters that the spellings of the keyword start with. -/
def initials (k : Keyword) : List Char := k.spellings.filterMap fun p => p.head?.bind List.head?

theorem mayStartWith_iff {k : Keyword} {c : Char} :
    k.mayStartWith c = true ↔ ∃ l ∈ k.initials, sameLetter l c = true := by
  simp only [mayStartWith, initials, List.any_eq_true, Option.any_eq_true, List.mem_filterMap,
    Option.bind_eq_some_iff]
  constructor
  · rintro ⟨p, hp, w, hw, l, hl, hc⟩
    exact ⟨l, ⟨p, hp, w, hw, hl⟩, hc⟩
  · rintro ⟨l, ⟨p, hp, w, hw, hl⟩, hc⟩
    exact ⟨p, hp, w, hw, l, hl, hc⟩

/-- Keywords with different initials start with different characters. -/
theorem mayStartWith_eq_false {k j : Keyword} (h : k.initials.any j.mayStartWith = false)
    {c : Char} (hc : k.mayStartWith c = true) : j.mayStartWith c = false := by
  obtain ⟨l, hl, hlc⟩ := mayStartWith_iff.mp hc
  rw [Bool.eq_false_iff]
  intro hj
  obtain ⟨m, hm, hmc⟩ := mayStartWith_iff.mp hj
  have hml : j.mayStartWith l = true :=
    mayStartWith_iff.mpr ⟨m, hm, sameLetter_trans hmc (sameLetter_comm l c ▸ hlc)⟩
  exact List.any_eq_false.mp h l hl hml

section
variable {k : Keyword} (hk : k.Plain)
include hk

theorem Spells.unique {a b a' b' : Text} (ht : a ++ b = a' ++ b') (ha : k.Spells a)
    (ha' : k.Spells a') : a = a' := by
  obtain ⟨p, hp, ha⟩ := ha
  obtain ⟨q, hq, ha'⟩ := ha'
  rcases (hk p hp).2 q hq with rfl | hc
  · exact Phrase.Spells.unique (hk p hp).1 ht ha ha'
  · exact absurd ht (Phrase.clash_sound hc (hk p hp).1 (hk q hq).1 ha ha')

/-- Reading a keyword depends on its spelling alone. -/
theorem read_eq_some_iff {t a b : Text} : k.read t = some (a, b) ↔ a ++ b = t ∧ k.Spells a := by
  constructor
  · intro h
    obtain ⟨r, hr, ht⟩ := List.exists_of_findSome?_eq_some h
    obtain ⟨p, hp, rfl⟩ := List.mem_map.mp hr
    obtain ⟨ht, ha⟩ := (Phrase.read_eq_some_iff (hk p hp).1).mp ht
    exact ⟨ht, p, hp, ha⟩
  · rintro ⟨rfl, p, hp, ha⟩
    have hread : p.read (a ++ b) = some (a, b) :=
      (Phrase.read_eq_some_iff (hk p hp).1).mpr ⟨rfl, ha⟩
    cases h : k.read (a ++ b) with
    | none =>
      have hnone := List.findSome?_eq_none_iff.mp h p.read (List.mem_map.mpr ⟨p, hp, rfl⟩)
      rw [hread] at hnone
      simp at hnone
    | some x =>
      obtain ⟨a', b'⟩ := x
      obtain ⟨r, hr, ht⟩ := List.exists_of_findSome?_eq_some h
      obtain ⟨q, hq, rfl⟩ := List.mem_map.mp hr
      obtain ⟨ht, ha'⟩ := (Phrase.read_eq_some_iff (hk q hq).1).mp ht
      obtain rfl := Spells.unique hk ht ⟨q, hq, ha'⟩ ⟨p, hp, ha⟩
      simp_all

theorem Spells.ne_nil {a : Text} (h : k.Spells a) : a ≠ [] := by
  obtain ⟨p, hp, ha⟩ := h
  exact ha.ne_nil (hk p hp).1

theorem Spells.head_isSolid {a : Text} (h : k.Spells a) {c : Char} (hc : c ∈ a.head?) :
    isSolid c = true := by
  obtain ⟨p, hp, ha⟩ := h
  exact ha.head_isSolid (hk p hp).1 hc

theorem Spells.mayStartWith {c : Char} {a : Text} (h : k.Spells (c :: a)) :
    k.mayStartWith c = true := by
  obtain ⟨p, hp, ha⟩ := h
  obtain ⟨w, p, rfl⟩ := List.exists_cons_of_ne_nil (hk p hp).1.1
  obtain ⟨u, r, hu, hw, -⟩ := Phrase.spells_cons_iff.mp ha
  cases hw with
  | nil => exact absurd rfl ((hk _ hp).1.2 [] (by simp)).1
  | @cons l d w u hl hw =>
    obtain ⟨rfl, -⟩ := List.cons_eq_cons.mp hu
    exact List.any_eq_true.mpr ⟨_, hp, by simpa using hl⟩

theorem Spells.last_letter {a : Text} (h : k.Spells a) {c : Char} (hc : c ∈ a.getLast?) :
    isSolid c = true ∧ isDecimalDigit c = false := by
  obtain ⟨p, hp, ha⟩ := h
  exact ha.last_letter (hk p hp).1 hc

theorem Spells.mem {a : Text} (h : k.Spells a) {c : Char} (hc : c ∈ a) :
    isSolid c = true ∨ isWhiteSpace c = true := by
  obtain ⟨p, hp, ha⟩ := h
  exact ha.mem (hk p hp).1 hc

theorem Spells.notMem {a : Text} (h : k.Spells a) {c : Char} (hsolid : isSolid c = false)
    (hspace : isWhiteSpace c = false) : c ∉ a := by
  intro hc
  rcases h.mem hk hc with hyes | hyes
  · rw [hsolid] at hyes
    exact Bool.false_ne_true hyes
  · rw [hspace] at hyes
    exact Bool.false_ne_true hyes

theorem Spells.head_not_isWhiteSpace {a : Text} (h : k.Spells a) :
    ∀ c ∈ a.head?, isWhiteSpace c = false :=
  fun _ hc => not_isWhiteSpace_of_isSolid (h.head_isSolid hk hc)

theorem Spells.last_not_isWhiteSpace {a : Text} (h : k.Spells a) :
    ∀ c ∈ a.getLast?, isWhiteSpace c = false :=
  fun _ hc => not_isWhiteSpace_of_isSolid (h.last_letter hk hc).1

/-- A keyword is whole where it is spelled out and a word may end behind it. -/
theorem readWhole_eq_some_iff {t a b : Text} :
    k.readWhole t = some (a, b) ↔ a ++ b = t ∧ k.Spells a ∧ endsWord b = true := by
  simp only [readWhole, Reader.upTo, Option.filter_eq_some_iff, read_eq_some_iff hk, and_assoc]

/-- A keyword that reads as a whole is read where a word may end behind it. -/
theorem readWhole_append {a b : Text} (ha : k.read a = some (a, [])) (hb : endsWord b = true) :
    k.readWhole (a ++ b) = some (a, b) :=
  (readWhole_eq_some_iff hk).mpr ⟨rfl, ((read_eq_some_iff hk).mp ha).2, hb⟩

/-- A text whose first character starts no spelling does not start with the keyword. -/
theorem readWhole_cons_eq_none {c : Char} (hc : k.mayStartWith c = false) (t : Text) :
    k.readWhole (c :: t) = none := by
  rw [Option.eq_none_iff_forall_ne_some]
  rintro ⟨a, b⟩ hread
  obtain ⟨ht, ha, -⟩ := (readWhole_eq_some_iff hk).mp hread
  obtain ⟨d, a, rfl⟩ := List.exists_cons_of_ne_nil (ha.ne_nil hk)
  obtain ⟨rfl, -⟩ := List.cons_eq_cons.mp ht
  rw [ha.mayStartWith hk] at hc
  exact Bool.false_ne_true hc.symm

end

end Keyword
end SqlOutline
