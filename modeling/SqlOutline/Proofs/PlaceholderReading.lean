import SqlOutline.Placeholder
import SqlOutline.Proofs.Reading

/-!
Placeholders as texts, apart from the text in which they are read.

The low lines of a placeholder stand at its two ends alone. So a placeholder that is read from the
middle of one text into the next placeholder can take no more of that one than its opening rail.
-/

namespace SqlOutline.Placeholder
open Unicode

/-- A tag made of ASCII letters and digits. -/
def PlainTag (tag : Text) : Prop := ∀ l ∈ tag, l.isAlphanum = true

instance (tag : Text) : Decidable (PlainTag tag) :=
  decidable_of_iff (tag.all Char.isAlphanum = true) List.all_eq_true

/-- Compared by `same`, the low line is itself alone, and no letter of the tag is a low line. -/
structure Railed (same : Char → Char → Bool) (tag : Text) : Prop where
  refl : ∀ c, same c c = true
  rail : ∀ c, same '_' c = true → c = '_'
  tag : ∀ l ∈ tag, same l '_' = false

theorem railed_beq {tag : Text} (h : '_' ∉ tag) : Railed (· == ·) tag where
  refl := by simp
  rail := by simp
  tag l hl := by
    rw [beq_eq_false_iff_ne]
    rintro rfl
    exact h hl

theorem PlainTag.lowLine_notMem {tag : Text} (h : PlainTag tag) : '_' ∉ tag :=
  fun hl => absurd (h _ hl) (by decide)

theorem PlainTag.railed_sameLetter {tag : Text} (h : PlainTag tag) : Railed sameLetter tag where
  refl := sameLetter_self
  rail _ := eq_lowLine_of_sameLetter
  tag l hl := by
    rw [Bool.eq_false_iff]
    intro hs
    exact ne_lowLine_of_isSolid (isSolid_of_sameLetter (h l hl) hs) rfl

/-- `a` is a placeholder of the tag with the number written by `d`. -/
def Spells (same : Char → Char → Bool) (tag a d : Text) : Prop :=
  d ≠ [] ∧ (∀ c ∈ d, isDecimalDigit c = true) ∧
    ∃ m, List.Forall₂ (fun l c => same l c = true) tag m ∧ rail ++ (m ++ d) ++ rail = a

theorem spells_text {same : Char → Char → Bool} {tag : Text} (h : Railed same tag) (i : Nat) :
    Spells same tag (text tag i) (Nat.toDigits 10 i) := by
  refine ⟨Nat.toDigits_ne_nil, ?_, tag, List.forall₂_same.mpr fun l _ => h.refl l, by simp [text]⟩
  intro c hc
  exact isDecimalDigit_of_isDigit (Nat.isDigit_of_mem_toDigits (by decide) (by decide) hc)

section
variable {same : Char → Char → Bool} {tag : Text} (hrail : Railed same tag)
include hrail

private theorem forall₂_rail_append {w a : Text}
    (h : List.Forall₂ (fun l c => same l c = true) (rail ++ w) a) :
    ∃ m, List.Forall₂ (fun l c => same l c = true) w m ∧ a = rail ++ m := by
  change List.Forall₂ _ ('_' :: '_' :: w) a at h
  obtain ⟨c, a, hc, htail, rfl⟩ := List.forall₂_cons_left_iff.mp h
  obtain ⟨d, m, hd, hm, rfl⟩ := List.forall₂_cons_left_iff.mp htail
  exact ⟨m, hm, by rw [hrail.rail c hc, hrail.rail d hd]; rfl⟩

/-- Reading a placeholder depends on its spelling alone. -/
theorem read?_eq_some_iff {t : Text} {r : Reading} :
    read? same tag t = some r ↔ r.spelling ++ r.rest = t ∧ Spells same tag r.spelling r.digits := by
  simp only [read?, Option.bind_eq_bind, Option.bind_eq_some_iff, Option.pure_def,
    Option.some.injEq, Prod.exists]
  constructor
  · rintro ⟨s, t₁, h₁, d, t₂, h₂, e, t₃, h₃, rfl⟩
    obtain ⟨rfl, hs⟩ := Reader.letters_eq_some_iff.mp h₁
    obtain ⟨rfl, hne, hd, -⟩ := Reader.run_eq_some_iff.mp h₂
    obtain ⟨rfl, he⟩ := Reader.letters_eq_some_iff.mp h₃
    obtain ⟨m, hm, rfl⟩ := forall₂_rail_append hrail hs
    obtain ⟨z, hz, rfl⟩ := forall₂_rail_append hrail (w := []) he
    obtain rfl := List.forall₂_nil_left_iff.mp hz
    exact ⟨by simp, hne, hd, m, hm, by simp⟩
  · rintro ⟨rfl, hne, hd, m, hm, hr⟩
    obtain ⟨spelling, digits, rest⟩ := r
    simp only at hne hd hr
    subst hr
    have hopen : List.Forall₂ (fun l c => same l c = true) (rail ++ tag) (rail ++ m) :=
      List.rel_append (List.forall₂_same.mpr fun l _ => hrail.refl l) hm
    refine ⟨rail ++ m, digits ++ (rail ++ rest), Reader.letters_eq_some_iff.mpr ⟨by simp, hopen⟩,
      digits, rail ++ rest, Reader.run_eq_some_iff.mpr ⟨rfl, hne, hd, ?_⟩, rail, rest,
      Reader.letters_eq_some_iff.mpr ⟨rfl, List.forall₂_same.mpr fun l _ => hrail.refl l⟩,
      by simp⟩
    intro c hc
    obtain rfl : '_' = c := by simpa [rail] using hc
    decide

/-- The low lines of a placeholder are its two rails. -/
theorem Spells.core {a d : Text} (h : Spells same tag a d) :
    ∃ m, m ≠ [] ∧ '_' ∉ m ∧ rail ++ m ++ rail = a := by
  obtain ⟨hne, hd, m, hm, rfl⟩ := h
  refine ⟨m ++ d, by simp [hne], ?_, rfl⟩
  rw [List.mem_append, not_or]
  constructor
  · intro hmem
    exact forall_of_forall₂ hm (p := (· ≠ '_')) (fun l hl c hs => by
      rintro rfl
      simp [hrail.tag l hl] at hs) _ hmem rfl
  · intro hmem
    exact absurd (hd _ hmem) (by decide)

/-- A rail inside a placeholder is the first or the last of it. -/
theorem Spells.rail_at_end {a d u w : Text} (h : Spells same tag a d) (ha : u ++ rail ++ w = a) :
    u = [] ∨ w = [] := by
  obtain ⟨m, hm, hlow, rfl⟩ := h.core hrail
  match u with
  | [] => exact .inl rfl
  | [x] =>
    obtain ⟨l, m, rfl⟩ := List.exists_cons_of_ne_nil hm
    obtain ⟨rfl, rfl, -⟩ : x = '_' ∧ '_' = l ∧ w = m ++ rail := by simpa [rail] using ha
    simp at hlow
  | x :: y :: u =>
    right
    obtain ⟨-, -, hcore⟩ : x = '_' ∧ y = '_' ∧ u ++ (rail ++ w) = m ++ rail := by
      simpa [rail] using ha
    rcases List.append_eq_append_iff.mp hcore.symm with ⟨k, rfl, hk⟩ | ⟨k, rfl, hk⟩
    · have hlen := congrArg List.length hk
      simp only [List.length_append, rail] at hlen
      exact List.length_eq_zero_iff.mp (by simp at hlen; omega)
    · cases k with
      | nil => simpa using hk
      | cons l k =>
        obtain rfl : '_' = l := by
          have := congrArg List.head? hk
          simpa [rail] using this
        simp at hlow

/-- A placeholder that starts before a rail ends at that rail at the latest. -/
theorem Spells.isPrefix_rail {a d u v y : Text} (h : Spells same tag a d) (hu : u ≠ [])
    (ht : a ++ y = u ++ rail ++ v) : a <+: u ++ rail := by
  rcases List.prefix_or_prefix_of_prefix ⟨y, ht⟩ ⟨v, rfl⟩ with hp | ⟨w, hw⟩
  · exact hp
  · obtain rfl := (h.rail_at_end hrail hw).resolve_left hu
    exact ⟨[], by rw [← hw]; simp⟩

/-- A placeholder that ends behind a rail starts at that rail at the earliest. -/
theorem Spells.isSuffix_rail {a d u v y : Text} (h : Spells same tag a d) (hv : v ≠ [])
    (ht : y ++ a = u ++ rail ++ v) : a <:+ rail ++ v := by
  rw [List.append_assoc] at ht
  rcases List.suffix_or_suffix_of_suffix ⟨y, ht⟩ ⟨u, rfl⟩ with hs | ⟨w, hw⟩
  · exact hs
  · rw [← List.append_assoc] at hw
    obtain rfl := (h.rail_at_end hrail hw).resolve_right hv
    exact ⟨[], by rw [← hw]; simp⟩

theorem Spells.ne_nil {a d : Text} (h : Spells same tag a d) : a ≠ [] := by
  obtain ⟨m, -, -, rfl⟩ := h.core hrail
  simp [rail]

theorem Spells.head?_eq {a d : Text} (h : Spells same tag a d) : a.head? = some '_' := by
  obtain ⟨m, -, -, rfl⟩ := h.core hrail
  rfl

theorem Spells.getLast?_eq {a d : Text} (h : Spells same tag a d) : a.getLast? = some '_' := by
  obtain ⟨m, -, -, rfl⟩ := h.core hrail
  rw [List.getLast?_append_of_ne_nil _ (by simp [rail])]
  rfl

end

theorem rail_isWordChar : ∀ c ∈ rail, isWordChar c = true :=
  List.all_eq_true.mp (by decide)

section
variable {tag : Text} (htag : PlainTag tag)
include htag

/-- Between its rails a placeholder has solid characters, of which the last is a digit. -/
theorem Spells.solid_core {a d : Text} (h : Spells sameLetter tag a d) :
    ∃ m, rail ++ m ++ rail = a ∧ (∀ c ∈ m, isSolid c = true) ∧ m ≠ [] ∧
      ∀ c ∈ m.getLast?, isDecimalDigit c = true := by
  obtain ⟨hne, hd, m, hm, rfl⟩ := h
  refine ⟨m ++ d, rfl, ?_, by simp [hne], ?_⟩
  · intro c hc
    rcases List.mem_append.mp hc with hc | hc
    · exact SameWord.isSolid hm htag c hc
    · exact isSolid_of_isDecimalDigit (hd c hc)
  · intro c hc
    rw [List.getLast?_append_of_ne_nil _ hne] at hc
    exact hd c (List.mem_of_getLast? hc)

theorem Spells.isWordChar {a d : Text} (h : Spells sameLetter tag a d) :
    ∀ c ∈ a, isWordChar c = true := by
  obtain ⟨m, rfl, hm, -, -⟩ := h.solid_core htag
  intro c hc
  simp only [List.mem_append] at hc
  rcases hc with (hc | hc) | hc
  · exact rail_isWordChar c hc
  · exact isWordChar_of_isSolid (hm c hc)
  · exact rail_isWordChar c hc

/-- From the inside a placeholder goes on with a low line, or with solid characters that end in a
digit and then a low line. -/
theorem Spells.inside {u z d : Text} (h : Spells sameLetter tag (u ++ z) d) (hu : u ≠ [])
    (hz : z ≠ []) :
    z.head? = some '_' ∨ ∃ m e, m ++ '_' :: e = z ∧ m ≠ [] ∧ (∀ c ∈ m, isSolid c = true) ∧
      ∀ c ∈ m.getLast?, isDecimalDigit c = true := by
  obtain ⟨m, hm, hsolid, -, hlast⟩ := h.solid_core htag
  match u with
  | [] => exact absurd rfl hu
  | [x] =>
    left
    obtain ⟨-, rfl⟩ : '_' = x ∧ '_' :: (m ++ rail) = z := by simpa [rail] using hm
    rfl
  | x :: y :: u =>
    obtain ⟨-, -, hm⟩ : '_' = x ∧ '_' = y ∧ m ++ rail = u ++ z := by simpa [rail] using hm
    rcases List.append_eq_append_iff.mp hm with ⟨k, rfl, hk⟩ | ⟨k, rfl, hk⟩
    · left
      have hmem : ∀ c ∈ z, c = '_' := by
        intro c hc
        have : c ∈ rail := hk ▸ List.mem_append_right _ hc
        simpa [rail] using this
      obtain ⟨c, z, rfl⟩ := List.exists_cons_of_ne_nil hz
      rw [hmem c (by simp)]
      rfl
    · cases k with
      | nil =>
        left
        rw [hk]
        rfl
      | cons c k =>
        right
        refine ⟨c :: k, ['_'], hk.symm, by simp,
          fun d hd => hsolid d (by simp [List.mem_cons.mp hd]), fun d hd => hlast d ?_⟩
        rwa [List.getLast?_append_of_ne_nil _ (by simp)]

/-- Before a low line of a placeholder stands a low line or a digit. -/
theorem Spells.before_lowLine {u z d : Text} (h : Spells sameLetter tag (u ++ '_' :: z) d) :
    ∀ c ∈ u.getLast?, c = '_' ∨ isDecimalDigit c = true := by
  have line_of_rail : ∀ {a : Text}, a <:+: rail → ∀ c ∈ a.getLast?, c = '_' := by
    intro a ha c hc
    simpa [rail] using ha.mem (List.mem_of_getLast? hc)
  obtain ⟨m, hm, hsolid, hne, hlast⟩ := h.solid_core htag
  intro c hc
  rw [List.append_assoc] at hm
  rcases List.append_eq_append_iff.mp hm with ⟨k, rfl, hk⟩ | ⟨k, hk, -⟩
  · by_cases hkn : k = []
    · subst hkn
      rw [List.append_nil] at hc
      exact .inl (line_of_rail List.infix_rfl c hc)
    · rw [List.getLast?_append_of_ne_nil _ hkn] at hc
      rcases List.append_eq_append_iff.mp hk with ⟨e, rfl, he⟩ | ⟨e, rfl, he⟩
      · by_cases hen : e = []
        · subst hen
          rw [List.append_nil] at hc
          exact .inr (hlast c hc)
        · rw [List.getLast?_append_of_ne_nil _ hen] at hc
          exact .inl (line_of_rail ⟨[], '_' :: z, by simpa using he.symm⟩ c hc)
      · cases e with
        | nil => exact .inr (hlast c (by simpa using hc))
        | cons x e =>
          obtain ⟨rfl, -⟩ := List.cons_eq_cons.mp he
          exact absurd (hsolid '_' (by simp)) (by decide)
  · exact .inl (line_of_rail ⟨[], k, by simpa using hk.symm⟩ c hc)

end
end SqlOutline.Placeholder
