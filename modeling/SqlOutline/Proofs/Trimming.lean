import Mathlib.Data.List.Basic
import SqlOutline.Text.Basic

/-!
What trimming takes away.

`trim t` is the one part of `t` that has only white space around it and no white space at its own
ends (`trim_split`, `trim_eq_of_split`).
-/

namespace SqlOutline
open Unicode

/-- A text of white space alone, perhaps empty. -/
def Blank (g : Text) : Prop := ∀ c ∈ g, isWhiteSpace c = true

/-- A text without white space. -/
def Unspaced (w : Text) : Prop := ∀ c ∈ w, isWhiteSpace c = false

instance : DecidablePred Unspaced := fun w =>
  decidable_of_iff (w.all (!isWhiteSpace ·) = true) (by simp [Unspaced])

/-- A text with no white space at its two ends. -/
structure IsTrimmed (t : Text) : Prop where
  front : ∀ c ∈ t.head?, isWhiteSpace c = false
  back : ∀ c ∈ t.getLast?, isWhiteSpace c = false

theorem Blank.nil : Blank [] := by
  simp [Blank]

theorem Blank.notMem {g : Text} (hg : Blank g) {c : Char} (hc : isWhiteSpace c = false) :
    c ∉ g := by
  intro hmem
  rw [hg c hmem] at hc
  exact Bool.false_ne_true hc.symm

theorem IsTrimmed.of_forall {t : Text} (h : ∀ c ∈ t, isWhiteSpace c = false) : IsTrimmed t :=
  ⟨fun c hc => h c (List.mem_of_head? hc), fun c hc => h c (List.mem_of_getLast? hc)⟩

theorem isTrimmed_of_ends {t : Text} {c d : Char} (hfront : t.head? = some c)
    (hback : t.getLast? = some d) (hc : isWhiteSpace c = false) (hd : isWhiteSpace d = false) :
    IsTrimmed t := by
  constructor
  · intro x hx
    rwa [← Option.some.inj (hfront.symm.trans hx)]
  · intro x hx
    rwa [← Option.some.inj (hback.symm.trans hx)]

/-- Whatever stands between two trimmed texts is inside of them. -/
theorem IsTrimmed.around {a b : Text} (ha : IsTrimmed a) (hb : IsTrimmed b) (hane : a ≠ [])
    (hbne : b ≠ []) (m : Text) : IsTrimmed (a ++ m ++ b) where
  front c hc := by
    rw [List.append_assoc, List.head?_append_of_ne_nil _ hane] at hc
    exact ha.front c hc
  back c hc := by
    rw [List.getLast?_append_of_ne_nil _ hbne] at hc
    exact hb.back c hc

namespace Text

theorem trimStart_split (t : Text) :
    (∃ g, g ++ trimStart t = t ∧ Blank g) ∧ ∀ c ∈ (trimStart t).head?, isWhiteSpace c = false := by
  constructor
  · refine ⟨t.takeWhile isWhiteSpace, List.takeWhile_append_dropWhile, ?_⟩
    intro c hc
    have hall := List.all_takeWhile (p := isWhiteSpace) (l := t)
    rw [List.all_eq_true] at hall
    exact hall c hc
  · intro c hc
    have hnot := List.head?_dropWhile_not isWhiteSpace t
    rw [show t.dropWhile isWhiteSpace = trimStart t from rfl, hc] at hnot
    simpa using hnot

theorem trimStart_eq_of_split {g u : Text} (hg : Blank g)
    (hu : ∀ c ∈ u.head?, isWhiteSpace c = false) : trimStart (g ++ u) = u := by
  rw [trimStart, List.dropWhile_append_of_pos hg]
  cases u with
  | nil => rfl
  | cons c u => simp [hu c rfl]

theorem trimEnd_eq (t : Text) : trimEnd t = (trimStart t.reverse).reverse := rfl

theorem trimEnd_split (t : Text) :
    (∃ g, trimEnd t ++ g = t ∧ Blank g) ∧ ∀ c ∈ (trimEnd t).getLast?, isWhiteSpace c = false := by
  obtain ⟨⟨r, hr, hblank⟩, hfront⟩ := trimStart_split t.reverse
  rw [trimEnd_eq]
  constructor
  · refine ⟨r.reverse, ?_, fun c hc => hblank c (by simpa using hc)⟩
    rw [← List.reverse_append, hr, List.reverse_reverse]
  · intro c hc
    exact hfront c (by simpa using hc)

theorem trim_eq_of_split {g u g' : Text} (hg : Blank g) (hg' : Blank g') (hu : IsTrimmed u) :
    trim (g ++ u ++ g') = u := by
  by_cases hne : u = []
  · subst hne
    have hblank : Blank (g ++ g') := by
      intro c hc
      exact (List.mem_append.mp hc).elim (hg c) (hg' c)
    have hstart := trimStart_eq_of_split (u := []) hblank (by simp)
    rw [List.append_nil] at hstart
    rw [List.append_nil, trim, hstart]
    rfl
  · have hfront : trimStart (g ++ u ++ g') = u ++ g' := by
      rw [List.append_assoc]
      refine trimStart_eq_of_split hg fun c hc => hu.front c ?_
      rwa [List.head?_append_of_ne_nil _ hne] at hc
    have hback : trimStart (g'.reverse ++ u.reverse) = u.reverse :=
      trimStart_eq_of_split (fun c hc => hg' c (by simpa using hc))
        fun c hc => hu.back c (by simpa using hc)
    rw [trim, hfront, trimEnd_eq, List.reverse_append, hback, List.reverse_reverse]

theorem trim_split (t : Text) :
    ∃ g g', g ++ trim t ++ g' = t ∧ Blank g ∧ Blank g' ∧ IsTrimmed (trim t) := by
  obtain ⟨⟨g, hg, hblank⟩, hfront⟩ := trimStart_split t
  obtain ⟨⟨r, hr, hblank'⟩, hback⟩ := trimStart_split (trimStart t).reverse
  have hback' : trim t ++ r.reverse = trimStart t := by
    rw [trim, trimEnd_eq, ← List.reverse_append, hr, List.reverse_reverse]
  refine ⟨g, r.reverse, by rw [List.append_assoc, hback', hg], hblank,
    fun c hc => hblank' c (by simpa using hc), ?_, ?_⟩
  · intro c hc
    apply hfront
    rw [← hback', List.head?_append, hc]
    rfl
  · intro c hc
    apply hback
    rw [trim, trimEnd_eq] at hc
    simpa using hc

/-- Trimming a text that opens with `u` behind white space leaves `u` alone. -/
theorem trim_append_of_trimmed {b u : Text} (hb : Blank b) (hne : u ≠ []) (hu : IsTrimmed u)
    (x : Text) : trim (b ++ (u ++ x)) = u ++ trimEnd x := by
  obtain ⟨⟨g, hg, hblank⟩, hback⟩ := trimEnd_split x
  have htrim : IsTrimmed (u ++ trimEnd x) := by
    constructor
    · intro c hc
      rw [List.head?_append_of_ne_nil _ hne] at hc
      exact hu.front c hc
    · intro c hc
      by_cases hnil : trimEnd x = []
      · rw [hnil, List.append_nil] at hc
        exact hu.back c hc
      · rw [List.getLast?_append_of_ne_nil _ hnil] at hc
        exact hback c hc
  have hsplit := trim_eq_of_split hb hblank htrim
  rwa [List.append_assoc, List.append_assoc, hg] at hsplit

theorem trim_append_blank {g : Text} (hg : Blank g) (t : Text) :
    trim (t ++ g) = trim t := by
  obtain ⟨a, b, ht, ha, hb, htrim⟩ := trim_split t
  have hbg : Blank (b ++ g) := fun c hc => (List.mem_append.mp hc).elim (hb c) (hg c)
  have hsplit := trim_eq_of_split ha hbg htrim
  rwa [← List.append_assoc, ht] at hsplit

theorem isTrimmed_trim (t : Text) : IsTrimmed (trim t) := by
  obtain ⟨g, g', -, -, -, h⟩ := trim_split t
  exact h

theorem trim_of_isTrimmed {t : Text} (h : IsTrimmed t) : trim t = t := by
  simpa using trim_eq_of_split .nil .nil h

theorem trim_eq_self_iff {t : Text} : trim t = t ↔ IsTrimmed t :=
  ⟨fun h => h ▸ isTrimmed_trim t, trim_of_isTrimmed⟩

end Text

/-- What ends in no character of `g` and is read off `t ++ g` is read off `t`. -/
theorem split_append_of_last {a b t g : Text} (h : a ++ b = t ++ g)
    (ha : ∀ c ∈ a.getLast?, c ∉ g) : ∃ b', a ++ b' = t ∧ b' ++ g = b := by
  rcases List.append_eq_append_iff.mp h with ⟨b', rfl, rfl⟩ | ⟨v, rfl, hv⟩
  · exact ⟨b', rfl, rfl⟩
  · by_cases hnil : v = []
    · subst hnil
      exact ⟨[], by simp, by simpa using hv⟩
    · have hlast : v.getLast hnil ∈ (t ++ v).getLast? := by
        rw [List.getLast?_append_of_ne_nil _ hnil]
        exact List.getLast?_eq_getLast_of_ne_nil hnil
      refine absurd ?_ (ha _ hlast)
      rw [hv]
      exact List.mem_append_left b (List.getLast_mem hnil)

/-- What ends in no white space and is read off `t ++ g` is read off `t`. -/
theorem Blank.split_append {g : Text} (hg : Blank g) {a b t : Text} (h : a ++ b = t ++ g)
    (ha : ∀ c ∈ a.getLast?, isWhiteSpace c = false) : ∃ b', a ++ b' = t ∧ b' ++ g = b :=
  split_append_of_last h fun c hc => hg.notMem (ha c hc)

end SqlOutline
