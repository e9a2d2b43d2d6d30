import Mathlib.Data.List.Basic
import SqlOutline.Literal.Cut

/-!
Cuts one behind the other.

A cut is a text without literals, or a text, a literal and the cut of all that follows. Cuts append,
and writing their literals out in any way turns appended cuts into appended texts. Between texts and
the cuts whose backticks pair up nothing is lost (`ofText_toText`).
-/

namespace SqlOutline

/-- The point between `a` and `b` is in no literal of the text `a ++ b`: the backticks before it
have all found their partner, or the last of them has none. -/
def OutsideLiterals (a b : Text) : Prop := a.count backtick % 2 = 0 ∨ backtick ∉ b

namespace Cut

/-- The cut of a text without literals. -/
def plain (t : Text) : Cut := ⟨t, []⟩

/-- The cut of `r`, then the literal `l`, then what `c` is the cut of. -/
def literal (r l : Text) (c : Cut) : Cut := ⟨r, (l, c.lead) :: c.literals⟩

@[elab_as_elim]
theorem induction {motive : Cut → Prop} (plain : ∀ t, motive (plain t))
    (literal : ∀ r l c, motive c → motive (literal r l c)) (c : Cut) : motive c := by
  obtain ⟨lead, literals⟩ := c
  induction literals generalizing lead with
  | nil => exact plain lead
  | cons p ls ih => exact literal lead p.1 ⟨p.2, ls⟩ (ih p.2)

/-- The texts between literals all satisfy `p`. -/
def AllOutside (p : Text → Prop) (c : Cut) : Prop := p c.lead ∧ ∀ x ∈ c.literals, p x.2

instance {p : Text → Prop} [DecidablePred p] (c : Cut) : Decidable (c.AllOutside p) :=
  inferInstanceAs (Decidable (_ ∧ _))

@[simp] theorem allOutside_plain {p : Text → Prop} {t : Text} : (plain t).AllOutside p ↔ p t := by
  simp [AllOutside, plain]

@[simp] theorem allOutside_literal {p : Text → Prop} {r l : Text} {c : Cut} :
    (literal r l c).AllOutside p ↔ p r ∧ c.AllOutside p := by
  simp [AllOutside, literal]

theorem AllOutside.imp {p q : Text → Prop} (h : ∀ t, p t → q t) {c : Cut}
    (hc : c.AllOutside p) : c.AllOutside q :=
  ⟨h _ hc.1, fun x hx => h _ (hc.2 x hx)⟩

/-- The texts that stand right before a literal. -/
def beforeLiterals (c : Cut) : List Text := (c.lead :: c.literals.map (·.2)).dropLast

@[simp] theorem beforeLiterals_plain (t : Text) : (plain t).beforeLiterals = [] := rfl

@[simp] theorem beforeLiterals_literal (r l : Text) (c : Cut) :
    (literal r l c).beforeLiterals = r :: c.beforeLiterals := rfl

theorem AllOutside.beforeLiterals {p : Text → Prop} {c : Cut} (h : c.AllOutside p) :
    ∀ r ∈ c.beforeLiterals, p r := by
  induction c using Cut.induction with
  | plain t => simp
  | literal r l c ih =>
    obtain ⟨hr, hc⟩ := allOutside_literal.mp h
    simpa [hr] using ih hc

/-- The text behind the last literal. -/
def lastText (c : Cut) : Text := (c.lead :: c.literals.map (·.2)).getLast (by simp)

@[simp] theorem lastText_plain (t : Text) : (plain t).lastText = t := rfl

@[simp] theorem lastText_literal (r l : Text) (c : Cut) :
    (literal r l c).lastText = c.lastText := by
  simp [lastText, literal]

theorem AllOutside.lastText {p : Text → Prop} {c : Cut} (h : c.AllOutside p) : p c.lastText := by
  induction c using Cut.induction with
  | plain t => simpa using h
  | literal r l c ih => simpa using ih (allOutside_literal.mp h).2

/-- No literal has a backtick in it, and at most one is left over outside, behind all literals. -/
def Paired (c : Cut) : Prop := from' c.lead c.literals where
  from' (r : Text) : List (Text × Text) → Prop
    | [] => r.count backtick ≤ 1
    | (l, s) :: ls => backtick ∉ r ∧ backtick ∉ l ∧ from' s ls

@[simp] theorem paired_plain {t : Text} : (plain t).Paired ↔ t.count backtick ≤ 1 := Iff.rfl

@[simp] theorem paired_literal {r l : Text} {c : Cut} :
    (literal r l c).Paired ↔ backtick ∉ r ∧ backtick ∉ l ∧ c.Paired := Iff.rfl

/-- `render` with the numbers of the literals counted from `i`. -/
def renderAt (spell : Nat → Text → Text) (i : Nat) (c : Cut) : Text :=
  c.lead ++ renderFrom spell i c.literals

@[simp] theorem renderAt_plain (spell : Nat → Text → Text) (i : Nat) (t : Text) :
    (plain t).renderAt spell i = t := by
  simp [renderAt, plain, renderFrom]

@[simp] theorem renderAt_literal (spell : Nat → Text → Text) (i : Nat) (r l : Text) (c : Cut) :
    (literal r l c).renderAt spell i = r ++ (spell i l ++ c.renderAt spell (i + 1)) := by
  simp [renderAt, literal, renderFrom]

@[simp] theorem toText_plain (t : Text) : (plain t).toText = t :=
  renderAt_plain _ 0 t

@[simp] theorem toText_literal (r l : Text) (c : Cut) :
    (literal r l c).toText = r ++ (enquote l ++ c.toText) := by
  simp only [toText, render, literal, renderFrom, renderFrom_const enquote 1 0, List.append_assoc]

@[simp] theorem names_plain (t : Text) : (plain t).names = [] := rfl

@[simp] theorem names_literal (r l : Text) (c : Cut) : (literal r l c).names = l :: c.names := rfl

private def appendTo (d : Cut) (r : Text) : List (Text × Text) → Cut
  | [] => ⟨r ++ d.lead, d.literals⟩
  | (l, s) :: ls => literal r l (appendTo d s ls)

instance : Append Cut := ⟨fun c d => appendTo d c.lead c.literals⟩

@[simp] theorem plain_append_plain (s t : Text) : plain s ++ plain t = plain (s ++ t) := rfl

@[simp] theorem plain_append_literal (s r l : Text) (c : Cut) :
    plain s ++ literal r l c = literal (s ++ r) l c := rfl

@[simp] theorem literal_append (r l : Text) (c d : Cut) :
    literal r l c ++ d = literal r l (c ++ d) := rfl

@[simp] theorem append_nil (c : Cut) : c ++ plain [] = c := by
  induction c using Cut.induction with
  | plain t => simp
  | literal r l c ih => simp [ih]

@[simp] theorem nil_append (c : Cut) : plain [] ++ c = c := by
  cases c using Cut.induction <;> simp

theorem append_assoc (c d e : Cut) : c ++ d ++ e = c ++ (d ++ e) := by
  induction c using Cut.induction with
  | plain t =>
    cases d using Cut.induction with
    | plain s => cases e using Cut.induction <;> simp
    | literal r l d => simp
  | literal r l c ih => simp [ih]

@[simp] theorem lastText_append_literal (c : Cut) (r l : Text) (d : Cut) :
    (c ++ literal r l d).lastText = d.lastText := by
  induction c using Cut.induction with
  | plain t => simp
  | literal s m c ih => simp [ih]

/-- A cut ends with a literal and the text behind it, if it has literals. -/
theorem snoc_cases (c : Cut) :
    (∃ t, plain t = c) ∨ ∃ d l r, d ++ literal [] l (plain r) = c := by
  induction c using Cut.induction with
  | plain t => exact .inl ⟨t, rfl⟩
  | literal s m c ih =>
    right
    rcases ih with ⟨t, rfl⟩ | ⟨d, l, r, rfl⟩
    · exact ⟨plain s, m, t, by simp⟩
    · exact ⟨literal s m d, l, r, rfl⟩

theorem literal_inj {r l r' l' : Text} {c c' : Cut} (h : literal r l c = literal r' l' c') :
    r = r' ∧ l = l' ∧ c = c' := by
  cases c
  cases c'
  simp_all [literal]

/-- Of two fronts of a cut, one goes on where the other ends. -/
theorem front_or_front {A B A' B' : Cut} (h : A ++ B = A' ++ B') :
    (∃ D, A ++ D = A') ∨ ∃ D, A' ++ D = A := by
  induction A using Cut.induction generalizing A' with
  | plain a =>
    cases A' using Cut.induction with
    | plain a' =>
      have hlead : a ++ B.lead = a' ++ B'.lead := congrArg Cut.lead h
      rcases List.append_eq_append_iff.mp hlead with ⟨d, rfl, -⟩ | ⟨d, rfl, -⟩
      · exact .inl ⟨plain d, by simp⟩
      · exact .inr ⟨plain d, by simp⟩
    | literal r l A' =>
      cases B using Cut.induction with
      | plain b =>
        rw [plain_append_plain, literal_append] at h
        exact absurd (congrArg Cut.literals h) (by simp [plain, literal])
      | literal s m B =>
        rw [plain_append_literal, literal_append] at h
        obtain ⟨rfl, rfl, -⟩ := literal_inj h
        exact .inl ⟨literal s m A', by simp⟩
  | literal r l A ih =>
    cases A' using Cut.induction with
    | plain a' =>
      cases B' using Cut.induction with
      | plain b' =>
        rw [plain_append_plain, literal_append] at h
        exact absurd (congrArg Cut.literals h) (by simp [plain, literal])
      | literal s m B' =>
        rw [literal_append, plain_append_literal] at h
        obtain ⟨rfl, rfl, -⟩ := literal_inj h
        exact .inr ⟨literal s l A, by simp⟩
    | literal r' l' A' =>
      rw [literal_append, literal_append] at h
      obtain ⟨rfl, rfl, htail⟩ := literal_inj h
      rcases ih htail with ⟨D, rfl⟩ | ⟨D, rfl⟩
      · exact .inl ⟨D, by simp⟩
      · exact .inr ⟨D, by simp⟩

@[simp] theorem names_append (c d : Cut) : (c ++ d).names = c.names ++ d.names := by
  induction c using Cut.induction with
  | plain t => cases d using Cut.induction <;> simp
  | literal r l c ih => simp [ih]

theorem renderAt_append (spell : Nat → Text → Text) (i : Nat) (c d : Cut) :
    (c ++ d).renderAt spell i = c.renderAt spell i ++ d.renderAt spell (i + c.names.length) := by
  induction c using Cut.induction generalizing i with
  | plain t => cases d using Cut.induction <;> simp
  | literal r l c ih => simp [ih, Nat.add_assoc, Nat.add_comm 1]

@[simp] theorem toText_append (c d : Cut) : (c ++ d).toText = c.toText ++ d.toText := by
  induction c using Cut.induction with
  | plain t => cases d using Cut.induction <;> simp
  | literal r l c ih => simp [ih]

/-- A property that parts inherit holds between the literals of both halves. -/
theorem AllOutside.of_append {p : Text → Prop} (hp : ∀ s t, p (s ++ t) → p s ∧ p t) {c d : Cut}
    (h : (c ++ d).AllOutside p) : c.AllOutside p ∧ d.AllOutside p := by
  induction c using Cut.induction with
  | plain t =>
    cases d using Cut.induction with
    | plain s => simpa using hp t s (by simpa using h)
    | literal r l d =>
      obtain ⟨htr, hd⟩ : p (t ++ r) ∧ d.AllOutside p := by simpa using h
      simpa [hd] using hp t r htr
  | literal r l c ih =>
    obtain ⟨hr, hcd⟩ : p r ∧ (c ++ d).AllOutside p := by simpa using h
    simpa [hr] using ih hcd

theorem Paired.of_append {c d : Cut} (h : (c ++ d).Paired) : c.Paired ∧ d.Paired := by
  induction c using Cut.induction with
  | plain t =>
    cases d using Cut.induction with
    | plain s =>
      have hcount : t.count backtick + s.count backtick ≤ 1 := by simpa using h
      simp only [paired_plain]
      omega
    | literal r l d =>
      obtain ⟨htr, hl, hd⟩ : backtick ∉ t ++ r ∧ backtick ∉ l ∧ d.Paired := h
      rw [List.mem_append, not_or] at htr
      simp [htr.2, hl, hd, List.count_eq_zero.mpr htr.1]
  | literal r l c ih =>
    obtain ⟨hr, hl, hcd⟩ : backtick ∉ r ∧ backtick ∉ l ∧ (c ++ d).Paired := h
    simpa [hr, hl] using ih hcd

theorem Paired.append {c d : Cut} (hc : c.Paired) (hout : c.AllOutside (backtick ∉ ·))
    (hd : d.Paired) : (c ++ d).Paired := by
  induction c using Cut.induction with
  | plain t =>
    have ht : backtick ∉ t := by simpa using hout
    cases d using Cut.induction with
    | plain s => simpa [List.count_eq_zero.mpr ht] using hd
    | literal r l d => simpa [ht] using hd
  | literal r l c ih =>
    simp only [paired_literal, allOutside_literal] at hc hout
    simpa [hc.1, hc.2.1] using ih hc.2.2 hout.2

@[simp] theorem count_enquote {l : Text} (hl : backtick ∉ l) : (enquote l).count backtick = 2 := by
  simp [enquote, List.count_eq_zero.mpr hl]

/-- Where two cuts meet there is no literal. -/
theorem Paired.outsideLiterals {c d : Cut} (h : (c ++ d).Paired) :
    OutsideLiterals c.toText d.toText := by
  induction c using Cut.induction with
  | plain t =>
    cases d using Cut.induction with
    | plain s =>
      have hcount : t.count backtick + s.count backtick ≤ 1 := by simpa using h
      simp only [OutsideLiterals, toText_plain, ← List.count_eq_zero]
      omega
    | literal r l d =>
      have htr : backtick ∉ t ++ r := h.1
      rw [List.mem_append, not_or] at htr
      left
      simp [List.count_eq_zero.mpr htr.1]
  | literal r l c ih =>
    obtain ⟨hr, hl, hcd⟩ : backtick ∉ r ∧ backtick ∉ l ∧ (c ++ d).Paired := h
    simpa [OutsideLiterals, List.count_eq_zero.mpr hr, hl] using ih hcd

/-- With an even number of backticks none is left over. -/
theorem Paired.allOutside_of_even {c : Cut} (h : c.Paired)
    (heven : c.toText.count backtick % 2 = 0) : c.AllOutside (backtick ∉ ·) := by
  induction c using Cut.induction with
  | plain t =>
    simp only [paired_plain, toText_plain, allOutside_plain, ← List.count_eq_zero] at *
    omega
  | literal r l c ih =>
    obtain ⟨hr, hl, hc⟩ := paired_literal.mp h
    rw [toText_literal, List.count_append, List.count_append, List.count_eq_zero.mpr hr,
      count_enquote hl] at heven
    simpa [hr] using ih hc (by omega)

theorem ofText_of_notMem {t : Text} (h : backtick ∉ t) : ofText t = plain t := by
  rw [ofText, List.splitOn_eq_singleton h]
  rfl

theorem ofText_of_count_le {t : Text} (h : t.count backtick ≤ 1) : ofText t = plain t := by
  by_cases ht : backtick ∈ t
  · obtain ⟨r, s, rfl, hr⟩ := List.eq_append_cons_of_mem ht
    have hs : backtick ∉ s := by
      rw [List.count_append, List.count_cons_self] at h
      exact List.count_eq_zero.mp (by omega)
    rw [ofText, List.splitOn_append_cons_self_of_not_mem hr, List.splitOn_eq_singleton hs]
    rfl
  · exact ofText_of_notMem ht

theorem ofText_literal {r l t : Text} (hr : backtick ∉ r) (hl : backtick ∉ l) :
    ofText (r ++ (enquote l ++ t)) = literal r l (ofText t) := by
  have hsplit : (r ++ (enquote l ++ t)).splitOn backtick = r :: l :: t.splitOn backtick := by
    simp [enquote, List.splitOn_append_cons_self_of_not_mem, hr, hl]
  obtain ⟨s, parts, hparts⟩ := List.exists_cons_of_ne_nil (List.splitOn_ne_nil backtick t)
  rw [ofText, ofText, hsplit, hparts]
  rfl

/-- A cut whose backticks pair up is the cut of its text. -/
theorem ofText_enquote {l : Text} (hl : backtick ∉ l) :
    ofText (enquote l) = literal [] l (plain []) := by
  have hcut := ofText_literal (List.not_mem_nil (a := backtick)) hl (t := [])
  rwa [List.nil_append, List.append_nil, ofText_of_notMem List.not_mem_nil] at hcut

theorem ofText_toText {c : Cut} (h : c.Paired) : ofText c.toText = c := by
  induction c using Cut.induction with
  | plain t => simpa using ofText_of_count_le (paired_plain.mp h)
  | literal r l c ih =>
    obtain ⟨hr, hl, hc⟩ := paired_literal.mp h
    rw [toText_literal, ofText_literal hr hl, ih hc]

/-- In the cut of a text the backticks pair up. -/
theorem paired_ofText (t : Text) : (ofText t).Paired := by
  induction hn : t.length using Nat.strongRecOn generalizing t with
  | _ n ih =>
    by_cases ht : t.count backtick ≤ 1
    · rwa [ofText_of_count_le ht, paired_plain]
    · obtain ⟨r, s, rfl, hr⟩ := List.eq_append_cons_of_mem
        (List.count_pos_iff.mp (by omega) : backtick ∈ t)
      rw [List.count_append, List.count_eq_zero.mpr hr, List.count_cons_self] at ht
      obtain ⟨l, t, rfl, hl⟩ := List.eq_append_cons_of_mem
        (List.count_pos_iff.mp (by omega) : backtick ∈ s)
      have hform : r ++ backtick :: (l ++ backtick :: t) = r ++ (enquote l ++ t) := by
        simp [enquote]
      rw [hform, ofText_literal hr hl, paired_literal]
      refine ⟨hr, hl, ih t.length ?_ t rfl⟩
      simp only [List.length_append, List.length_cons] at hn
      omega

/-- Behind an even number of backticks a text is cut on its own. -/
theorem ofText_append {a b : Text} (h : a.count backtick % 2 = 0) :
    ofText (a ++ b) = ofText a ++ ofText b := by
  have hout := (paired_ofText a).allOutside_of_even (by simpa using h)
  rw [← ofText_toText ((paired_ofText a).append hout (paired_ofText b)), toText_append,
    toText_ofText, toText_ofText]

section
variable {a m b : Text} (ha : a.count backtick % 2 = 0) (hm : backtick ∉ m)
include ha hm

theorem even_between (hb : b.count backtick % 2 = 0) : (a ++ m ++ b).count backtick % 2 = 0 := by
  simp [List.count_append, List.count_eq_zero.mpr hm, Nat.add_mod, ha, hb]

/-- Between two texts a text without backticks stays as it is, if the first one closes its
literals. -/
theorem ofText_between : ofText (a ++ m ++ b) = ofText a ++ plain m ++ ofText b := by
  have ham : (a ++ m).count backtick % 2 = 0 := by
    rwa [List.count_append, List.count_eq_zero.mpr hm, Nat.add_zero]
  rw [ofText_append ham, ofText_append ha, ofText_of_notMem hm]

end

section
variable {g t g' : Text} (hg : backtick ∉ g) (ht : t.count backtick % 2 = 0) (hg' : backtick ∉ g')
include hg ht hg'

theorem even_around : (g ++ t ++ g').count backtick % 2 = 0 := by
  simp [List.count_append, List.count_eq_zero.mpr hg, List.count_eq_zero.mpr hg', ht]

theorem ofText_around : ofText (g ++ t ++ g') = plain g ++ ofText t ++ plain g' := by
  have hgt := even_around hg ht (List.not_mem_nil (a := backtick))
  rw [List.append_nil] at hgt
  rw [ofText_append hgt, ofText_append (by rw [List.count_eq_zero.mpr hg]), ofText_of_notMem hg,
    ofText_of_notMem hg']

end

end Cut
end SqlOutline
