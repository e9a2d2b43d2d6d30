import Mathlib.Data.List.Infix
import SqlOutline.Literal.Store
import SqlOutline.Proofs.CutAlgebra
import SqlOutline.Proofs.PlaceholderReading

/-!
When hidden literals come back as they were.

A placeholder that was put in is read back as it stands, unless the text before it already holds the
front of another one: the two low lines of the new placeholder then complete that front. Hence it is
not enough that a text has no placeholder of its own (`restore_hideLiterals_iff`).
-/

namespace SqlOutline
open Unicode Placeholder

/-- Nowhere in `t` a digit stands behind the rail and the tag. -/
def StemFree (tag t : Text) : Prop :=
  ∀ c, isDecimalDigit c = true → ¬ rail ++ tag ++ [c] <:+: t

instance (tag t : Text) : Decidable (StemFree tag t) :=
  decidable_of_iff
    ((t.filter isDecimalDigit).all (fun c => !decide (rail ++ tag ++ [c] <:+: t)) = true) <| by
      simp only [List.all_eq_true, List.mem_filter, and_imp, Bool.not_eq_true',
        decide_eq_false_iff_not]
      exact ⟨fun h c hc hin => h c (hin.mem (by simp)) hc hin, fun h c _ => h c⟩

/-- The text has no placeholder of the tag, with whatever number. -/
def PlaceholderFree (tag t : Text) : Prop :=
  ∀ p d, Placeholder.Spells (· == ·) tag p d → ¬ p <:+: t

/-- The text ends in a placeholder that lacks the last or both of its closing low lines. -/
def EndsUnfinished (tag t : Text) : Prop :=
  ∃ d e, d ≠ [] ∧ (∀ c ∈ d, isDecimalDigit c = true) ∧ (e = [] ∨ e = ['_']) ∧
    rail ++ tag ++ d ++ e <:+ t

instance (tag t : Text) : Decidable (EndsUnfinished tag t) :=
  decidable_of_iff (∃ u ∈ t.tails, ∃ d ∈ u.inits, ∃ e ∈ [[], ['_']], d ++ e = u ∧ d ≠ [] ∧
      d.all isDecimalDigit = true ∧ rail ++ tag ++ u <:+ t) <| by
    constructor
    · rintro ⟨u, -, d, -, e, he, rfl, hd, hdigits, hin⟩
      exact ⟨d, e, hd, List.all_eq_true.mp hdigits, by simpa using he, by simpa using hin⟩
    · rintro ⟨d, e, hd, hdigits, he, hin⟩
      refine ⟨d ++ e, ?_, d, ?_, e, by simpa using he, rfl, hd, List.all_eq_true.mpr hdigits,
        by simpa using hin⟩
      · exact (List.mem_tails _ _).mpr (List.IsSuffix.trans ⟨rail ++ tag, by simp⟩ hin)
      · exact (List.mem_inits _ _).mpr (List.prefix_append d e)

theorem StemFree.of_infix {tag s t : Text} (h : StemFree tag t) (hs : s <:+: t) : StemFree tag s :=
  fun c hc hin => h c hc (hin.trans hs)

theorem PlaceholderFree.of_infix {tag s t : Text} (h : PlaceholderFree tag t) (hs : s <:+: t) :
    PlaceholderFree tag s :=
  fun p d hp hin => h p d hp (hin.trans hs)

namespace Placeholder

theorem spells_beq_iff {tag p d : Text} :
    Spells (· == ·) tag p d ↔
      d ≠ [] ∧ (∀ c ∈ d, isDecimalDigit c = true) ∧ rail ++ tag ++ d ++ rail = p := by
  simp [Spells, List.forall₂_eq_eq_eq]

end Placeholder

/-- No placeholder is in a text where none is read at any place of it. -/
theorem not_infix_iff_read? {same : Char → Char → Bool} {tag t : Text} (hrail : Railed same tag) :
    (∀ p d, Placeholder.Spells same tag p d → ¬ p <:+: t) ↔
      ∀ v ∈ t.tails, read? same tag v = none := by
  constructor
  · intro h v hv
    rw [Option.eq_none_iff_forall_ne_some]
    intro r hr
    obtain ⟨rfl, hspell⟩ := (read?_eq_some_iff hrail).mp hr
    obtain ⟨u, hu⟩ := (List.mem_tails _ _).mp hv
    exact h _ _ hspell ⟨u, r.rest, by simpa using hu⟩
  · rintro h p d hp ⟨u, w, rfl⟩
    have hread := (read?_eq_some_iff (r := ⟨p, d, w⟩) hrail).mpr ⟨rfl, hp⟩
    rw [h (p ++ w) ((List.mem_tails _ _).mpr ⟨u, by simp⟩)] at hread
    simp at hread

theorem placeholderFree_iff {tag t : Text} (htag : '_' ∉ tag) :
    PlaceholderFree tag t ↔ ∀ v ∈ t.tails, read? (· == ·) tag v = none :=
  not_infix_iff_read? (railed_beq htag)

/-- From no place inside `r` a placeholder is read when `t` comes behind `r`. -/
def Unread (tag r t : Text) : Prop := ∀ v, v ≠ [] → v <:+ r → read? (· == ·) tag (v ++ t) = none

section
variable {tag : Text} (htag : '_' ∉ tag)
include htag

/-- A placeholder that is read from inside `v` ends at the first rail behind `v` at the latest. -/
theorem Placeholder.isPrefix_of_read? {v t : Text} {r : Reading}
    (h : read? (· == ·) tag (v ++ t) = some r) (hv : v ≠ []) (ht : t = [] ∨ rail <+: t) :
    Spells (· == ·) tag r.spelling r.digits ∧ r.spelling <+: v ++ rail := by
  obtain ⟨hread, hspell⟩ := (read?_eq_some_iff (railed_beq htag)).mp h
  refine ⟨hspell, ?_⟩
  rcases ht with rfl | ⟨y, rfl⟩
  · exact List.IsPrefix.trans ⟨r.rest, by simpa using hread⟩ (List.prefix_append v rail)
  · exact hspell.isPrefix_rail (railed_beq htag) hv (by simpa using hread)

/-- So all of it but its closing low lines is in `v`. -/
theorem Placeholder.stem_of_read? {v t : Text} {r : Reading}
    (h : read? (· == ·) tag (v ++ t) = some r) (hv : v ≠ []) (ht : t = [] ∨ rail <+: t) :
    ∃ d e, d ≠ [] ∧ (∀ c ∈ d, isDecimalDigit c = true) ∧ rail ++ tag ++ d ++ e = v ∧
      rail <+: e ++ rail := by
  obtain ⟨hspell, hprefix⟩ := isPrefix_of_read? htag h hv ht
  obtain ⟨hne, hdigits, hp⟩ := spells_beq_iff.mp hspell
  rw [← hp] at hprefix
  have hlen := hprefix.length_le
  obtain ⟨e, rfl⟩ : rail ++ tag ++ r.digits <+: v :=
    List.prefix_of_prefix_length_le ((List.prefix_append _ rail).trans hprefix)
      (List.prefix_append v rail) (by simp only [List.length_append] at hlen ⊢; omega)
  refine ⟨r.digits, e, hne, hdigits, rfl, ?_⟩
  rw [List.append_assoc _ e] at hprefix
  exact (List.prefix_append_right_inj _).mp hprefix

theorem StemFree.unread {r t : Text} (h : StemFree tag r) (ht : t = [] ∨ rail <+: t) :
    Unread tag r t := by
  intro v hv hsuffix
  rw [Option.eq_none_iff_forall_ne_some]
  intro x hx
  obtain ⟨d, e, hne, hdigits, rfl, -⟩ := stem_of_read? htag hx hv ht
  obtain ⟨c, d, rfl⟩ := List.exists_cons_of_ne_nil hne
  exact h c (hdigits c (by simp)) (List.IsInfix.trans ⟨[], d ++ e, by simp⟩ hsuffix.isInfix)

theorem PlaceholderFree.unread_nil {r : Text} (h : PlaceholderFree tag r) : Unread tag r [] := by
  intro v hv hsuffix
  rw [List.append_nil]
  exact (placeholderFree_iff htag).mp (h.of_infix hsuffix.isInfix) v
    ((List.mem_tails _ _).mpr List.suffix_rfl)

theorem PlaceholderFree.unread_rail {r y : Text} (h : PlaceholderFree tag r)
    (hend : ¬ EndsUnfinished tag r) : Unread tag r (rail ++ y) := by
  intro v hv hsuffix
  rw [Option.eq_none_iff_forall_ne_some]
  intro x hx
  obtain ⟨d, e, hne, hdigits, rfl, hrail⟩ :=
    stem_of_read? htag hx hv (.inr (List.prefix_append rail y))
  match e with
  | [] => exact hend ⟨d, [], hne, hdigits, .inl rfl, hsuffix⟩
  | [l] =>
    obtain rfl : '_' = l := by simpa [rail] using hrail
    exact hend ⟨d, ['_'], hne, hdigits, .inr rfl, hsuffix⟩
  | l :: l' :: e =>
    obtain ⟨rfl, rfl⟩ : '_' = l ∧ '_' = l' := by simpa [rail] using hrail
    have hspell : Placeholder.Spells (· == ·) tag (rail ++ tag ++ d ++ rail) d :=
      spells_beq_iff.mpr ⟨hne, hdigits, rfl⟩
    exact h _ d hspell (List.IsInfix.trans ⟨[], e, by simp [rail]⟩ hsuffix.isInfix)

/-- Before the front of a placeholder none is read. -/
theorem PlaceholderFree.unread_before {x v y : Text} (h : PlaceholderFree tag (x ++ v))
    (hv : rail <+: v) : Unread tag x (v ++ y) := by
  intro u hu hsuffix
  rw [Option.eq_none_iff_forall_ne_some]
  intro r hr
  obtain ⟨hspell, hprefix⟩ :=
    isPrefix_of_read? htag hr hu (.inr (hv.trans (List.prefix_append v y)))
  obtain ⟨w, rfl⟩ := hsuffix
  have hin : r.spelling <+: u ++ v := hprefix.trans ((List.prefix_append_right_inj u).mpr hv)
  exact h _ _ hspell (hin.isInfix.trans ⟨w, [], by simp⟩)

end

namespace LiteralStore

/-- What no placeholder is read from stays as it is. -/
theorem restore_append {s : LiteralStore} {r t : Text} (h : Unread s.tag r t) :
    s.restore (r ++ t) = r ++ s.restore t := by
  induction r with
  | nil => rfl
  | cons c r ih =>
    have hc : s.read? (c :: (r ++ t)) = none := h (c :: r) (by simp) List.suffix_rfl
    have hr : Unread s.tag r t := fun v hv hs => h v hv (hs.trans (List.suffix_cons c r))
    rw [List.cons_append, restore_cons hc, ih hr]
    rfl

/-- What the placeholder with the number `i` turns into: the literal of that number, or the
placeholder itself when there is none. -/
def expansion (s : LiteralStore) (i : Nat) : Text :=
  match s.names[i]? with
  | some l => enquote l
  | none => s.placeholder i

theorem expansion_of_some {s : LiteralStore} {i : Nat} {l : Text} (hl : s.names[i]? = some l) :
    s.expansion i = enquote l := by
  rw [expansion, hl]

/-- A placeholder is read from its very start, whatever comes behind it. -/
theorem restore_placeholder_append {s : LiteralStore} (htag : '_' ∉ s.tag) (i : Nat) (t : Text) :
    s.restore (s.placeholder i ++ t) = s.expansion i ++ s.restore t := by
  have hread : s.read? (s.placeholder i ++ t) =
      some ⟨s.placeholder i, Nat.toDigits 10 i, t⟩ :=
    (read?_eq_some_iff (railed_beq htag)).mpr ⟨rfl, spells_text (railed_beq htag) i⟩
  have hname : s.named? (Nat.toDigits 10 i) = s.names[i]? := by
    rw [named?, Placeholder.number?_toDigits, Option.bind_some]
  rw [restore_of_read hread, resolve, hname]
  rfl

theorem restore_placeholder {s : LiteralStore} (htag : '_' ∉ s.tag) {i : Nat} {l : Text}
    (hl : s.names[i]? = some l) (t : Text) :
    s.restore (Placeholder.text s.tag i ++ t) = enquote l ++ s.restore t := by
  rw [← expansion_of_some hl]
  exact restore_placeholder_append htag i t

end LiteralStore

namespace Cut

/-- The text with placeholders for its literals, numbered from `i`. -/
def hiddenAt (tag : Text) (i : Nat) (c : Cut) : Text :=
  c.renderAt (fun n _ => Placeholder.text tag n) i

theorem hidden_eq (tag : Text) (c : Cut) : c.hidden tag = c.hiddenAt tag 0 := rfl

@[simp] theorem hiddenAt_plain (tag : Text) (i : Nat) (t : Text) : (plain t).hiddenAt tag i = t :=
  renderAt_plain _ i t

@[simp] theorem hiddenAt_literal (tag : Text) (i : Nat) (r l : Text) (c : Cut) :
    (literal r l c).hiddenAt tag i = r ++ (Placeholder.text tag i ++ c.hiddenAt tag (i + 1)) :=
  renderAt_literal _ i r l c

theorem hiddenAt_append (tag : Text) (i : Nat) (c d : Cut) :
    (c ++ d).hiddenAt tag i = c.hiddenAt tag i ++ d.hiddenAt tag (i + c.names.length) :=
  renderAt_append _ i c d

/-- What holds of all parts of a text holds between its literals. -/
theorem allOutside_of_infix {p : Text → Prop} {c : Cut} (h : ∀ r, r <:+: c.toText → p r) :
    c.AllOutside p := by
  induction c using Cut.induction with
  | plain t => simpa using h t (by simp)
  | literal r l c ih =>
    rw [toText_literal] at h
    refine allOutside_literal.mpr ⟨h r ⟨[], enquote l ++ c.toText, by simp⟩, ih fun s hs => h s ?_⟩
    exact hs.trans ⟨r ++ enquote l, [], by simp⟩

end Cut

theorem rail_isPrefix_text (tag : Text) (i : Nat) (t : Text) :
    rail <+: Placeholder.text tag i ++ t :=
  ⟨tag ++ Nat.toDigits 10 i ++ rail ++ t, by simp [Placeholder.text]⟩

namespace LiteralStore

/-- Names that continue the names from `i` on start with the literal that has the number `i`. -/
theorem getElem?_of_isPrefix_drop {s : LiteralStore} {i : Nat} {l : Text} {names : List Text}
    (h : l :: names <+: s.names.drop i) :
    s.names[i]? = some l ∧ names <+: s.names.drop (i + 1) := by
  obtain ⟨rest, hrest⟩ := h
  constructor
  · rw [← List.head?_drop, ← hrest]
    rfl
  · refine ⟨rest, ?_⟩
    rw [← List.drop_drop, ← hrest]
    rfl

/-- Literals come back where the text around them has nothing to read. -/
theorem restore_hiddenAt {s : LiteralStore} (htag : '_' ∉ s.tag) {c : Cut} {i : Nat}
    (hnames : c.names <+: s.names.drop i) (hout : c.AllOutside (Unread s.tag · []))
    (hbefore : ∀ r ∈ c.beforeLiterals, ∀ y, Unread s.tag r (rail ++ y)) :
    s.restore (c.hiddenAt s.tag i) = c.toText := by
  induction c using Cut.induction generalizing i with
  | plain t =>
    have ht : Unread s.tag t [] := by simpa using hout
    simpa using restore_append ht
  | literal r l c ih =>
    simp only [Cut.beforeLiterals_literal, List.forall_mem_cons] at hbefore
    obtain ⟨hl, hrest⟩ := getElem?_of_isPrefix_drop hnames
    obtain ⟨y, hy⟩ := rail_isPrefix_text s.tag i (c.hiddenAt s.tag (i + 1))
    rw [Cut.hiddenAt_literal, restore_append (hy ▸ hbefore.1 y), restore_placeholder htag hl,
      ih hrest (Cut.allOutside_literal.mp hout).2 hbefore.2, Cut.toText_literal]

theorem restore_hiddenAt_of_stemFree {s : LiteralStore} (htag : '_' ∉ s.tag) {c : Cut} {i : Nat}
    (hnames : c.names <+: s.names.drop i) (hout : c.AllOutside (StemFree s.tag)) :
    s.restore (c.hiddenAt s.tag i) = c.toText :=
  restore_hiddenAt htag hnames (hout.imp fun _ h => h.unread htag (.inl rfl))
    fun _ hr y => (hout.beforeLiterals _ hr).unread htag (.inr (List.prefix_append rail y))

/-- An unfinished placeholder before a literal does not survive. -/
theorem restore_unfinished_ne {s : LiteralStore} (htag : '_' ∉ s.tag) {r l y z : Text}
    (hfree : PlaceholderFree s.tag r) (hend : EndsUnfinished s.tag r) :
    s.restore (r ++ (rail ++ y)) ≠ r ++ (enquote l ++ z) := by
  obtain ⟨d, e, hd, hdigits, he, x, rfl⟩ := hend
  obtain ⟨k, k', hk, hrail⟩ : ∃ k k', rail ++ y = '_' :: k ++ k' ∧ e ++ '_' :: k = rail := by
    rcases he with rfl | rfl
    · exact ⟨['_'], y, rfl, rfl⟩
    · exact ⟨[], '_' :: y, rfl, rfl⟩
  have hspell : Placeholder.Spells (· == ·) s.tag (rail ++ s.tag ++ d ++ e ++ '_' :: k) d :=
    spells_beq_iff.mpr ⟨hd, hdigits, by rw [← hrail]; simp⟩
  have hread : s.read? (rail ++ s.tag ++ d ++ e ++ (rail ++ y)) =
      some ⟨rail ++ s.tag ++ d ++ e ++ '_' :: k, d, k'⟩ :=
    (read?_eq_some_iff (railed_beq htag)).mpr ⟨by rw [hk]; simp, hspell⟩
  have hx := hfree.unread_before (y := rail ++ y) htag
    ⟨s.tag ++ d ++ e, by simp⟩
  rw [List.append_assoc x, restore_append hx, List.append_assoc x, restore_of_read hread]
  intro h
  replace h := List.append_cancel_left h
  -- What was read turned into a literal, or it stayed and goes on where the literal should be.
  cases hname : s.named? d with
  | some l' =>
    have hhead := congrArg List.head? h
    simp [resolve, hname, enquote, rail, backtick] at hhead
  | none =>
    simp only [resolve, hname] at h
    rw [List.append_assoc _ ('_' :: k)] at h
    replace h := congrArg List.head? (List.append_cancel_left h)
    simp [enquote, backtick] at h

/-- Restoring a text undoes the hiding of its literals where no literal stands behind an unfinished
placeholder, and nowhere else. -/
theorem restore_hiddenAt_iff {s : LiteralStore} (htag : '_' ∉ s.tag) {c : Cut} {i : Nat}
    (hnames : c.names <+: s.names.drop i) (hfree : PlaceholderFree s.tag c.toText) :
    s.restore (c.hiddenAt s.tag i) = c.toText ↔
      ∀ r ∈ c.beforeLiterals, ¬ EndsUnfinished s.tag r := by
  have hout : c.AllOutside (PlaceholderFree s.tag) :=
    Cut.allOutside_of_infix fun r hr => hfree.of_infix hr
  clear hfree
  constructor
  · intro h
    induction c using Cut.induction generalizing i with
    | plain t => simp
    | literal r l c ih =>
      obtain ⟨hl, hrest⟩ := getElem?_of_isPrefix_drop hnames
      obtain ⟨hr, hc⟩ := Cut.allOutside_literal.mp hout
      obtain ⟨y, hy⟩ := rail_isPrefix_text s.tag i (c.hiddenAt s.tag (i + 1))
      rw [Cut.hiddenAt_literal, Cut.toText_literal] at h
      have hend : ¬ EndsUnfinished s.tag r := fun hend =>
        restore_unfinished_ne htag hr hend (hy ▸ h)
      rw [restore_append (hy ▸ hr.unread_rail htag hend), restore_placeholder htag hl] at h
      have htail := List.append_cancel_left (List.append_cancel_left h)
      simpa [hend] using ih hrest hc htail
  · intro h
    refine restore_hiddenAt htag hnames (hout.imp fun r hr => hr.unread_nil htag) ?_
    intro r hr y
    exact (hout.beforeLiterals r hr).unread_rail htag (h r hr)

end LiteralStore

/-- The text `r`, then each number of `xs` as `spell` writes it and the text that comes behind. -/
def interleaved (spell : Nat → Text) (r : Text) (xs : List (Nat × Text)) : Text :=
  r ++ xs.flatMap fun x => spell x.1 ++ x.2

theorem interleaved_cons (spell : Nat → Text) (r : Text) (i : Nat) (r' : Text)
    (xs : List (Nat × Text)) :
    interleaved spell r ((i, r') :: xs) = r ++ (spell i ++ interleaved spell r' xs) := by
  simp [interleaved]

namespace LiteralStore

/-- Each placeholder is replaced on its own, and the texts between them stay as they are. -/
theorem restore_interleaved_placeholders {s : LiteralStore} (htag : '_' ∉ s.tag) {r : Text}
    {xs : List (Nat × Text)} (hr : StemFree s.tag r) (hxs : ∀ x ∈ xs, StemFree s.tag x.2) :
    s.restore (interleaved s.placeholder r xs) = interleaved s.expansion r xs := by
  induction xs generalizing r with
  | nil =>
    have hend := restore_append (hr.unread htag (.inl rfl))
    simpa [interleaved] using hend
  | cons x xs ih =>
    obtain ⟨i, r'⟩ := x
    rw [List.forall_mem_cons] at hxs
    -- What comes next starts with a rail, and so nothing is read from inside `r`.
    have hrail : rail <+: s.placeholder i ++ interleaved s.placeholder r' xs :=
      rail_isPrefix_text s.tag i _
    rw [interleaved_cons, restore_append (hr.unread htag (.inr hrail)),
      restore_placeholder_append htag, ih hxs.1 hxs.2, interleaved_cons]

end LiteralStore

/-- Restoring is one exact substitution: placeholders that stand between texts without the stem of
one turn into the literals with their numbers, or stay if there are none. In particular it undoes
the hiding of literals in a text without such a stem outside of them. -/
theorem restore_interleaved {tag : Text} (htag : '_' ∉ tag) :
    (∀ (names : List Text) (r : Text) (xs : List (Nat × Text)), StemFree tag r →
        (∀ x ∈ xs, StemFree tag x.2) →
          LiteralStore.restore ⟨tag, names⟩ (interleaved (Placeholder.text tag) r xs) =
            interleaved (LiteralStore.expansion ⟨tag, names⟩) r xs) ∧
      ∀ t, (Cut.ofText t).AllOutside (StemFree tag) →
        (hideLiterals tag t).2.restore (hideLiterals tag t).1 = t := by
  constructor
  · intro names r xs hr hxs
    exact LiteralStore.restore_interleaved_placeholders (s := ⟨tag, names⟩) htag hr hxs
  · intro t hout
    have hrestore := LiteralStore.restore_hiddenAt_of_stemFree (s := .ofText tag t) (i := 0) htag
      (c := Cut.ofText t) (by simp [LiteralStore.ofText]) hout
    rwa [Cut.toText_ofText] at hrestore

theorem restore_interleaved_lookalikes :
    '_' ∉ "r.1".toList ∧ StemFree "r.1".toList "x_".toList ∧
      (∀ x ∈ [(1, "_y".toList), (7, []), (0, "__r.1".toList)], StemFree "r.1".toList x.2) ∧
      LiteralStore.restore ⟨"r.1".toList, ["__r.11__".toList, "b".toList]⟩
          "x___r.11___y__r.17____r.10____r.1".toList =
        "x_`b`_y__r.17__`__r.11__`__r.1".toList ∧
      (Cut.ofText "__r.1`__r.10__`0__".toList).AllOutside (StemFree "r.1".toList) ∧
      (hideLiterals "r.1".toList "__r.1`__r.10__`0__".toList).2.restore
        (hideLiterals "r.1".toList "__r.1`__r.10__`0__".toList).1 =
          "__r.1`__r.10__`0__".toList := by
  have htag : '_' ∉ "r.1".toList := by decide
  have hr : StemFree "r.1".toList "x_".toList := by decide
  have hxs : ∀ x ∈ [(1, "_y".toList), (7, []), (0, "__r.1".toList)], StemFree "r.1".toList x.2 := by
    decide
  have hout : (Cut.ofText "__r.1`__r.10__`0__".toList).AllOutside (StemFree "r.1".toList) := by
    decide
  have hrestore := (restore_interleaved htag).1 ["__r.11__".toList, "b".toList] _ _ hr hxs
  have hwritten : interleaved (Placeholder.text "r.1".toList) "x_".toList
      [(1, "_y".toList), (7, []), (0, "__r.1".toList)] =
        "x___r.11___y__r.17____r.10____r.1".toList := by
    decide
  have hread : interleaved (LiteralStore.expansion ⟨"r.1".toList, ["__r.11__".toList, "b".toList]⟩)
      "x_".toList [(1, "_y".toList), (7, []), (0, "__r.1".toList)] =
        "x_`b`_y__r.17__`__r.11__`__r.1".toList := by
    decide
  rw [hwritten, hread] at hrestore
  exact ⟨htag, hr, hxs, hrestore, hout, (restore_interleaved htag).2 _ hout⟩

/-- A text without placeholders of its own comes back from `hideLiterals` exactly if none of its
literals stands right behind an unfinished placeholder. -/
theorem restore_hideLiterals_iff {tag t : Text} (htag : ∀ l ∈ tag, l.isAlpha = true)
    (hfree : PlaceholderFree tag t) :
    (hideLiterals tag t).2.restore (hideLiterals tag t).1 = t ↔
      ∀ r ∈ (Cut.ofText t).beforeLiterals, ¬ EndsUnfinished tag r := by
  have hline : '_' ∉ tag := fun hl => absurd (htag _ hl) (by decide)
  have h := LiteralStore.restore_hiddenAt_iff (s := .ofText tag t) (c := Cut.ofText t) (i := 0)
    hline (by simp [LiteralStore.ofText]) (by simpa [LiteralStore.ofText] using hfree)
  rwa [Cut.toText_ofText] at h

theorem restore_hideLiterals_behind_unfinished :
    (∀ l ∈ "ref".toList, l.isAlpha = true) ∧
      PlaceholderFree "ref".toList "__ref0`a`".toList ∧
      (hideLiterals "ref".toList "__ref0`a`".toList).2.restore
        (hideLiterals "ref".toList "__ref0`a`".toList).1 = "`a`ref0__".toList ∧
      "`a`ref0__".toList ≠ "__ref0`a`".toList := by
  have hhidden : hideLiterals "ref".toList "__ref0`a`".toList =
      ("__ref0__ref0__".toList, ⟨"ref".toList, ["a".toList]⟩) := by decide
  refine ⟨List.all_eq_true.mp (by decide), (placeholderFree_iff (by decide)).mpr (by decide), ?_,
    by decide⟩
  rw [hhidden]
  have hread : LiteralStore.read? ⟨"ref".toList, ["a".toList]⟩ "__ref0__ref0__".toList =
      some ⟨"__ref0__".toList, ['0'], "ref0__".toList⟩ := by decide
  have hrest : PlaceholderFree "ref".toList "ref0__".toList :=
    (placeholderFree_iff (by decide)).mpr (by decide)
  have hstay := LiteralStore.restore_append (s := ⟨"ref".toList, ["a".toList]⟩)
    (hrest.unread_nil (by decide))
  rw [List.append_nil, LiteralStore.restore_nil] at hstay
  show LiteralStore.restore _ "__ref0__ref0__".toList = _
  rw [LiteralStore.restore_of_read hread, hstay]
  decide

theorem restore_hideLiterals_apart :
    (∀ l ∈ "ref".toList, l.isAlpha = true) ∧
      PlaceholderFree "ref".toList "__ref0 `a` __ref1_".toList ∧
      (hideLiterals "ref".toList "__ref0 `a` __ref1_".toList).2.restore
        (hideLiterals "ref".toList "__ref0 `a` __ref1_".toList).1 =
          "__ref0 `a` __ref1_".toList := by
  have hletters : ∀ l ∈ "ref".toList, l.isAlpha = true :=
    List.all_eq_true.mp (by decide)
  have hfree : PlaceholderFree "ref".toList "__ref0 `a` __ref1_".toList :=
    (placeholderFree_iff (by decide)).mpr (by decide)
  exact ⟨hletters, hfree, (restore_hideLiterals_iff hletters hfree).mpr (by decide)⟩

end SqlOutline
