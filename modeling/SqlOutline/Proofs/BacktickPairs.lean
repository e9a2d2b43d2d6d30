import SqlOutline.Literal.Required
import SqlOutline.Proofs.CutAlgebra
import SqlOutline.Proofs.LiteralEntries

/-!
How the backticks of a text pair up.

Every second backtick closes a literal. So a text has half as many literals as backticks, rounded
down, and an odd backtick is left behind the last of them (`Cut.PairsBackticks`). There is one such
cut of a text alone, and it is the one that literals are hidden by (`hideLiterals_pairs_backticks`).
-/

namespace SqlOutline

namespace Cut

/-- Around each literal of the cut stand two backticks of the text `t`, in their order, and none is
left over but the last of an odd number. -/
structure PairsBackticks (t : Text) (c : Cut) : Prop where
  text : c.toText = t
  number : c.names.length = t.count backtick / 2
  inside : ∀ l ∈ c.names, backtick ∉ l
  before : ∀ r ∈ c.beforeLiterals, backtick ∉ r
  last : c.lastText.count backtick = t.count backtick % 2

theorem paired_iff {c : Cut} :
    c.Paired ↔ (∀ l ∈ c.names, backtick ∉ l) ∧ (∀ r ∈ c.beforeLiterals, backtick ∉ r) ∧
      c.lastText.count backtick ≤ 1 := by
  induction c using Cut.induction with
  | plain t => simp
  | literal r l c ih =>
    simp only [paired_literal, names_literal, beforeLiterals_literal, lastText_literal,
      List.forall_mem_cons, ih]
    tauto

/-- Every literal has two of the backticks. -/
theorem Paired.count_toText {c : Cut} (h : c.Paired) :
    c.toText.count backtick = 2 * c.names.length + c.lastText.count backtick := by
  induction c using Cut.induction with
  | plain t => simp
  | literal r l c ih =>
    obtain ⟨hr, hl, hc⟩ := paired_literal.mp h
    rw [toText_literal, List.count_append, List.count_append, List.count_eq_zero.mpr hr,
      count_enquote hl, ih hc, names_literal, List.length_cons, lastText_literal]
    omega

theorem pairsBackticks_ofText (t : Text) : (ofText t).PairsBackticks t := by
  have hpaired := paired_ofText t
  obtain ⟨hinside, hbefore, hlast⟩ := paired_iff.mp hpaired
  have hcount := hpaired.count_toText
  rw [toText_ofText] at hcount
  exact ⟨toText_ofText t, by omega, hinside, hbefore, by omega⟩

/-- The backticks of a text pair up in one way alone. -/
theorem PairsBackticks.eq_ofText {t : Text} {c : Cut} (h : c.PairsBackticks t) : c = ofText t := by
  have hlast := h.last
  have hpaired : c.Paired := paired_iff.mpr ⟨h.inside, h.before, by omega⟩
  rw [← h.text, ofText_toText hpaired]

end Cut

/-- Names are found in a text that has two backticks. -/
theorem requiredNames_eq (t : Text) :
    requiredNames t =
      if 2 ≤ t.count backtick then .ok (Cut.ofText t).names
      else .error (.noLiteral (Text.trim t)) := by
  have hnumber := (Cut.pairsBackticks_ofText t).number
  rw [requiredNames]
  cases hnames : (Cut.ofText t).names with
  | nil =>
    rw [hnames, List.length_nil] at hnumber
    rw [if_neg (by omega)]
  | cons name names =>
    rw [hnames, List.length_cons] at hnumber
    rw [if_pos (by omega)]

/-- Literals are hidden by the one cut that pairs the backticks of the text from left to right. The
store lists them in order, each under a placeholder of its own, and these placeholders stand in the
text in their place. Names are read where two backticks are. -/
theorem hideLiterals_pairs_backticks (t : Text) :
    ∃ c : Cut, c.PairsBackticks t ∧ (∀ d : Cut, d.PairsBackticks t → d = c) ∧
      (∀ tag, hideLiterals tag t = (c.hidden tag, ⟨tag, c.names⟩) ∧
        (hideLiterals tag t).2.size = t.count backtick / 2 ∧
        (∀ i, (hideLiterals tag t).2.entries[i]? =
          c.names[i]?.map fun l => (Placeholder.text tag i, l)) ∧
        ((hideLiterals tag t).2.entries.map (·.1)).Nodup) ∧
      requiredNames t =
        if 2 ≤ t.count backtick then .ok c.names else .error (.noLiteral (Text.trim t)) := by
  have hcut := Cut.pairsBackticks_ofText t
  refine ⟨Cut.ofText t, hcut, fun d hd => hd.eq_ofText, fun tag => ?_, requiredNames_eq t⟩
  exact ⟨rfl, hcut.number, LiteralStore.getElem?_entries _, LiteralStore.nodup_entries _⟩

/-- Two literals side by side, of which one is empty, and a backtick that is left over. -/
example : (Cut.ofText "`a```b`c".toList).names = ["a".toList, []] ∧
    (Cut.ofText "`a```b`c".toList).lastText = "b`c".toList := by
  decide

end SqlOutline
