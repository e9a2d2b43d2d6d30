import SqlOutline.Proofs.Lacking
import SqlOutline.Proofs.Sections

/-!
What the order of the cuts says about the clauses.

When a clause is cut off, the keywords searched before it are gone from the text, and its own text
has no new ends at which they could appear (`Lacks.piece`). So the text of a clause lacks the
keyword of each clause that is cut off before it, also after its literals are back and hidden once
more.
-/

namespace SqlOutline
open Unicode Placeholder

section
variable {tag : Text} (htag : PlainTag tag) {k : Keyword} (hk : k.Plain)
include htag hk

/-- The text of a clause lacks what the text lacks that it was cut off from. -/
theorem Lacks.piece {o : Occurrence} (h : Lacks k tag o.text) (d : Clause)
    (ho : Bounded d.keyword tag o) : Lacks k tag (Text.trim (d.body o)) := by
  unfold Clause.body
  split
  · refine Lacks.trim_end hk (x := o.before) ?_ (.inl ho.left)
    rwa [Occurrence.text, List.append_assoc] at h
  · exact Lacks.trim_end hk (x := o.before ++ o.found) h (.inr (ho.right.head_not_isSolid htag))

/-- What a text lacks is lacked by all that is peeled off it. -/
theorem peel_lacks {cs : List Clause} {t : Text} (h : Lacks k tag t) :
    ∀ p ∈ peel tag cs t, Lacks k tag p.2 := by
  induction cs generalizing t with
  | nil => simp [peel]
  | cons d cs ih =>
    rw [peel]
    split
    · rename_i o hfind
      obtain ⟨rfl, ho, -⟩ := (Keyword.find?_eq_some_iff htag d.keyword_plain).mp hfind
      rw [List.forall_mem_cons]
      exact ⟨h.piece htag hk d ho, ih (h.before htag hk ho)⟩
    · exact ih h

end

/-- Clauses are peeled off in the order in which they were asked for. -/
theorem peel_clauses (tag : Text) (cs : List Clause) (t : Text) :
    ((peel tag cs t).map (·.1)).Sublist cs := by
  induction cs generalizing t with
  | nil => simp [peel]
  | cons d cs ih =>
    rw [peel]
    split
    · exact (ih _).cons_cons d
    · exact (ih t).cons d

theorem clausePieces_nodup (tag t : Text) : ((clausePieces tag t).map (·.1)).Nodup :=
  Clause.nodup_peelOrder.sublist
    ((List.filter_sublist.map _).trans (peel_clauses tag Clause.peelOrder t))

/-- What is peeled off for a clause lacks the keywords that were searched before. -/
theorem peel_lacks_earlier {tag : Text} (htag : PlainTag tag) {cs : List Clause} (hcs : cs.Nodup)
    {c d : Clause} (hd : [d, c].Sublist cs) {t b : Text} (h : (c, b) ∈ peel tag cs t) :
    Lacks d.keyword tag b := by
  induction cs generalizing t with
  | nil => simp at hd
  | cons e cs ih =>
    obtain ⟨he, hnodup⟩ := List.nodup_cons.mp hcs
    rw [peel] at h
    by_cases hde : d = e
    · subst hde
      have hc : c ∈ cs := List.singleton_sublist.mp (List.cons_sublist_cons.mp hd)
      have hne : c ≠ d := fun h => he (h ▸ hc)
      split at h
      · rename_i o hfind
        have hmem := (List.mem_cons.mp h).resolve_left fun h => hne (Prod.mk.inj h).1
        exact peel_lacks htag d.keyword_plain
          (lacks_before_of_find? htag d.keyword_plain hfind) _ hmem
      · rename_i hnone
        exact peel_lacks htag d.keyword_plain ((lacks_iff htag d.keyword_plain).mpr hnone) _ h
    · have hd' : [d, c].Sublist cs := by
        cases hd with
        | cons _ hd => exact hd
        | cons_cons _ hd => exact absurd rfl hde
      have hne : c ≠ e := fun h => he (h ▸ hd'.subset (by simp))
      split at h
      · exact ih hnodup hd' ((List.mem_cons.mp h).resolve_left fun h => hne (Prod.mk.inj h).1)
      · exact ih hnodup hd' h

/-- All that is peeled off a hidden text hides a text of its own. -/
theorem peel_fits {s : LiteralStore} (htag : PlainTag s.tag) {cs : List Clause} {C : Cut}
    (h : Fits s 0 C) :
    ∀ p ∈ peel s.tag cs (C.hiddenAt s.tag 0), ∃ D i, Fits s i D ∧ D.hiddenAt s.tag i = p.2 := by
  induction cs generalizing C with
  | nil => simp [peel]
  | cons d cs ih =>
    rw [peel]
    split
    · rename_i o hfind
      obtain ⟨A, B, -, hfits, hA, D, j, hD, hbody, -⟩ := h.cut_off htag hfind
      rw [List.forall_mem_cons, ← hA]
      exact ⟨⟨D, j, hD, hbody⟩, ih hfits⟩
    · exact ih h

/-- In the text of a clause, its literals hidden again, the keyword of a clause that is cut off
earlier is not found. -/
theorem ofQuery_lacks_earlier {tag query : Text} {s : ClauseSet} (htag : PlainTag tag)
    (hfree : (Cut.ofText query).AllOutside (StemFree tag))
    (h : ClauseSet.ofQuery tag query = .ok s) {c d : Clause} {t : Text}
    (ht : s.get? c = some t) (hd : [d, c].Sublist Clause.peelOrder) :
    d.keyword.find? tag (hideLiterals tag t).1 = none := by
  obtain ⟨-, rfl⟩ := ClauseSet.ofQuery_eq_ok_iff.mp h
  have hclauses : ((clausePieces tag (hideLiterals tag query).1).map (·.1)).Sublist
      Clause.peelOrder :=
    (List.filter_sublist.map _).trans (peel_clauses tag Clause.peelOrder _)
  obtain ⟨⟨c', b⟩, hmem, he⟩ := List.mem_map.mp <| (ClauseSet.get?_ofEntries (by
    rw [List.map_map]
    exact Clause.nodup_peelOrder.sublist hclauses)).mp ht
  obtain ⟨rfl, rfl⟩ : c' = c ∧ (LiteralStore.ofText tag query).restore b = t :=
    Prod.mk.inj he
  have hpeeled := (List.mem_filter.mp hmem).1
  have hlacks := peel_lacks_earlier htag Clause.nodup_peelOrder hd hpeeled
  obtain ⟨D, i, hD, rfl⟩ := peel_fits htag (fits_ofText hfree) _ hpeeled
  rw [hD.restore htag, hD.hideLiterals_toText tag]
  exact find?_hiddenAt_eq_none htag d.keyword_plain
    ((lacks_iff htag d.keyword_plain).mp hlacks) 0

theorem ofQuery_lacks_earlier_filter :
    PlainTag "ref".toList ∧
      (Cut.ofText "SELECT a FROM t, `where`WHERE b".toList).AllOutside (StemFree "ref".toList) ∧
      ClauseSet.ofQuery "ref".toList "SELECT a FROM t, `where`WHERE b".toList =
        .ok { fields := some ['a'], source := some "t, `where`".toList, filter := some ['b'] } ∧
      [Clause.filter, .source].Sublist Clause.peelOrder ∧
      Clause.filter.keyword.find? "ref".toList
        (hideLiterals "ref".toList "t, `where`".toList).1 = none := by
  have htag : PlainTag "ref".toList := by decide
  have hfree : (Cut.ofText "SELECT a FROM t, `where`WHERE b".toList).AllOutside
      (StemFree "ref".toList) := by
    decide
  have hquery : ClauseSet.ofQuery "ref".toList "SELECT a FROM t, `where`WHERE b".toList =
      .ok { fields := some ['a'], source := some "t, `where`".toList, filter := some ['b'] } := by
    rw [ClauseSet.ofQuery_eq_ok_iff]
    decide +kernel
  have horder : [Clause.filter, .source].Sublist Clause.peelOrder := by decide
  exact ⟨htag, hfree, hquery, horder,
    ofQuery_lacks_earlier htag hfree hquery (c := .source) rfl horder⟩

end SqlOutline
