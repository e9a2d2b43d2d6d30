import SqlOutline.Proofs.TwoRuns

/-!
Field lists joined by a comma.

A comma outside literals parts two entries, so that no entry reaches over it. The literals behind it
have other numbers than in a list of their own, but these make no difference (`Field.ofHidden_eq`).
So a field list has the fields of its two parts (`Field.ofClause_append_comma`).
-/

namespace SqlOutline
open Placeholder

/-- A comma behind closed literals parts the cut of the text. -/
theorem Cut.ofText_append_comma {a : Text} (heven : a.count backtick % 2 = 0) (b : Text) :
    ofText (a ++ ',' :: b) = ofText a ++ plain [','] ++ ofText b := by
  rw [← ofText_between heven (by decide), List.append_assoc, List.singleton_append]

namespace Field

/-- The entries on the two sides of a comma are read one by one. -/
theorem ofHidden_append_comma (store : LiteralStore) (s t : Text) :
    ofHidden store (s ++ ',' :: t) = ofHidden store s ++ ofHidden store t := by
  have hsplit : (s ++ ',' :: t).splitOn ',' = s.splitOn ',' ++ t.splitOn ',' :=
    List.splitOnP_append_cons s t rfl
  rw [ofHidden, hsplit, List.map_append, List.filter_append, List.map_append]
  rfl

theorem ofHidden_hiddenAt_comma (store : LiteralStore) {a : Text}
    (heven : a.count backtick % 2 = 0) (b : Text) (i : Nat) :
    ofHidden store ((Cut.ofText (a ++ ',' :: b)).hiddenAt store.tag i) =
      ofHidden store ((Cut.ofText a).hiddenAt store.tag i) ++
        ofHidden store ((Cut.ofText b).hiddenAt store.tag (i + (Cut.ofText a).names.length)) := by
  rw [← ofHidden_append_comma, Cut.ofText_append_comma heven]
  simp [Cut.hiddenAt_append]

/-- The fields of a hidden part of a text are those of the part itself. -/
theorem ofHidden_eq {store : LiteralStore} (htag : PlainTag store.tag) {i : Nat} {c : Cut}
    (h : Fits store i c) :
    ofHidden store (c.hiddenAt store.tag i) = ofClause store.tag c.toText := by
  have hown : Fits (.ofText store.tag c.toText) 0 c := by
    refine ⟨h.paired, h.stemFree, ?_⟩
    simp [LiteralStore.ofText, Cut.ofText_toText h.paired]
  have halike : Alike (fun _ => True) store (.ofText store.tag c.toText)
      (c.hiddenAt store.tag i) (c.hiddenAt store.tag 0) :=
    ⟨i, 0, c, trivial, h, hown, rfl, rfl⟩
  rw [ofClause_eq_ofHidden, Cut.ofText_toText h.paired]
  exact halike.ofHidden_eq (fun _ _ _ => ⟨trivial, trivial⟩) htag htag
    fun c _ => c.sameBreaks_self htag

/-- Two lists with a comma between them have the fields of both. The first one closes its literals,
since one that is left open would go on behind the comma. -/
theorem ofClause_append_comma {tag a b : Text} (htag : PlainTag tag)
    (heven : a.count backtick % 2 = 0) (ha : (Cut.ofText a).AllOutside (StemFree tag))
    (hb : (Cut.ofText b).AllOutside (StemFree tag)) :
    ofClause tag (a ++ ',' :: b) = ofClause tag a ++ ofClause tag b := by
  have hnames : (LiteralStore.ofText tag (a ++ ',' :: b)).names =
      (Cut.ofText a).names ++ (Cut.ofText b).names := by
    simp [LiteralStore.ofText, Cut.ofText_append_comma heven]
  have hfront : Fits (.ofText tag (a ++ ',' :: b)) 0 (Cut.ofText a) :=
    ⟨Cut.paired_ofText a, ha, by simp [hnames]⟩
  have hback : Fits (.ofText tag (a ++ ',' :: b)) (0 + (Cut.ofText a).names.length)
      (Cut.ofText b) :=
    ⟨Cut.paired_ofText b, hb, by simp [hnames]⟩
  have hfrontFields := ofHidden_eq htag hfront
  have hbackFields := ofHidden_eq htag hback
  rw [Cut.toText_ofText] at hfrontFields hbackFields
  calc ofClause tag (a ++ ',' :: b)
      = ofHidden (.ofText tag (a ++ ',' :: b)) ((Cut.ofText a).hiddenAt tag 0) ++
          ofHidden (.ofText tag (a ++ ',' :: b))
            ((Cut.ofText b).hiddenAt tag (0 + (Cut.ofText a).names.length)) :=
        ofHidden_hiddenAt_comma _ heven b 0
    _ = ofClause tag a ++ ofClause tag b := congrArg₂ (· ++ ·) hfrontFields hbackFields

/-- A list with a blank entry and an entry without a column, and one that leaves a literal open. -/
theorem ofClause_append_comma_open_literal :
    ∃ a b : Text, a = "`a,`.x as `as`, ,as c".toList ∧ b = "`b`as`,`,`d AS e".toList ∧
      ofClause "ref".toList (a ++ ',' :: b) =
        [⟨"x".toList, some "`a,`".toList, some "as".toList⟩, ⟨[], none, some "c".toList⟩,
          ⟨"`b`".toList, none, some ",".toList⟩, ⟨"`d".toList, none, some "e".toList⟩] := by
  have htag : PlainTag "ref".toList := by decide
  have hlist := ofClause_append_comma htag (a := "`a,`.x as `as`, ,as c".toList)
    (b := "`b`as`,`,`d AS e".toList) (by decide) (by decide +kernel) (by decide +kernel)
  have hfront : ofClause "ref".toList "`a,`.x as `as`, ,as c".toList =
      [⟨"x".toList, some "`a,`".toList, some "as".toList⟩, ⟨[], none, some "c".toList⟩] := by
    decide +kernel
  have hback : ofClause "ref".toList "`b`as`,`,`d AS e".toList =
      [⟨"`b`".toList, none, some ",".toList⟩, ⟨"`d".toList, none, some "e".toList⟩] := by
    decide +kernel
  rw [hfront, hback] at hlist
  exact ⟨_, _, rfl, rfl, hlist⟩

end Field
end SqlOutline
