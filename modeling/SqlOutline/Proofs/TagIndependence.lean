import SqlOutline.Proofs.ClearText
import SqlOutline.Proofs.CutOrder
import SqlOutline.Proofs.TwoRuns

/-!
The choice of the tag.

Two runs with two tags hide the literals of one text in two ways. If the text has no part that would
be read as a placeholder, words break at the same places in both runs, so that the runs stay alike
and the tag cannot be told from a result (`tag_unobserved`).
-/

namespace SqlOutline
open Unicode Placeholder

/-- The text is clear of two tags. -/
def Cut.ClearOfBoth (tag₁ tag₂ : Text) (c : Cut) : Prop := c.ClearOf tag₁ ∧ c.ClearOf tag₂

theorem Cut.ClearOfBoth.hereditary (tag₁ tag₂ : Text) : Hereditary (ClearOfBoth tag₁ tag₂) := by
  rintro A B ⟨h₁, h₂⟩
  exact ⟨⟨h₁.of_append.1, h₂.of_append.1⟩, ⟨h₁.of_append.2, h₂.of_append.2⟩⟩

/-! What the two runs answer. -/

theorem missingClause?_congr {xs ys : List (Clause × Text)} (h : xs.map (·.1) = ys.map (·.1)) :
    missingClause? xs = missingClause? ys := by
  have by_clause : ∀ zs : List (Clause × Text), missingClause? zs =
      Clause.mandatory.find? fun c => !(zs.map (·.1)).any (· == c) := by
    intro zs
    simp only [missingClause?, List.any_map, Function.comp_def]
  rw [by_clause, by_clause, h]

/-- The text of a clause was cut off the query. -/
theorem ClauseSet.exists_piece {tag query : Text} {s : ClauseSet}
    (hs : ClauseSet.ofQuery tag query = .ok s) {c : Clause} {u : Text} (hu : s.get? c = some u) :
    ∃ b, (c, b) ∈ clausePieces tag (hideLiterals tag query).1 ∧
      (LiteralStore.ofText tag query).restore b = u := by
  obtain ⟨-, rfl⟩ := ClauseSet.ofQuery_eq_ok_iff.mp hs
  have hnodup := clausePieces_nodup tag (hideLiterals tag query).1
  obtain ⟨⟨d, b⟩, hmem, he⟩ := List.mem_map.mp <|
    (ClauseSet.get?_ofEntries (by rwa [List.map_map])).mp hu
  obtain ⟨rfl, rfl⟩ : d = c ∧ (LiteralStore.ofText tag query).restore b = u := Prod.mk.inj he
  exact ⟨b, hmem, rfl⟩

section
variable {tag₁ tag₂ : Text} (htag₁ : PlainTag tag₁) (htag₂ : PlainTag tag₂) {t : Text}
include htag₁ htag₂

theorem TableRef.ofClause_eq (h₁ : (Cut.ofText t).AllOutside (StemFree tag₁))
    (h₂ : (Cut.ofText t).AllOutside (StemFree tag₂)) :
    TableRef.ofClause tag₁ t = TableRef.ofClause tag₂ t := by
  have hP : Cut.Hereditary fun _ => True := fun _ _ _ => ⟨trivial, trivial⟩
  have halike := Alike.ofText (P := fun _ => True) (fits_ofText_trim h₁).1.stemFree
    (fits_ofText_trim h₂).1.stemFree trivial
  obtain ⟨hreference, hrest⟩ := halike.divide_source hP htag₁ htag₂
  obtain ⟨hdatabase, htable⟩ := hreference.splitQualifier hP htag₁ htag₂
  have hlabel := hrest.label hP htag₁ htag₂
  simp only [TableRef.ofClause, hideLiterals, TableRef.mk.injEq]
  exact ⟨Alike.map_restore_eq htag₁ htag₂ hdatabase, htable.restore_eq htag₁ htag₂,
    Alike.map_restore_eq htag₁ htag₂ hlabel⟩

omit htag₁ htag₂ in
/-- The two runs on a text that is clear of both tags start alike. -/
theorem Cut.ClearOfBoth.alike (h : (Cut.ofText t).ClearOfBoth tag₁ tag₂) :
    Alike (ClearOfBoth tag₁ tag₂) (.ofText tag₁ t) (.ofText tag₂ t) ((Cut.ofText t).hidden tag₁)
      ((Cut.ofText t).hidden tag₂) :=
  Alike.ofText (h.1.outside.imp fun _ => OpeningFree.stemFree)
    (h.2.outside.imp fun _ => OpeningFree.stemFree) h

theorem Field.ofClause_eq (h : (Cut.ofText t).ClearOfBoth tag₁ tag₂) :
    Field.ofClause tag₁ t = Field.ofClause tag₂ t :=
  h.alike.ofHidden_eq (Cut.ClearOfBoth.hereditary tag₁ tag₂) htag₁ htag₂
    fun _ hc => hc.1.sameBreaks htag₁ htag₂ hc.2

/-- Both runs cut the same clauses off the query. -/
theorem clausePieces_alike (h : (Cut.ofText t).ClearOfBoth tag₁ tag₂) :
    List.Forall₂ (fun e₁ e₂ => e₁.1 = e₂.1 ∧
        Alike (Cut.ClearOfBoth tag₁ tag₂) (.ofText tag₁ t) (.ofText tag₂ t) e₁.2 e₂.2)
      (clausePieces tag₁ (hideLiterals tag₁ t).1) (clausePieces tag₂ (hideLiterals tag₂ t).1) :=
  h.alike.clausePieces (Cut.ClearOfBoth.hereditary tag₁ tag₂) htag₁ htag₂
    fun _ hc => hc.1.sameBreaks htag₁ htag₂ hc.2

theorem ClauseSet.ofQuery_eq (h : (Cut.ofText t).ClearOfBoth tag₁ tag₂) :
    ClauseSet.ofQuery tag₁ t = ClauseSet.ofQuery tag₂ t := by
  have hpieces := clausePieces_alike htag₁ htag₂ h
  have hclauses : (clausePieces tag₁ (hideLiterals tag₁ t).1).map (·.1) =
      (clausePieces tag₂ (hideLiterals tag₂ t).1).map (·.1) := by
    rw [← List.forall₂_eq_eq_eq]
    exact List.rel_map (fun _ _ he => he.1) hpieces
  have hrestored : (clausePieces tag₁ (hideLiterals tag₁ t).1).map
        (fun p => (p.1, (LiteralStore.ofText tag₁ t).restore p.2)) =
      (clausePieces tag₂ (hideLiterals tag₂ t).1).map
        (fun p => (p.1, (LiteralStore.ofText tag₂ t).restore p.2)) := by
    rw [← List.forall₂_eq_eq_eq]
    exact List.rel_map (fun _ _ he => Prod.ext he.1 (he.2.restore_eq htag₁ htag₂)) hpieces
  have hmissing := missingClause?_congr hclauses
  simp only [hideLiterals] at hrestored hmissing
  simp only [ClauseSet.ofQuery, hideLiterals, hmissing, hrestored]

/-- The texts of clauses are clear of the tags that the query is clear of. -/
theorem ClauseSet.clearOfBoth_of_ofQuery (h : (Cut.ofText t).ClearOfBoth tag₁ tag₂) {s : ClauseSet}
    (hs : ClauseSet.ofQuery tag₂ t = .ok s) {c : Clause} {u : Text} (hu : s.get? c = some u) :
    (Cut.ofText u).ClearOfBoth tag₁ tag₂ := by
  obtain ⟨b, hb, rfl⟩ := ClauseSet.exists_piece hs hu
  exact forall_of_forall₂ (clausePieces_alike htag₁ htag₂ h) (p := fun e => (Cut.ofText
    ((LiteralStore.ofText tag₂ t).restore e.2)).ClearOfBoth tag₁ tag₂)
    (fun _ _ _ he => he.2.symm.ofText_restore htag₂) _ hb

/-- The tag cannot be told from the answers for a text without openings of either tag, if no text
behind a literal completes a placeholder that starts in the low lines of the one before it. The
table reference needs no more than the former. -/
theorem tag_unobserved (h₁ : (Cut.ofText t).AllOutside (OpeningFree tag₁))
    (h₂ : (Cut.ofText t).AllOutside (OpeningFree tag₂)) :
    TableRef.ofClause tag₁ t = TableRef.ofClause tag₂ t ∧
      ((Cut.ofText t).AllBehind (¬ CompletesPlaceholder tag₁ ·) →
        (Cut.ofText t).AllBehind (¬ CompletesPlaceholder tag₂ ·) →
        Field.ofClause tag₁ t = Field.ofClause tag₂ t ∧
          ClauseSet.ofQuery tag₁ t = ClauseSet.ofQuery tag₂ t ∧
          ∀ s, ClauseSet.ofQuery tag₁ t = .ok s →
            s.fieldList tag₁ = s.fieldList tag₂ ∧ s.tableRef tag₁ = s.tableRef tag₂) := by
  have stemFree : ∀ {tag u}, (Cut.ofText u).AllOutside (OpeningFree tag) →
      (Cut.ofText u).AllOutside (StemFree tag) := fun h => h.imp fun _ => OpeningFree.stemFree
  refine ⟨TableRef.ofClause_eq htag₁ htag₂ (stemFree h₁) (stemFree h₂), fun hb₁ hb₂ => ?_⟩
  have hclear : (Cut.ofText t).ClearOfBoth tag₁ tag₂ := ⟨⟨h₁, hb₁⟩, ⟨h₂, hb₂⟩⟩
  have hquery := ClauseSet.ofQuery_eq htag₁ htag₂ hclear
  refine ⟨Field.ofClause_eq htag₁ htag₂ hclear, hquery, fun s hs => ?_⟩
  have htext : ∀ {c u}, s.get? c = some u → (Cut.ofText u).ClearOfBoth tag₁ tag₂ := fun hu =>
    ClauseSet.clearOfBoth_of_ofQuery htag₁ htag₂ hclear (hquery ▸ hs) hu
  constructor
  · unfold ClauseSet.fieldList
    cases hu : s.fields with
    | none => rfl
    | some u => exact congrArg Except.ok (Field.ofClause_eq htag₁ htag₂ (htext (c := .fields) hu))
  · unfold ClauseSet.tableRef
    cases hu : s.source with
    | none => rfl
    | some u =>
      obtain ⟨hu₁, hu₂⟩ := htext (c := .source) hu
      exact congrArg Except.ok
        (TableRef.ofClause_eq htag₁ htag₂ (stemFree hu₁.outside) (stemFree hu₂.outside))

end

theorem tag_unobserved_next_to_literals :
    ∃ query : Text, query = "SELECT`from`,x5__ FROM`ref`".toList ∧
      PlainTag "ref".toList ∧ PlainTag "x".toList ∧
      (Cut.ofText query).AllOutside (OpeningFree "ref".toList) ∧
      (Cut.ofText query).AllOutside (OpeningFree "x".toList) ∧
      (Cut.ofText query).AllBehind (¬ CompletesPlaceholder "ref".toList ·) ∧
      (Cut.ofText query).AllBehind (¬ CompletesPlaceholder "x".toList ·) ∧
      ClauseSet.ofQuery "ref".toList query = ClauseSet.ofQuery "x".toList query ∧
      ClauseSet.ofQuery "x".toList query =
        .ok { fields := some "`from`,x5__".toList, source := some "`ref`".toList } := by
  have hplain : PlainTag "ref".toList ∧ PlainTag "x".toList := by decide
  have hfree : (Cut.ofText "SELECT`from`,x5__ FROM`ref`".toList).AllOutside
        (OpeningFree "ref".toList) ∧
      (Cut.ofText "SELECT`from`,x5__ FROM`ref`".toList).AllOutside (OpeningFree "x".toList) := by
    decide +kernel
  have hbehind : (Cut.ofText "SELECT`from`,x5__ FROM`ref`".toList).AllBehind
        (¬ CompletesPlaceholder "ref".toList ·) ∧
      (Cut.ofText "SELECT`from`,x5__ FROM`ref`".toList).AllBehind
        (¬ CompletesPlaceholder "x".toList ·) := by
    simp only [Cut.AllBehind, completesPlaceholder_iff hplain.1, completesPlaceholder_iff hplain.2]
    decide +kernel
  have hsame := (tag_unobserved hplain.1 hplain.2 hfree.1 hfree.2).2 hbehind.1 hbehind.2
  have hquery : ClauseSet.ofQuery "ref".toList "SELECT`from`,x5__ FROM`ref`".toList =
      .ok { fields := some "`from`,x5__".toList, source := some "`ref`".toList } := by
    rw [ClauseSet.ofQuery_eq_ok_iff]
    decide +kernel
  exact ⟨_, rfl, hplain.1, hplain.2, hfree.1, hfree.2, hbehind.1, hbehind.2, hsame.2.1,
    hsame.2.1.symm.trans hquery⟩

/-- Behind a literal `REF5__` completes a placeholder, and words break there for this tag alone. -/
theorem tag_observed_behind_literal :
    PlainTag "ref".toList ∧ PlainTag "x".toList ∧
      (Cut.ofText "SELECT `a`REF5__FROM t".toList).AllOutside (OpeningFree "ref".toList) ∧
      (Cut.ofText "SELECT `a`REF5__FROM t".toList).AllOutside (OpeningFree "x".toList) ∧
      ClauseSet.ofQuery "ref".toList "SELECT `a`REF5__FROM t".toList =
        .ok { fields := some "`a`REF5__".toList, source := some ['t'] } ∧
      ClauseSet.ofQuery "x".toList "SELECT `a`REF5__FROM t".toList =
        .error (.missingClause .source "SELECT `a`REF5__FROM t".toList) := by
  refine ⟨by decide, by decide, by decide +kernel, by decide +kernel, ?_, ?_⟩
  · rw [ClauseSet.ofQuery_eq_ok_iff]
    decide +kernel
  · have hmissing : missingClause? (clausePieces "x".toList
        ((Cut.ofText "SELECT `a`REF5__FROM t".toList).hidden "x".toList)) = some .source := by
      decide +kernel
    have htrim : Text.trim "SELECT `a`REF5__FROM t".toList = "SELECT `a`REF5__FROM t".toList := by
      decide
    simp only [ClauseSet.ofQuery, hideLiterals, hmissing, htrim]

end SqlOutline
