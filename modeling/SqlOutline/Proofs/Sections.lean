import Mathlib.Data.List.Nodup
import SqlOutline.Proofs.HiddenText
import SqlOutline.Query.Statement

/-!
The sections that a query is cut into.

Each clause that is cut off takes one keyword and all that stands behind it. Together with what is
left in front they are the query itself (`ofQuery_sections`), although the cuts are made while its
literals are hidden.
-/

namespace SqlOutline
open Unicode Placeholder

theorem Clause.keyword_plain (c : Clause) : c.keyword.Plain := by
  cases c <;> decide

/-- A keyword and the text behind it, up to the next keyword or the end of the query. -/
structure Section where
  clause : Clause
  opening : Text
  rest : Text
  deriving DecidableEq, Repr

namespace Section

/-- All that belongs to the section. -/
def text (x : Section) : Text := x.opening ++ x.rest

/-- What the section says, without the keyword unless its clause keeps it. -/
def piece (x : Section) : Text := Text.trim (x.clause.body ⟨[], x.opening, x.rest⟩)

end Section

/-- The query is `lead` and then the sections `xs`. They are in the order of a statement, and no
literal reaches over an end of a keyword. -/
structure Sectioned (query lead : Text) (xs : List Section) : Prop where
  text : lead ++ xs.flatMap Section.text = query
  order : (xs.map (·.clause)).Sublist Clause.peelOrder.reverse
  opened : ∀ x ∈ xs, x.clause.keyword.read x.opening = some (x.opening, [])
  unquoted : ∀ x ∈ xs, backtick ∉ x.opening
  outside : ∀ pre x post, pre ++ x :: post = xs →
    OutsideLiterals (lead ++ pre.flatMap Section.text) (x.text ++ post.flatMap Section.text) ∧
      OutsideLiterals (lead ++ pre.flatMap Section.text ++ x.opening)
        (x.rest ++ post.flatMap Section.text)

/-- A section whose text is still cut at its literals. -/
structure CutSection where
  clause : Clause
  opening : Text
  rest : Cut

namespace CutSection

def cut (x : CutSection) : Cut := Cut.plain x.opening ++ x.rest

def toSection (x : CutSection) : Section := ⟨x.clause, x.opening, x.rest.toText⟩

theorem toText_cut (x : CutSection) : x.cut.toText = x.toSection.text := by
  simp [cut, toSection, Section.text]

/-- The cut `c` with the sections `xs` behind it. -/
def joined (c : Cut) (xs : List CutSection) : Cut := xs.foldl (fun c x => c ++ x.cut) c

theorem joined_append (c : Cut) (xs ys : List CutSection) :
    joined c (xs ++ ys) = joined (joined c xs) ys :=
  List.foldl_append

theorem joined_eq (c : Cut) (xs : List CutSection) :
    joined c xs = c ++ joined (Cut.plain []) xs := by
  induction xs generalizing c with
  | nil => simp [joined]
  | cons x xs ih =>
    have hstep : ∀ d, joined d (x :: xs) = joined (d ++ x.cut) xs := fun _ => rfl
    rw [hstep, hstep, ih, ih (Cut.plain [] ++ x.cut), Cut.nil_append, Cut.append_assoc]

theorem toText_joined (c : Cut) (xs : List CutSection) :
    (joined c xs).toText = c.toText ++ (xs.map toSection).flatMap Section.text := by
  induction xs generalizing c with
  | nil => simp [joined]
  | cons x xs ih =>
    have hstep : joined c (x :: xs) = joined (c ++ x.cut) xs := rfl
    rw [hstep, ih, Cut.toText_append, toText_cut]
    simp

end CutSection

/-- Where the backticks pair up in the joined cut, the ends of keywords are outside of literals. -/
theorem Cut.Paired.sections_outside {lead : Cut} {xs : List CutSection}
    (h : (CutSection.joined lead xs).Paired) {pre post : List Section} {x : Section}
    (hx : pre ++ x :: post = xs.map CutSection.toSection) :
    OutsideLiterals (lead.toText ++ pre.flatMap Section.text)
        (x.text ++ post.flatMap Section.text) ∧
      OutsideLiterals (lead.toText ++ pre.flatMap Section.text ++ x.opening)
        (x.rest ++ post.flatMap Section.text) := by
  obtain ⟨us, vs, rfl, rfl, hvs⟩ := List.map_eq_append_iff.mp hx.symm
  obtain ⟨v, ws, rfl, rfl, rfl⟩ := List.map_eq_cons_iff.mp hvs
  have hjoined : CutSection.joined lead (us ++ v :: ws) =
      CutSection.joined lead us ++ (Cut.plain v.opening ++
        (v.rest ++ CutSection.joined (Cut.plain []) ws)) := by
    rw [CutSection.joined_append]
    have hstep : CutSection.joined (CutSection.joined lead us) (v :: ws) =
        CutSection.joined (CutSection.joined lead us ++ v.cut) ws := rfl
    rw [hstep, CutSection.joined_eq, CutSection.cut, Cut.append_assoc, Cut.append_assoc]
  rw [hjoined] at h
  have hstart := h.outsideLiterals
  rw [← Cut.append_assoc] at h
  have hstop := h.outsideLiterals
  simp only [Cut.toText_append, Cut.toText_plain, CutSection.toText_joined, List.nil_append]
    at hstart hstop
  simp only [Section.text, CutSection.toSection, List.append_assoc] at *
  exact ⟨hstart, hstop⟩

/-- The body of a clause whose keyword was found in a hidden text hides the body in the text. -/
theorem Fits.body {s : LiteralStore} {i : Nat} {o : Occurrence} {B : Cut}
    (h : Fits s i (Cut.plain o.found ++ B)) (hB : B.hiddenAt s.tag i = o.after)
    (d : Clause) :
    ∃ C, Fits s i C ∧ C.hiddenAt s.tag i = Text.trim (d.body o) ∧
      C.toText = Text.trim (d.body ⟨[], o.found, B.toText⟩) := by
  unfold Clause.body
  split
  · have htrim := h.trim
    rwa [Cut.hiddenAt_append, Cut.hiddenAt_plain, Cut.names_plain, List.length_nil, Nat.add_zero,
      hB, Cut.toText_append, Cut.toText_plain] at htrim
  · have hfits : Fits s i B := by simpa using h.of_append.2
    have htrim := hfits.trim
    rwa [hB] at htrim

/-- Where a clause is cut off a hidden text, its text and what is left hide parts of the text. -/
theorem Fits.cut_off {s : LiteralStore} {i : Nat} {c : Cut} (h : Fits s i c) (htag : PlainTag s.tag)
    {d : Clause} {o : Occurrence}
    (hfind : d.keyword.find? s.tag (c.hiddenAt s.tag i) = some o) :
    ∃ A B : Cut, A ++ (Cut.plain o.found ++ B) = c ∧ Fits s i A ∧ A.hiddenAt s.tag i = o.before ∧
      ∃ C j, Fits s j C ∧ C.hiddenAt s.tag j = Text.trim (d.body o) ∧
        C.toText = Text.trim (d.body ⟨[], o.found, B.toText⟩) := by
  obtain ⟨ht, ho, -⟩ := (Keyword.find?_eq_some_iff htag d.keyword_plain).mp hfind
  obtain ⟨A, B, rfl, hA, hB⟩ := ho.split htag d.keyword_plain ht.symm
  obtain ⟨hfitsA, hfitsB⟩ := h.of_append
  obtain ⟨C, hC⟩ := hfitsB.body hB d
  exact ⟨A, B, rfl, hfitsA, hA, C, i + A.names.length, hC⟩

/-- The clauses that sections give, those that say nothing left out. -/
def statedPieces (xs : List Section) : List (Clause × Text) :=
  (xs.map fun x => (x.clause, x.piece)).filter fun (_, body) => !body.isEmpty

theorem statedPieces_append (xs ys : List Section) :
    statedPieces (xs ++ ys) = statedPieces xs ++ statedPieces ys := by
  simp [statedPieces]

/-- What hides the piece of a section restores to it, and is left out together with it. -/
theorem Fits.stated {s : LiteralStore} {j : Nat} {C : Cut} (h : Fits s j C) (htag : PlainTag s.tag)
    {x : Section} (hpiece : C.toText = x.piece) :
    ([(x.clause, C.hiddenAt s.tag j)].filter fun (_, body) => !body.isEmpty).map
        (fun (d, body) => (d, s.restore body)) = (statedPieces [x]).reverse := by
  have hempty : (C.hiddenAt s.tag j).isEmpty = x.piece.isEmpty := by
    rw [Bool.eq_iff_iff, List.isEmpty_iff, List.isEmpty_iff, Cut.hiddenAt_eq_nil_iff, hpiece]
  cases he : x.piece.isEmpty with
  | true => simp [statedPieces, hempty, he]
  | false => simp [statedPieces, hempty, he, h.restore htag, hpiece]

/-- Peeling a hidden text cuts it into sections, and restores to what they say. -/
theorem peel_sections {s : LiteralStore} (htag : PlainTag s.tag) (cs : List Clause) {c : Cut}
    (h : Fits s 0 c) :
    ∃ lead xs, CutSection.joined lead xs = c ∧
      (xs.map (·.clause)).Sublist cs.reverse ∧
      (∀ x ∈ xs, x.clause.keyword.Spells x.opening) ∧
      ((peel s.tag cs (c.hiddenAt s.tag 0)).filter fun (_, body) => !body.isEmpty).map
          (fun (d, body) => (d, s.restore body)) =
        (statedPieces (xs.map CutSection.toSection)).reverse := by
  induction cs generalizing c with
  | nil => exact ⟨c, [], rfl, by simp, by simp, rfl⟩
  | cons d cs ih =>
    rw [peel]
    cases hfind : d.keyword.find? s.tag (c.hiddenAt s.tag 0) with
    | none =>
      obtain ⟨lead, xs, hjoined, horder, hspell, hpieces⟩ := ih h
      refine ⟨lead, xs, hjoined, ?_, hspell, hpieces⟩
      rw [List.reverse_cons]
      exact horder.trans (List.sublist_append_left cs.reverse [d])
    | some o =>
      have ho := (Keyword.find?_spec htag d.keyword_plain hfind).1
      obtain ⟨A, B, rfl, hfitsA, hA, C, j, hfitsC, hC, hpiece⟩ := h.cut_off htag hfind
      obtain ⟨lead, xs, rfl, horder, hspell, hpieces⟩ := ih hfitsA
      refine ⟨lead, xs ++ [⟨d, o.found, B⟩], ?_, ?_, ?_, ?_⟩
      · rw [CutSection.joined_append]
        rfl
      · rw [List.map_append, List.reverse_cons]
        exact horder.append (List.Sublist.refl _)
      · simp only [List.mem_append, List.mem_singleton]
        rintro x (hx | rfl)
        · exact hspell x hx
        · exact ho.spelled
      · have hstated := hfitsC.stated htag (x := ⟨d, o.found, B.toText⟩) hpiece
        rw [hC] at hstated
        rw [List.map_append, statedPieces_append, List.reverse_append, ← hpieces, hA]
        show List.map _ (List.filter _ ([(d, Text.trim (d.body o))] ++ peel s.tag cs o.before)) = _
        rw [List.filter_append, List.map_append, hstated]
        rfl

/-- A set of entries for different clauses has the texts of its entries. -/
theorem ClauseSet.get?_ofEntries {es : List (Clause × Text)} (h : (es.map (·.1)).Nodup)
    {c : Clause} {t : Text} : (ClauseSet.ofEntries es).get? c = some t ↔ (c, t) ∈ es := by
  have hfold : ∀ s : ClauseSet, (es.foldl (fun s (c, t) => s.set c t) s).get? c = some t ↔
      (c, t) ∈ es ∨ (c ∉ es.map (·.1) ∧ s.get? c = some t) := by
    induction es with
    | nil => simp
    | cons e es ih =>
      obtain ⟨d, u⟩ := e
      intro s
      obtain ⟨hd, hes⟩ := List.nodup_cons.mp h
      rw [List.foldl_cons, ih hes, ClauseSet.get?_set]
      by_cases hdc : d = c
      · subst hdc
        have hno : (d, t) ∉ es := fun hmem => hd (List.mem_map.mpr ⟨(d, t), hmem, rfl⟩)
        simp [hno, hd, eq_comm]
      · simp [hdc, Ne.symm hdc]
  unfold ClauseSet.ofEntries
  rw [hfold]
  simp

/-- What it takes for a query to have its clauses. -/
theorem ClauseSet.ofQuery_eq_ok_iff {tag query : Text} {s : ClauseSet} :
    ClauseSet.ofQuery tag query = .ok s ↔
      missingClause? (clausePieces tag (hideLiterals tag query).1) = none ∧
        ClauseSet.ofEntries ((clausePieces tag (hideLiterals tag query).1).map fun (c, body) =>
          (c, (hideLiterals tag query).2.restore body)) = s := by
  cases hmissing : missingClause? (clausePieces tag (hideLiterals tag query).1) with
  | none => simp [ClauseSet.ofQuery, hmissing]
  | some c => simp [ClauseSet.ofQuery, hmissing]

theorem ClauseSet.ofQuery_of_missing {tag query : Text} {c : Clause}
    (h : missingClause? (clausePieces tag (hideLiterals tag query).1) = some c) :
    ofQuery tag query = .error (.missingClause c (Text.trim query)) := by
  simp only [ofQuery, h]

theorem missingClause?_eq_none_iff {pieces : List (Clause × Text)} :
    missingClause? pieces = none ↔ ∀ c ∈ Clause.mandatory, c ∈ pieces.map (·.1) := by
  simp [missingClause?]

theorem mem_statedPieces {xs : List Section} {c : Clause} {t : Text} :
    (c, t) ∈ statedPieces xs ↔ t ≠ [] ∧ ∃ x ∈ xs, x.clause = c ∧ x.piece = t := by
  simp [statedPieces, and_comm]

theorem nodup_statedPieces {xs : List Section}
    (h : (xs.map (·.clause)).Sublist Clause.peelOrder.reverse) :
    ((statedPieces xs).map (·.1)).Nodup := by
  have hsub : ((statedPieces xs).map (·.1)).Sublist (xs.map (·.clause)) := by
    have hfilter := (List.filter_sublist (p := fun (_, body) => !body.isEmpty)
      (l := xs.map fun x => (x.clause, x.piece))).map (·.1)
    rwa [List.map_map] at hfilter
  exact (List.nodup_reverse.mpr Clause.nodup_peelOrder).sublist (hsub.trans h)

/-- A set of what sections say has for each clause the piece of its section. -/
theorem get?_ofEntries_statedPieces {xs : List Section}
    (h : (xs.map (·.clause)).Sublist Clause.peelOrder.reverse) {c : Clause} {t : Text} :
    (ClauseSet.ofEntries (statedPieces xs).reverse).get? c = some t ↔
      t ≠ [] ∧ ∃ x ∈ xs, x.clause = c ∧ x.piece = t := by
  rw [← mem_statedPieces, ← List.mem_reverse]
  apply ClauseSet.get?_ofEntries
  rw [List.map_reverse]
  exact List.nodup_reverse.mpr (nodup_statedPieces h)

/-- The cut of a query that was joined from sections makes these the sections of the query. -/
theorem sectioned_of_joined {query : Text} {lead : Cut} {xs : List CutSection}
    (hjoined : CutSection.joined lead xs = Cut.ofText query)
    (horder : (xs.map (·.clause)).Sublist Clause.peelOrder.reverse)
    (hspell : ∀ x ∈ xs, x.clause.keyword.Spells x.opening) :
    Sectioned query lead.toText (xs.map CutSection.toSection) := by
  have hopened : ∀ x ∈ xs.map CutSection.toSection, x.clause.keyword.Spells x.opening := by
    intro x hx
    obtain ⟨y, hy, rfl⟩ := List.mem_map.mp hx
    exact hspell y hy
  refine ⟨?_, ?_, ?_, ?_, ?_⟩
  · rw [← CutSection.toText_joined, hjoined, Cut.toText_ofText]
  · rw [List.map_map]
    exact horder
  · intro x hx
    exact (Keyword.read_eq_some_iff x.clause.keyword_plain).mpr ⟨by simp, hopened x hx⟩
  · intro x hx
    exact (hopened x hx).notMem x.clause.keyword_plain (by decide) (by decide)
  · intro pre x post hx
    have hpaired : (CutSection.joined lead xs).Paired := hjoined ▸ Cut.paired_ofText query
    exact hpaired.sections_outside hx

/-- The clauses of a query are what its sections say. -/
theorem ofQuery_pieces {tag query : Text} {s : ClauseSet} (htag : PlainTag tag)
    (hfree : (Cut.ofText query).AllOutside (StemFree tag))
    (h : ClauseSet.ofQuery tag query = .ok s) :
    ∃ lead xs, CutSection.joined lead xs = Cut.ofText query ∧
      (xs.map (·.clause)).Sublist Clause.peelOrder.reverse ∧
      (∀ x ∈ xs, x.clause.keyword.Spells x.opening) ∧
      ClauseSet.ofEntries (statedPieces (xs.map CutSection.toSection)).reverse = s ∧
      ∀ c ∈ Clause.mandatory, ∃ t, (c, t) ∈ statedPieces (xs.map CutSection.toSection) := by
  obtain ⟨hmandatory, rfl⟩ := ClauseSet.ofQuery_eq_ok_iff.mp h
  obtain ⟨lead, xs, hjoined, horder, hspell, hpieces⟩ :=
    peel_sections htag Clause.peelOrder (fits_ofText hfree)
  refine ⟨lead, xs, hjoined, horder, hspell, congrArg ClauseSet.ofEntries hpieces.symm, ?_⟩
  intro c hc
  obtain ⟨⟨d, t⟩, hmem, rfl⟩ := List.mem_map.mp (missingClause?_eq_none_iff.mp hmandatory c hc)
  have hin := List.mem_map_of_mem (f := fun (d, body) =>
    (d, (LiteralStore.ofText tag query).restore body)) hmem
  refine ⟨(LiteralStore.ofText tag query).restore t, ?_⟩
  rw [← List.mem_reverse, ← hpieces]
  exact hin

/-- A query that has its clauses is a lead and sections in the order of a statement, and its clauses
are what these sections say. Nothing of the query is lost, doubled or moved. -/
theorem ofQuery_sections {tag query : Text} {s : ClauseSet} (htag : PlainTag tag)
    (hfree : (Cut.ofText query).AllOutside (StemFree tag))
    (h : ClauseSet.ofQuery tag query = .ok s) :
    ∃ lead xs, Sectioned query lead xs ∧
      (∀ c t, s.get? c = some t ↔ t ≠ [] ∧ ∃ x ∈ xs, x.clause = c ∧ x.piece = t) ∧
      s.fields.isSome ∧ s.source.isSome ∧
      ∀ c t, s.get? c = some t → t ≠ [] ∧ Text.trim t = t := by
  obtain ⟨lead, xs, hjoined, horder, hspell, rfl, hpresent⟩ := ofQuery_pieces htag hfree h
  have hsectioned := sectioned_of_joined hjoined horder hspell
  have hget : ∀ c t, (ClauseSet.ofEntries
      (statedPieces (xs.map CutSection.toSection)).reverse).get? c = some t ↔
        t ≠ [] ∧ ∃ x ∈ xs.map CutSection.toSection, x.clause = c ∧ x.piece = t :=
    fun c t => get?_ofEntries_statedPieces hsectioned.order
  have hsome : ∀ c ∈ Clause.mandatory, ∃ t, (ClauseSet.ofEntries
      (statedPieces (xs.map CutSection.toSection)).reverse).get? c = some t := by
    intro c hc
    obtain ⟨t, ht⟩ := hpresent c hc
    exact ⟨t, (hget c t).mpr (mem_statedPieces.mp ht)⟩
  refine ⟨lead.toText, xs.map CutSection.toSection, hsectioned, hget, ?_, ?_, ?_⟩
  · obtain ⟨t, ht⟩ := hsome .fields (by decide)
    exact Option.isSome_iff_exists.mpr ⟨t, ht⟩
  · obtain ⟨t, ht⟩ := hsome .source (by decide)
    exact Option.isSome_iff_exists.mpr ⟨t, ht⟩
  · intro c t ht
    obtain ⟨hne, x, -, -, rfl⟩ := (hget c t).mp ht
    exact ⟨hne, Text.trim_of_isTrimmed (Text.isTrimmed_trim _)⟩

theorem ofQuery_sections_around_literals :
    PlainTag "ref".toList ∧
      (Cut.ofText "SELECT `from` FROM t WHERE`x`".toList).AllOutside (StemFree "ref".toList) ∧
      ClauseSet.ofQuery "ref".toList "SELECT `from` FROM t WHERE`x`".toList =
        .ok { fields := some "`from`".toList, source := some ['t'],
              filter := some "`x`".toList } ∧
      ∃ lead xs, Sectioned "SELECT `from` FROM t WHERE`x`".toList lead xs ∧
        ∃ x ∈ xs, x.clause = .fields ∧ x.piece = "`from`".toList := by
  have htag : PlainTag "ref".toList := by decide
  have hfree : (Cut.ofText "SELECT `from` FROM t WHERE`x`".toList).AllOutside
      (StemFree "ref".toList) := by
    decide
  have hquery : ClauseSet.ofQuery "ref".toList "SELECT `from` FROM t WHERE`x`".toList =
      .ok { fields := some "`from`".toList, source := some ['t'], filter := some "`x`".toList } := by
    rw [ClauseSet.ofQuery_eq_ok_iff]
    decide +kernel
  obtain ⟨lead, xs, hsections, hget, -⟩ := ofQuery_sections htag hfree hquery
  exact ⟨htag, hfree, hquery, lead, xs, hsections, ((hget .fields "`from`".toList).mp rfl).2⟩

end SqlOutline
