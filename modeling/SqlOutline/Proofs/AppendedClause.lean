import SqlOutline.Proofs.CutOrder
import SqlOutline.Proofs.WrittenStatement

/-!
A clause written behind a query.

When neither its keyword nor one that is searched before it is in the query, the clause is cut off
where it was written. What it leaves is the query with white space behind it, and no search sees
that white space (`peel_append_blank`). So the other clauses are those of the query, whatever it
holds (`ofQuery_append_clause`).
-/

namespace SqlOutline
open Unicode Placeholder

/-- The query with the clause `d` and its text `x` behind it. -/
def Clause.appendTo (d : Clause) (query x : Text) : Text :=
  query ++ ' ' :: (d.title.toList ++ ' ' :: x)

/-- The title of a clause is a way to write its keyword. -/
theorem Clause.spells_title (d : Clause) : d.keyword.Spells d.title.toList := by
  have hread : d.keyword.read d.title.toList = some (d.title.toList, []) := by
    cases d <;> decide +kernel
  exact ((Keyword.read_eq_some_iff d.keyword_plain).mp hread).2

/-- Behind the query the clause is written with its trimmed text, and white space is left over. -/
theorem Clause.exists_appendTo {d : Clause} (hkeeps : d.keepsKeyword = false) (q x : Text) :
    ∃ p g, d.appendTo q x = q ++ [' '] ++ (p ++ g) ∧ d.Writes (Text.trim x) p ∧ Blank g := by
  obtain ⟨g, g', hform, hg, hg', -⟩ := Text.trim_split x
  have hgap : IsGap (' ' :: g) :=
    ⟨by simp, List.forall_mem_cons.mpr ⟨by decide, hg⟩⟩
  refine ⟨_, g', ?_, Clause.writes_of_spells hkeeps d.spells_title hgap (Text.trim x), hg'⟩
  rw [Clause.appendTo]
  nth_rewrite 1 [← hform]
  simp

/-- The clauses in front of one in the order of the search are searched before it. -/
theorem Clause.exists_peelOrder (d : Clause) :
    ∃ ds cs, ds ++ d :: cs = Clause.peelOrder ∧
      ∀ e ∈ ds, [e, d].Sublist Clause.peelOrder := by
  obtain ⟨ds, cs, horder⟩ := List.append_of_mem d.mem_peelOrder
  refine ⟨ds, cs, horder.symm, fun e he => ?_⟩
  rw [horder]
  exact (List.singleton_sublist.mpr he).append (List.singleton_sublist.mpr (by simp))

section
variable {tag : Text} (htag : PlainTag tag)
include htag

/-- White space behind a text changes no clause. -/
theorem peel_append_blank (cs : List Clause) (t : Text) {g : Text} (hg : Blank g) :
    peel tag cs (t ++ g) = peel tag cs t := by
  induction cs with
  | nil => rfl
  | cons c cs ih =>
    rw [peel, peel, Keyword.find?_append_blank htag c.keyword_plain hg]
    cases c.keyword.find? tag t with
    | none => exact ih
    | some o =>
      have hbody : c.body (o.followedBy g) = c.body o ++ g := by
        simp only [Clause.body, Occurrence.followedBy]
        split <;> simp
      have htrim : Text.trim (c.body (o.followedBy g)) = Text.trim (c.body o) := by
        rw [hbody, Text.trim_append_blank hg]
      simp only [Option.map_some, htrim]
      rfl

/-- Clauses whose keywords are not in the text are passed over. -/
theorem peel_append_of_lacks {ds : List Clause} {t : Text}
    (h : ∀ d ∈ ds, Lacks d.keyword tag t) (cs : List Clause) :
    peel tag (ds ++ cs) t = peel tag cs t := by
  induction ds with
  | nil => rfl
  | cons d ds ih =>
    obtain ⟨hd, hds⟩ := List.forall_mem_cons.mp h
    rw [List.cons_append, peel, (lacks_iff htag d.keyword_plain).mp hd]
    exact ih hds

section
variable {d : Clause} (hkeeps : d.keepsKeyword = false) {Q g T P : Text}
  (hlast : ∀ c ∈ Q.getLast?, isWhiteSpace c = false) (hg : IsGap g) (h : HiddenClause tag d T P)
include hkeeps hlast hg h

/-- Behind a text without their keywords a clause is opened by its own keyword, and no clause that
is searched before it is opened at all. -/
theorem HiddenClause.find?_behind (hQ : ∀ e, e = d ∨ [e, d].Sublist Clause.peelOrder →
      Lacks e.keyword tag Q) :
    (∀ e, [e, d].Sublist Clause.peelOrder → Lacks e.keyword tag (Q ++ g ++ P)) ∧
      ∃ f z, d.keyword.find? tag (Q ++ g ++ P) = some ⟨Q ++ g, f, z⟩ ∧
        Text.trim (d.body ⟨Q ++ g, f, z⟩) = T := by
  obtain ⟨f, z, hf, ho, htext⟩ := h.opened_blank (x := []) .nil
  rw [List.append_nil] at hf
  refine ⟨fun e hed => ?_, f, z, ?_, htext (Q ++ g)⟩
  · have hno := (partsFrom_of_sublist hed).not_straddles e.keyword_plain d.keyword_plain ho.spelled
      ⟨z, hf⟩ tag Q
    exact (hQ e (.inr hed)).seam htag e.keyword_plain (h.lacks e hed) hno hg hlast
      h.head_not_isWhiteSpace
  · have hno := (keyword_partsFrom_self hkeeps).not_straddles d.keyword_plain d.keyword_plain
      ho.spelled ⟨z, rfl⟩ tag Q
    rw [← hf]
    exact find?_behind_gap htag d.keyword_plain (hQ d (.inl rfl)) hno hg hlast ho

end

/-- The clause comes off first, and all others are those of the text that it was written behind. -/
theorem peel_behind {d : Clause} (hkeeps : d.keepsKeyword = false) {Q g T P : Text}
    (hQ : ∀ e, e = d ∨ [e, d].Sublist Clause.peelOrder → Lacks e.keyword tag Q) (hg : IsGap g)
    (h : HiddenClause tag d T P) :
    peel tag Clause.peelOrder (Q ++ g ++ P) = (d, T) :: peel tag Clause.peelOrder Q := by
  obtain ⟨ds, cs, horder, hsearched⟩ := d.exists_peelOrder
  -- White space at the end of the text joins that in front of the clause.
  obtain ⟨⟨g₀, hQ₀, hblank⟩, hlast⟩ := Text.trimEnd_split Q
  generalize Text.trimEnd Q = Q₀ at hQ₀ hlast
  subst hQ₀
  have hgap : IsGap (g₀ ++ g) :=
    ⟨by simp [hg.1], fun c hc => (List.mem_append.mp hc).elim (hblank c) (hg.2 c)⟩
  obtain ⟨hbefore, f, z, hfind, htext⟩ := h.find?_behind htag hkeeps hlast hgap fun e he =>
    (lacks_append_blank_iff htag e.keyword_plain hblank).mp (hQ e he)
  have hpeel : peel tag Clause.peelOrder (Q₀ ++ g₀) = peel tag cs (Q₀ ++ g₀) := by
    rw [← horder, peel_append_of_lacks htag fun e he => hQ e (.inr (hsearched e he)), peel,
      (lacks_iff htag d.keyword_plain).mp (hQ d (.inl rfl))]
  have hform : Q₀ ++ g₀ ++ g ++ P = Q₀ ++ (g₀ ++ g) ++ P := by simp
  rw [hpeel, hform, ← horder, peel_append_of_lacks htag fun e he => hbefore e (hsearched e he),
    peel, hfind]
  simp only [htext, peel_append_blank htag cs Q₀ hgap.2, peel_append_blank htag cs Q₀ hblank]

end

/-- A text that holds no earlier keyword can be written for its clause once it is trimmed. -/
theorem WritableText.of_trim {tag x : Text} (htag : PlainTag tag) {d : Clause}
    (hkeeps : d.keepsKeyword = false) (hblank : ¬ Blank x) (heven : x.count backtick % 2 = 0)
    (hfree : (Cut.ofText x).AllOutside (StemFree tag))
    (hlacks : ∀ e, [e, d].Sublist Clause.peelOrder →
      e.keyword.find? tag (hideLiterals tag x).1 = none) :
    WritableText tag d (Text.trim x) := by
  obtain ⟨g, g', hx, hg, hg', htrim⟩ := Text.trim_split x
  have hcount : ∀ {g : Text}, Blank g → g.count backtick = 0 := fun hg =>
    List.count_eq_zero.mpr (hg.notMem (by decide))
  obtain ⟨hfits, hhidden⟩ := fits_ofText_trim hfree
  refine ⟨?_, Text.trim_of_isTrimmed htrim, ?_, hfits.stemFree, ?_, ?_⟩
  · intro hnil
    rw [hnil, List.append_nil] at hx
    exact hblank (hx ▸ fun c hc => (List.mem_append.mp hc).elim (hg c) (hg' c))
  · rwa [← hx, List.count_append, List.count_append, hcount hg, hcount hg', Nat.zero_add] at heven
  · intro e he
    have hwhole := (lacks_iff htag e.keyword_plain).mpr (hlacks e he)
    have hend := Lacks.trim_end e.keyword_plain (x := []) hwhole (.inl (.inl rfl))
    rw [← lacks_iff htag e.keyword_plain]
    show Lacks e.keyword tag ((Cut.ofText (Text.trim x)).hiddenAt tag 0)
    rw [hhidden]
    exact hend
  · rintro rfl
    exact absurd hkeeps (by decide)

theorem Fits.of_isPrefix {s s' : LiteralStore} {i : Nat} {c : Cut} (h : Fits s i c)
    (htag : s'.tag = s.tag) (hnames : s.names <+: s'.names) : Fits s' i c := by
  refine ⟨h.paired, htag ▸ h.stemFree, h.names.trans ?_⟩
  obtain ⟨more, hmore⟩ := hnames
  rw [← hmore, List.drop_append]
  exact List.prefix_append _ _

theorem missingClause?_cons {d : Clause} (hd : d ∉ Clause.mandatory) (b : Text)
    (pieces : List (Clause × Text)) :
    missingClause? ((d, b) :: pieces) = missingClause? pieces := by
  have hne : ∀ c ∈ Clause.mandatory, (d == c) = false := by
    intro c hc
    rw [beq_eq_false_iff_ne]
    rintro rfl
    exact hd hc
  have hfields := hne .fields (by decide)
  have hsource := hne .source (by decide)
  simp only [missingClause?, Clause.mandatory, List.find?_cons, List.find?_nil, List.any_cons,
    hfields, hsource, Bool.false_or]

namespace ClauseSet

theorem set_comm (s : ClauseSet) {c d : Clause} (h : c ≠ d) (t u : Text) :
    (s.set c t).set d u = (s.set d u).set c t := by
  refine ext_get? fun e => ?_
  simp only [get?_set]
  split_ifs with hd hc
  · exact absurd (hc.trans hd.symm) h
  all_goals rfl

/-- An entry for a clause of its own can be set at the end. -/
theorem ofEntries_cons {d : Clause} {es : List (Clause × Text)} (hd : d ∉ es.map (·.1)) (t : Text) :
    ofEntries ((d, t) :: es) = (ofEntries es).set d t := by
  have hfold : ∀ s : ClauseSet, es.foldl (fun s e => s.set e.1 e.2) (s.set d t) =
      (es.foldl (fun s e => s.set e.1 e.2) s).set d t := by
    induction es with
    | nil => intro s; rfl
    | cons e es ih =>
      obtain ⟨c, u⟩ := e
      obtain ⟨hdc, hdes⟩ : d ≠ c ∧ d ∉ es.map (·.1) := by simpa using hd
      intro s
      show es.foldl _ ((s.set d t).set c u) = (es.foldl _ (s.set c u)).set d t
      rw [set_comm s hdc, ih hdes]
  exact hfold empty

end ClauseSet

theorem ClauseSet.ofQuery_of_stated {tag query : Text}
    (h : missingClause? (clausePieces tag (hideLiterals tag query).1) = none) :
    ofQuery tag query = .ok (.ofEntries ((clausePieces tag (hideLiterals tag query).1).map
      (Prod.map id (LiteralStore.ofText tag query).restore))) :=
  ofQuery_eq_ok_iff.mpr ⟨h, rfl⟩

/-- With the literals of a longer query at hand the pieces of a query are the same. -/
theorem restore_clausePieces {tag query : Text} (htag : PlainTag tag)
    (hfree : (Cut.ofText query).AllOutside (StemFree tag)) {s : LiteralStore} (hs : s.tag = tag)
    (hnames : (LiteralStore.ofText tag query).names <+: s.names) :
    (clausePieces tag (hideLiterals tag query).1).map (Prod.map id s.restore) =
      (clausePieces tag (hideLiterals tag query).1).map
        (Prod.map id (LiteralStore.ofText tag query).restore) := by
  refine List.map_congr_left fun e he => ?_
  obtain ⟨D, i, hD, hhidden⟩ := peel_fits htag (fits_ofText hfree) e (List.mem_filter.mp he).1
  have hD' := hD.of_isPrefix hs hnames
  have hrestore := hD.restore htag
  have hrestore' := hD'.restore (hs ▸ htag)
  rw [hs] at hrestore'
  have htext : s.restore e.2 = (LiteralStore.ofText tag query).restore e.2 := by
    rw [← hhidden]
    exact hrestore'.trans hrestore.symm
  rw [Prod.map, Prod.map, htext]

section
variable {tag q x : Text} {d : Clause} (htag : PlainTag tag)
  (hd : d ∈ [Clause.filter, .grouping, .having, .ordering, .limit])
  (hq : q.count backtick % 2 = 0) (hx : x.count backtick % 2 = 0) (hblank : ¬ Blank x)
  (hqfree : (Cut.ofText q).AllOutside (StemFree tag))
  (hxfree : (Cut.ofText x).AllOutside (StemFree tag))
  (hqlacks : ∀ e, e = d ∨ [e, d].Sublist Clause.peelOrder →
    e.keyword.find? tag (hideLiterals tag q).1 = none)
  (hxlacks : ∀ e, [e, d].Sublist Clause.peelOrder →
    e.keyword.find? tag (hideLiterals tag x).1 = none)
include htag hd hq hx hblank hqfree hxfree hqlacks hxlacks

omit hqfree in
/-- The pieces of the longer query are those of the query and one more, which hides `x`. -/
theorem clausePieces_appendTo :
    ∃ T, clausePieces tag (hideLiterals tag (d.appendTo q x)).1 =
        (d, T) :: clausePieces tag (hideLiterals tag q).1 ∧
      (LiteralStore.ofText tag (d.appendTo q x)).restore T = Text.trim x ∧
      (LiteralStore.ofText tag q).names <+: (LiteralStore.ofText tag (d.appendTo q x)).names := by
  have hkeeps : d.keepsKeyword = false := by
    revert hd
    cases d <;> decide
  have htext := WritableText.of_trim htag hkeeps hblank hx hxfree hxlacks
  obtain ⟨p, g', happend, hwrites, hg'⟩ := d.exists_appendTo hkeeps q x
  obtain ⟨heven, hnames, hclause⟩ := htext.hiddenClause htag (Cut.ofText q).names.length hwrites
  have hspace : backtick ∉ [' '] := by decide
  have hcut : Cut.ofText (p ++ g') = Cut.ofText p ++ .plain g' := by
    rw [Cut.ofText_append heven, Cut.ofText_of_notMem (hg'.notMem (by decide))]
  have hallNames : (Cut.ofText (d.appendTo q x)).names =
      (Cut.ofText q).names ++ (Cut.ofText (Text.trim x)).names := by
    rw [happend, Cut.names_ofText_between hq hspace, hcut]
    simp [hnames]
  have hhidden : (Cut.ofText (d.appendTo q x)).hiddenAt tag 0 = (Cut.ofText q).hiddenAt tag 0 ++
      [' '] ++ (Cut.ofText p).hiddenAt tag (Cut.ofText q).names.length ++ g' := by
    rw [happend, Cut.hiddenAt_ofText_between hq hspace, hcut]
    simp [Cut.hiddenAt_append]
  refine ⟨(Cut.ofText (Text.trim x)).hiddenAt tag (Cut.ofText q).names.length, ?_, ?_, ?_⟩
  · have hpeel := peel_behind htag hkeeps (g := [' '])
      (fun e he => (lacks_iff htag e.keyword_plain).mpr (hqlacks e he)) (by decide) hclause
    have hne : (Cut.ofText (Text.trim x)).hiddenAt tag (Cut.ofText q).names.length ≠ [] := by
      simpa using htext.ne_nil
    simp only [clausePieces, hideLiterals, Cut.hidden_eq] at hpeel ⊢
    rw [hhidden, peel_append_blank htag _ _ hg', hpeel,
      List.filter_cons_of_pos (by simpa using hne)]
  · refine restore_hiddenAt_ofText (s := .ofText tag (d.appendTo q x)) htag htext.stemFree ?_
    simp [LiteralStore.ofText, hallNames]
  · simp [LiteralStore.ofText, hallNames]

/-- A clause that stands nowhere in a query, nor does one that is searched before it, can be written
behind it: the query then has this clause as well, and all its other clauses are as before. Where
the query lacks a clause it still lacks that one. -/
theorem ofQuery_append_clause :
    (∀ s, ClauseSet.ofQuery tag (d.appendTo q x) = .ok s ↔
        ∃ s₀, ClauseSet.ofQuery tag q = .ok s₀ ∧ s₀.set d (Text.trim x) = s) ∧
      ∀ e, ClauseSet.ofQuery tag (d.appendTo q x) = .error e ↔
        ∃ c, ClauseSet.ofQuery tag q = .error (.missingClause c (Text.trim q)) ∧
          .missingClause c (Text.trim (d.appendTo q x)) = e := by
  obtain ⟨T, hpieces, hrestore, hnames⟩ :=
    clausePieces_appendTo htag hd hq hx hblank hxfree hqlacks hxlacks
  have hmandatory : d ∉ Clause.mandatory := by
    clear hqlacks hxlacks
    revert hd
    cases d <;> decide
  have hmissing := missingClause?_cons hmandatory T (clausePieces tag (hideLiterals tag q).1)
  rw [← hpieces] at hmissing
  cases hq₀ : missingClause? (clausePieces tag (hideLiterals tag q).1) with
  | some c =>
    have herror := ClauseSet.ofQuery_of_missing hq₀
    have herror' := ClauseSet.ofQuery_of_missing (hmissing.trans hq₀)
    rw [herror, herror']
    simp
  | none =>
    have hnew : d ∉ ((clausePieces tag (hideLiterals tag q).1).map
        (Prod.map id (LiteralStore.ofText tag q).restore)).map (·.1) := by
      have hnodup := clausePieces_nodup tag (hideLiterals tag (d.appendTo q x)).1
      rw [hpieces, List.map_cons, List.nodup_cons] at hnodup
      rw [List.map_map]
      exact hnodup.1
    have hentries : (clausePieces tag (hideLiterals tag (d.appendTo q x)).1).map
          (Prod.map id (LiteralStore.ofText tag (d.appendTo q x)).restore) =
        (d, Text.trim x) :: (clausePieces tag (hideLiterals tag q).1).map
          (Prod.map id (LiteralStore.ofText tag q).restore) := by
      rw [hpieces, List.map_cons, restore_clausePieces htag hqfree rfl hnames, ← hrestore]
      rfl
    rw [ClauseSet.ofQuery_of_stated hq₀, ClauseSet.ofQuery_of_stated (hmissing.trans hq₀),
      hentries, ClauseSet.ofEntries_cons hnew]
    simp

end

theorem ofQuery_append_grouping :
    ∃ q x : Text, q = "-- SELECT `group by` FROM t WHERE".toList ∧ x = " `having`".toList ∧
      ClauseSet.ofQuery "ref".toList (Clause.grouping.appendTo q x) =
        .ok { fields := some "`group by`".toList, source := some ['t'],
              grouping := some "`having`".toList } := by
  have hlacks : ∀ e, e = .grouping ∨ [e, .grouping].Sublist Clause.peelOrder →
      e.keyword.find? "ref".toList
        (hideLiterals "ref".toList "-- SELECT `group by` FROM t WHERE".toList).1 = none := by
    intro e
    cases e <;> decide +kernel
  have hlacks' : ∀ e, [e, .grouping].Sublist Clause.peelOrder →
      e.keyword.find? "ref".toList (hideLiterals "ref".toList " `having`".toList).1 = none := by
    intro e
    cases e <;> decide +kernel
  have hquery : ClauseSet.ofQuery "ref".toList "-- SELECT `group by` FROM t WHERE".toList =
      .ok { fields := some "`group by`".toList, source := some ['t'] } := by
    rw [ClauseSet.ofQuery_eq_ok_iff]
    decide +kernel
  have hblank : ¬ Blank " `having`".toList := fun h => absurd (h backtick (by decide)) (by decide)
  have htag : PlainTag "ref".toList := by decide
  have happend := (ofQuery_append_clause htag (d := .grouping)
    (q := "-- SELECT `group by` FROM t WHERE".toList) (x := " `having`".toList) (by decide)
    (by decide) (by decide) hblank (by decide +kernel) (by decide +kernel) hlacks hlacks').1
  exact ⟨_, _, rfl, rfl, (happend _).mpr ⟨_, hquery, by decide +kernel⟩⟩

end SqlOutline
