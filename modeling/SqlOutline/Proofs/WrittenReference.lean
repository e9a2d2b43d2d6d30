import SqlOutline.Proofs.TwoRuns
import SqlOutline.Proofs.WrittenName

/-!
Table references that are read back as they were written.

Hidden names have no white space in them. So a reference ends where the first white space was
written, and the last word behind it is the label, or AS if there is no label
(`tableRef_written`).
-/

namespace SqlOutline
open Unicode Placeholder

/-- A bare name of a table reference. -/
structure RefWord (tag w : Text) : Prop where
  ne_nil : w ≠ []
  unspaced : ∀ c ∈ w, isWhiteSpace c = false
  backtick_notMem : backtick ∉ w
  stemFree : StemFree tag w

/-- A name of a table reference. -/
abbrev RefName (tag : Text) : Text → Prop := QuotedOr (RefWord tag)

/-- A label, which is not AS if it is bare. -/
abbrev RefLabel (tag : Text) : Text → Prop :=
  QuotedOr fun w => RefWord tag w ∧ TableRef.isLabelKeyword w = false

/-- The names of a table and of its database, if one is given, of which the bare ones have no dot
where it would be read as the one between the names. -/
structure TableNames (tag : Text) (d : Option Text) (t : Text) : Prop where
  database : ∀ n ∈ d, QuotedOr (fun w => RefWord tag w ∧ '.' ∉ w) n
  table : QuotedOr (fun w => RefWord tag w ∧ (d = none → '.' ∉ w)) t

/-- `t` writes the reference: its table behind its database, and its label with AS or without. A
reference without a label may have AS behind it as well. -/
inductive WrittenRef (tag : Text) : TableRef → Text → Prop
  | unlabeled {database : Option Text} {table : Text} (h : TableNames tag database table) :
      WrittenRef tag ⟨database, table, none⟩ (qualify database table)
  | keyword {database : Option Text} {table g k : Text} (h : TableNames tag database table)
      (hg : IsGap g) (hk : TableRef.isLabelKeyword k = true) :
      WrittenRef tag ⟨database, table, none⟩ (qualify database table ++ g ++ k)
  | labeled {database : Option Text} {table g label : Text} (h : TableNames tag database table)
      (hg : IsGap g) (hlabel : RefLabel tag label) :
      WrittenRef tag ⟨database, table, some label⟩ (qualify database table ++ g ++ label)
  | labeledAs {database : Option Text} {table g k g' label : Text}
      (h : TableNames tag database table) (hg : IsGap g) (hk : TableRef.isLabelKeyword k = true)
      (hg' : IsGap g') (hlabel : RefLabel tag label) :
      WrittenRef tag ⟨database, table, some label⟩
        (qualify database table ++ (g ++ k ++ g') ++ label)

/-- The last word of a text is what stands behind its last white space. -/
theorem Text.getLast?_words_append {y w : Text} (hy : ∀ c ∈ y.getLast?, isWhiteSpace c = true)
    (hne : w ≠ []) (hw : ∀ c ∈ w, isWhiteSpace c = false) :
    (words (y ++ w)).getLast? = some w := by
  have hword : (w.splitOnP isWhiteSpace).filter (!·.isEmpty) = [w] := by
    rw [List.splitOnP_eq_singleton hw]
    simp [hne]
  rcases List.eq_nil_or_concat y with rfl | ⟨z, c, rfl⟩
  · rw [List.nil_append, words, hword]
    rfl
  · have hc : isWhiteSpace c = true := hy c (by simp)
    rw [words, List.concat_append, List.splitOnP_append_cons z w hc, List.filter_append, hword,
      List.getLast?_concat]

/-! The names. -/

/-- The label keyword consists of letters. -/
theorem TableRef.isLabelKeyword_of_mem {t : Text} {c : Char} (hc : c ∈ t)
    (hsolid : isSolid c = false) : isLabelKeyword t = false := by
  rw [Bool.eq_false_iff]
  intro hk
  rw [isSolid_of_isLabelKeyword hk c hc] at hsolid
  exact Bool.false_ne_true hsolid.symm

theorem RefWord.of_isLabelKeyword (tag : Text) {k : Text}
    (hk : TableRef.isLabelKeyword k = true) : RefWord tag k := by
  have hsolid := TableRef.isSolid_of_isLabelKeyword hk
  refine ⟨?_, fun c hc => not_isWhiteSpace_of_isSolid (hsolid c hc), fun hmem => ?_,
    fun c _ hin => ?_⟩
  · rintro rfl
    exact absurd hk (by decide)
  · exact absurd (hsolid _ hmem) (by decide)
  · exact absurd (hsolid '_' (hin.mem (by simp [rail]))) (by decide)

namespace RefName
variable {tag w : Text} (h : RefName tag w)
include h

theorem even : w.count backtick % 2 = 0 := QuotedOr.even h RefWord.backtick_notMem

theorem stemFree : (Cut.ofText w).AllOutside (StemFree tag) :=
  QuotedOr.stemFree h RefWord.backtick_notMem RefWord.stemFree

theorem hidden_ne_nil (i : Nat) : (Cut.ofText w).hiddenAt tag i ≠ [] :=
  QuotedOr.hidden_ne_nil h RefWord.ne_nil tag i

theorem unspaced_hidden (htag : PlainTag tag) (i : Nat) :
    ∀ x ∈ (Cut.ofText w).hiddenAt tag i, isWhiteSpace x = false :=
  (Cut.forall_mem_hiddenAt_iff htag fun _ => not_isWhiteSpace_of_isWordChar).mpr <|
    h.allOutside RefWord.backtick_notMem (by simp) RefWord.unspaced

/-- A literal is no label keyword, and neither is its placeholder. -/
theorem isLabelKeyword_hidden (i : Nat) :
    TableRef.isLabelKeyword ((Cut.ofText w).hiddenAt tag i) = TableRef.isLabelKeyword w := by
  rcases h with ⟨l, hl, rfl⟩ | hw
  · rw [Cut.ofText_enquote hl,
      TableRef.isLabelKeyword_of_mem (c := '_') (by simp [Placeholder.text, rail]) (by decide),
      TableRef.isLabelKeyword_of_mem (c := backtick) (by simp [enquote]) (by decide)]
  · rw [Cut.ofText_of_notMem hw.backtick_notMem, Cut.hiddenAt_plain]

end RefName

namespace RefLabel
variable {tag w : Text} (h : RefLabel tag w)
include h

theorem refName : RefName tag w := h.imp And.left

theorem isLabelKeyword_eq : TableRef.isLabelKeyword w = false := by
  rcases h with ⟨l, -, rfl⟩ | hw
  · exact TableRef.isLabelKeyword_of_mem (c := backtick) (by simp [enquote]) (by decide)
  · exact hw.2

end RefLabel

namespace TableNames
variable {tag : Text} {d : Option Text} {t : Text} (h : TableNames tag d t)
include h

theorem refName_database : ∀ n ∈ d, RefName tag n := fun n hn => (h.database n hn).imp And.left

theorem refName_table : RefName tag t := h.table.imp And.left

theorem even : (qualify d t).count backtick % 2 = 0 :=
  even_qualify (fun n hn => (h.refName_database n hn).even) h.refName_table.even

theorem qualifiedName : QualifiedName tag d t where
  even n hn := (h.refName_database n hn).even
  stemFree n hn := (h.refName_database n hn).stemFree
  undotted n hn :=
    (h.database n hn).allOutside (fun hw => hw.1.backtick_notMem) (by simp) And.right
  name_stemFree := h.refName_table.stemFree
  name_undotted hd :=
    h.table.allOutside (fun hw => hw.1.backtick_notMem) (by simp) fun hw => hw.2 hd

end TableNames

theorem TableNames.unspaced_hidden {s : LiteralStore} {d : Option Text} {t : Text}
    (h : TableNames s.tag d t) (htag : PlainTag s.tag) {i : Nat}
    (hnames : (Cut.ofText (qualify d t)).names <+: s.names.drop i) :
    ∀ x ∈ (Cut.ofText (qualify d t)).hiddenAt s.tag i, isWhiteSpace x = false := by
  obtain ⟨j, hform, -, -⟩ := h.qualifiedName.hiddenAt_parts hnames
  rw [hform]
  refine forall_mem_qualify ?_ (by decide) (h.refName_table.unspaced_hidden htag j)
  simpa using fun n hn => (h.refName_database n hn).unspaced_hidden htag i

theorem TableNames.hidden_ne_nil {s : LiteralStore} {d : Option Text} {t : Text}
    (h : TableNames s.tag d t) (i : Nat) : (Cut.ofText (qualify d t)).hiddenAt s.tag i ≠ [] := by
  have hne := qualify_ne_nil d (QuotedOr.ne_nil h.refName_table RefWord.ne_nil)
  simpa using hne

/-! The reference and what stands behind it. -/

/-- A text between a reference and the word behind it: it starts and ends with white space. -/
structure Spacing (m : Text) : Prop where
  ne_nil : m ≠ []
  first : ∀ c ∈ m.head?, isWhiteSpace c = true
  last : ∀ c ∈ m.getLast?, isWhiteSpace c = true
  backtick_notMem : backtick ∉ m

theorem IsGap.spacing {g : Text} (hg : IsGap g) : Spacing g where
  ne_nil := hg.1
  first c hc := hg.2 c (List.mem_of_head? hc)
  last c hc := hg.2 c (List.mem_of_getLast? hc)
  backtick_notMem := Blank.notMem hg.2 (by decide)

theorem Spacing.around {a m b : Text} (ha : Spacing a) (hm : backtick ∉ m) (hb : Spacing b) :
    Spacing (a ++ m ++ b) where
  ne_nil := by simp [ha.ne_nil]
  first c hc := by
    rw [List.append_assoc, List.head?_append_of_ne_nil _ ha.ne_nil] at hc
    exact ha.first c hc
  last c hc := by
    rw [List.getLast?_append_of_ne_nil _ hb.ne_nil] at hc
    exact hb.last c hc
  backtick_notMem :=
    List.not_mem_append (List.not_mem_append ha.backtick_notMem hm) hb.backtick_notMem

namespace TableRef
section
variable {tag : Text} (htag : PlainTag tag) {d : Option Text} {t : Text} (h : TableNames tag d t)
  {g g' : Text} (hg : Blank g) (hg' : Blank g')
include hg hg'

theorem ofClause_eq_of_divide {c R rest : Text}
    (htrim : IsTrimmed ((Cut.ofText c).hiddenAt tag 0))
    (hdivide : divide ((Cut.ofText c).hiddenAt tag 0) = (R, rest)) :
    ofClause tag (g ++ c ++ g') =
      { database := (Text.splitQualifier R).1.map (LiteralStore.ofText tag c).restore
        table := (LiteralStore.ofText tag c).restore (Text.splitQualifier R).2
        label := ((Text.words rest).getLast?.filter (!isLabelKeyword ·)).map
          (LiteralStore.ofText tag c).restore } := by
  rw [Cut.isTrimmed_hiddenAt_iff, Cut.toText_ofText] at htrim
  simp only [ofClause, Text.trim_eq_of_split hg hg' htrim, hideLiterals, Cut.hidden_eq, hdivide]

include htag h

/-- A reference alone has no label. -/
theorem ofClause_alone : ofClause tag (g ++ qualify d t ++ g') = ⟨d, t, none⟩ := by
  generalize hs : LiteralStore.ofText tag (qualify d t) = s
  obtain rfl : s.tag = tag := hs ▸ rfl
  have hnames : (Cut.ofText (qualify d t)).names <+: s.names.drop 0 := hs ▸ List.prefix_rfl
  have hspace := h.unspaced_hidden htag hnames
  have hdivide : divide ((Cut.ofText (qualify d t)).hiddenAt s.tag 0) =
      ((Cut.ofText (qualify d t)).hiddenAt s.tag 0, []) := by
    rw [divide, Text.cutAt?_eq_none.mpr hspace]
    rfl
  obtain ⟨hdatabase, htable⟩ := h.qualifiedName.restored htag hnames
  rw [ofClause_eq_of_divide hg hg' (.of_forall hspace) hdivide, hs, hdatabase, htable]
  rfl

/-- The word behind a reference and white space is the label, unless it is AS. -/
theorem ofClause_labeled {m w : Text} (hm : Spacing m) (hw : RefName tag w) :
    ofClause tag (g ++ (qualify d t ++ m ++ w) ++ g') =
      ⟨d, t, (some w).filter (!isLabelKeyword ·)⟩ := by
  generalize hs : LiteralStore.ofText tag (qualify d t ++ m ++ w) = s
  obtain rfl : s.tag = tag := hs ▸ rfl
  have hnames : (Cut.ofText (qualify d t ++ m ++ w)).names <+: s.names.drop 0 :=
    hs ▸ List.prefix_rfl
  rw [Cut.names_ofText_between h.even hm.backtick_notMem] at hnames
  obtain ⟨hfront, hback⟩ := isPrefix_drop_of_append hnames
  have hhidden := Cut.hiddenAt_ofText_between h.even hm.backtick_notMem (b := w) s.tag 0
  generalize 0 + (Cut.ofText (qualify d t)).names.length = j at hback hhidden
  have hspace := h.unspaced_hidden htag hfront
  have hspace' := hw.unspaced_hidden htag j
  have htrim := (IsTrimmed.of_forall hspace).around (.of_forall hspace') (h.hidden_ne_nil 0)
    (hw.hidden_ne_nil j) m
  obtain ⟨c, m, rfl⟩ := List.exists_cons_of_ne_nil hm.ne_nil
  have hdivide : divide ((Cut.ofText (qualify d t ++ c :: m ++ w)).hiddenAt s.tag 0) =
      ((Cut.ofText (qualify d t)).hiddenAt s.tag 0, m ++ (Cut.ofText w).hiddenAt s.tag j) := by
    rw [hhidden, divide, List.append_assoc, List.cons_append,
      Text.cutAt?_append_cons hspace (hm.first c rfl)]
    rfl
  have hword := Text.getLast?_words_append (y := m) (fun x hx => hm.last x ?_)
    (hw.hidden_ne_nil j) hspace'
  · have hlabel := restore_hiddenAt_ofText htag hw.stemFree hback
    obtain ⟨hdatabase, htable⟩ := h.qualifiedName.restored htag hfront
    rw [ofClause_eq_of_divide hg hg' (hhidden ▸ htrim) hdivide, hs, hdatabase, htable, hword]
    cases hk : isLabelKeyword w <;>
      simp [Option.filter_some, hw.isLabelKeyword_hidden, hk, hlabel]
  · cases m with
    | nil => simp at hx
    | cons y m => rwa [List.getLast?_cons_cons]

end
end TableRef

/-- A clause that was written for a table reference reads as this reference. -/
theorem tableRef_written {tag : Text} (htag : PlainTag tag) {r : TableRef} {t : Text}
    (h : WrittenRef tag r t) {g g' : Text} (hg : Blank g) (hg' : Blank g') :
    TableRef.ofClause tag (g ++ t ++ g') = r := by
  cases h with
  | unlabeled h => exact TableRef.ofClause_alone htag h hg hg'
  | keyword h hgap hk =>
    rw [TableRef.ofClause_labeled htag h hg hg' hgap.spacing (.inr (.of_isLabelKeyword tag hk))]
    simp [Option.filter_some, hk]
  | labeled h hgap hlabel =>
    rw [TableRef.ofClause_labeled htag h hg hg' hgap.spacing hlabel.refName]
    simp [Option.filter_some, hlabel.isLabelKeyword_eq]
  | labeledAs h hgap hk hgap' hlabel =>
    have htick := (RefWord.of_isLabelKeyword tag hk).backtick_notMem
    rw [TableRef.ofClause_labeled htag h hg hg' (hgap.spacing.around htick hgap'.spacing)
      hlabel.refName]
    simp [Option.filter_some, hlabel.isLabelKeyword_eq]

/-- Names that look like what stands between names, and a label that looks like a placeholder. -/
theorem tableRef_written_lookalikes :
    ∃ r t, WrittenRef "ref".toList r t ∧
      [' '] ++ t ++ ['\t'] = " `a b`.`x.y as z` aS\n`__ref0__`\t".toList ∧
      r = ⟨some "`a b`".toList, "`x.y as z`".toList, some "`__ref0__`".toList⟩ ∧
      TableRef.ofClause "ref".toList " `a b`.`x.y as z` aS\n`__ref0__`\t".toList = r := by
  have htag : PlainTag "ref".toList := by decide
  have hfree : ∀ l ∈ ["a b", "x.y as z", "__ref0__"].map String.toList, backtick ∉ l := by decide
  have hnames : TableNames "ref".toList (some (enquote "a b".toList))
      (enquote "x.y as z".toList) :=
    ⟨by simpa using .inl ⟨_, hfree "a b".toList (by simp), rfl⟩,
      .inl ⟨_, hfree "x.y as z".toList (by simp), rfl⟩⟩
  have hspace : IsGap [' '] ∧ IsGap ['\n'] ∧ IsGap ['\t'] := by decide
  have hk : TableRef.isLabelKeyword "aS".toList = true := by decide
  have hlabel : RefLabel "ref".toList (enquote "__ref0__".toList) :=
    .inl ⟨_, hfree "__ref0__".toList (by simp), rfl⟩
  have hwritten := WrittenRef.labeledAs hnames hspace.1 hk hspace.2.1 hlabel
  exact ⟨_, _, hwritten, by decide, by decide,
    tableRef_written htag hwritten hspace.1.2 hspace.2.2.2⟩

end SqlOutline
