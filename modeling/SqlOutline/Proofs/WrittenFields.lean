import SqlOutline.Proofs.ClearText
import SqlOutline.Proofs.FieldConcatenation
import SqlOutline.Proofs.Seam
import SqlOutline.Proofs.WrittenName

/-!
Field lists that are read back as they were written.

The names of an entry hide as words, so that its commas, dots and AS are those that were written
between them (`WrittenField.hiddenEntry`). Then the fields of a list are those of its entries
(`fieldList_written`).
-/

namespace SqlOutline
open Unicode Placeholder

/-- A bare name of a field list: a word other than AS, in which no placeholder opens. -/
structure FieldWord (tag w : Text) : Prop where
  ne_nil : w ≠ []
  word : w.all isWordChar = true
  not_label : ¬ SameWord "AS".toList w
  openingFree : OpeningFree tag w

instance (tag w : Text) : Decidable (FieldWord tag w) :=
  decidable_of_iff (w ≠ [] ∧ w.all isWordChar = true ∧ ¬ SameWord "AS".toList w ∧
      OpeningFree tag w)
    ⟨fun ⟨h₁, h₂, h₃, h₄⟩ => ⟨h₁, h₂, h₃, h₄⟩, fun ⟨h₁, h₂, h₃, h₄⟩ => ⟨h₁, h₂, h₃, h₄⟩⟩

/-- A name of a field list. -/
abbrev FieldName (tag : Text) : Text → Prop := QuotedOr (FieldWord tag)

/-- `t` writes the label `l`, between backticks or bare. -/
def WrittenLabel (tag l t : Text) : Prop :=
  (backtick ∉ l ∧ enquote l = t) ∨ (FieldWord tag l ∧ l = t)

/-- `t` writes the field: its column, with its table in front and its label behind, if it has
them. -/
inductive WrittenField (tag : Text) : Field → Text → Prop
  | unlabeled {table : Option Text} {column : Text} (htable : ∀ t ∈ table, FieldName tag t)
      (hcolumn : FieldName tag column) :
      WrittenField tag ⟨column, table, none⟩ (qualify table column)
  | labeled {table : Option Text} {column g k g' label t : Text}
      (htable : ∀ t ∈ table, FieldName tag t) (hcolumn : FieldName tag column) (hg : IsGap g)
      (hk : SameWord "AS".toList k) (hg' : IsGap g') (hlabel : WrittenLabel tag label t)
      (hne : label ≠ []) :
      WrittenField tag ⟨column, table, some label⟩ (qualify table column ++ (g ++ k ++ g') ++ t)

/-- The texts `ts` are written for the fields `fs`, in white space and with blank texts among
them. -/
inductive WrittenFieldList (tag : Text) : List Field → List Text → Prop
  | nil : WrittenFieldList tag [] []
  | blank {fs : List Field} {ts : List Text} {g : Text} (hg : Blank g)
      (h : WrittenFieldList tag fs ts) : WrittenFieldList tag fs (g :: ts)
  | entry {f : Field} {fs : List Field} {t g g' : Text} {ts : List Text}
      (hf : WrittenField tag f t) (hg : Blank g) (hg' : Blank g')
      (h : WrittenFieldList tag fs ts) : WrittenFieldList tag (f :: fs) ((g ++ t ++ g') :: ts)

theorem Field.spells_labelKeyword_iff {k : Text} :
    labelKeyword.Spells k ↔ SameWord "AS".toList k := by
  have hspellings : labelKeyword.spellings = [["AS".toList]] := by decide +kernel
  simp [Keyword.Spells, hspellings, Phrase.Spells]

theorem Field.labelKeyword_plain : labelKeyword.Plain := by
  decide

/-- Around AS and in it there is nothing but white space and letters. -/
theorem Field.notMem_around_label {g k g' : Text} (hg : IsGap g) (hk : SameWord "AS".toList k)
    (hg' : IsGap g') {x : Char} (hsolid : isSolid x = false) (hspace : isWhiteSpace x = false) :
    x ∉ g ++ k ++ g' := by
  have hkeyword := (spells_labelKeyword_iff.mpr hk).notMem labelKeyword_plain hsolid hspace
  exact List.not_mem_append (List.not_mem_append (Blank.notMem hg.2 hspace) hkeyword)
    (Blank.notMem hg'.2 hspace)

/-! The names of an entry. -/

namespace FieldWord
variable {tag w : Text} (h : FieldWord tag w)
include h

theorem isWordChar_of_mem : ∀ x ∈ w, isWordChar x = true := List.all_eq_true.mp h.word

theorem backtick_notMem : backtick ∉ w := fun hmem =>
  absurd (h.isWordChar_of_mem _ hmem) (by decide)

/-- Words break at the ends of the word alone, and it is not the keyword itself. -/
theorem lacks : Lacks Field.labelKeyword tag w := by
  rintro ⟨a, f, b⟩ rfl ho
  have hword := h.isWordChar_of_mem
  have ha : a = [] := by
    by_contra hne
    have hfree : OpeningFree tag a := h.openingFree.of_infix ⟨[], f ++ b, by simp [Occurrence.text]⟩
    have hno := hfree.endsInBreak_iff.mp ho.left _ (List.getLast?_eq_some_getLast hne)
    rw [hword _ (by simp [Occurrence.text])] at hno
    exact Bool.false_ne_true hno.symm
  have hb : b = [] := by
    by_contra hne
    have hfree : OpeningFree tag b := h.openingFree.of_infix ⟨a ++ f, [], by simp [Occurrence.text]⟩
    have hno := hfree.startsInBreak_iff.mp ho.right _ (List.head?_eq_some_head hne)
    rw [hword _ (by simp [Occurrence.text])] at hno
    exact Bool.false_ne_true hno.symm
  subst ha hb
  refine h.not_label ?_
  simpa [Occurrence.text] using Field.spells_labelKeyword_iff.mp ho.spelled

end FieldWord

namespace FieldName
variable {tag t : Text} (h : FieldName tag t)
include h

theorem even : t.count backtick % 2 = 0 := QuotedOr.even h FieldWord.backtick_notMem

theorem stemFree : (Cut.ofText t).AllOutside (StemFree tag) :=
  QuotedOr.stemFree h FieldWord.backtick_notMem fun hw => hw.openingFree.stemFree

theorem undotted : (Cut.ofText t).AllOutside ('.' ∉ ·) :=
  h.allOutside FieldWord.backtick_notMem (by simp) fun hw hmem =>
    absurd (hw.isWordChar_of_mem _ hmem) (by decide)

theorem hidden_ne_nil (i : Nat) : (Cut.ofText t).hiddenAt tag i ≠ [] :=
  QuotedOr.hidden_ne_nil h FieldWord.ne_nil tag i

variable (htag : PlainTag tag) (i : Nat)
include htag

theorem isWordChar_hidden : ∀ x ∈ (Cut.ofText t).hiddenAt tag i, isWordChar x = true := by
  have hout : (Cut.ofText t).AllOutside (∀ x ∈ ·, (!isWordChar x) = false) :=
    h.allOutside FieldWord.backtick_notMem (by simp) fun hw => by
      simpa using hw.isWordChar_of_mem
  simpa using (Cut.forall_mem_hiddenAt_iff htag (p := (!isWordChar ·)) (by simp)).mpr hout

theorem isTrimmed_hidden : IsTrimmed ((Cut.ofText t).hiddenAt tag i) :=
  .of_forall fun x hx => not_isWhiteSpace_of_isWordChar (h.isWordChar_hidden htag i x hx)

theorem comma_notMem_hidden : ',' ∉ (Cut.ofText t).hiddenAt tag i := fun hmem =>
  absurd (h.isWordChar_hidden htag i _ hmem) (by decide)

theorem lacks : Lacks Field.labelKeyword tag ((Cut.ofText t).hiddenAt tag i) := by
  rcases h with hquoted | hw
  · -- Outside its literal a quoted name has no text for the keyword.
    have hout : (Cut.ofText t).AllOutside (· = []) :=
      QuotedOr.allOutside (p := fun _ => False) (.inl hquoted) nofun rfl nofun
    intro o ht ho
    obtain ⟨A, B, hAB, -, -⟩ := ho.split htag Field.labelKeyword_plain ht.symm
    have hparts := (hAB ▸ hout).of_append fun x y hxy => List.append_eq_nil_iff.mp hxy
    have hfound := (hparts.2.of_append fun x y hxy => List.append_eq_nil_iff.mp hxy).1
    exact ho.found_ne_nil Field.labelKeyword_plain (by simpa using hfound)
  · rw [Cut.ofText_of_notMem hw.backtick_notMem, Cut.hiddenAt_plain]
    exact hw.lacks

end FieldName

namespace WrittenLabel
variable {tag l t : Text} (h : WrittenLabel tag l t)
include h

theorem fieldName : FieldName tag t := by
  rcases h with ⟨hl, rfl⟩ | ⟨hw, rfl⟩
  · exact .inl ⟨l, hl, rfl⟩
  · exact .inr hw

theorem unquote_eq : unquote t = l := by
  rcases h with ⟨-, rfl⟩ | ⟨hw, rfl⟩
  · exact unquote_enquote l
  · obtain ⟨c, l, rfl⟩ := List.exists_cons_of_ne_nil hw.ne_nil
    have hc : c ≠ backtick := fun hc => hw.backtick_notMem (by simp [hc])
    simp [unquote, hc]

end WrittenLabel

theorem WrittenField.even {tag : Text} {f : Field} {t : Text} (h : WrittenField tag f t) :
    t.count backtick % 2 = 0 := by
  cases h with
  | unlabeled htable hcolumn => exact even_qualify (fun t ht => (htable t ht).even) hcolumn.even
  | labeled htable hcolumn hg hk hg' hlabel hne =>
    exact Cut.even_between (even_qualify (fun t ht => (htable t ht).even) hcolumn.even)
      (Field.notMem_around_label hg hk hg' (by decide) (by decide)) hlabel.fieldName.even

/-! The expression in front of a label. -/

/-- `E` is an expression with its literals hidden in `s`. -/
structure HiddenExpression (s : LiteralStore) (table : Option Text) (column E : Text) : Prop where
  ne_nil : E ≠ []
  chars : ∀ x ∈ E, isWordChar x = true ∨ x = '.'
  lacks : Lacks Field.labelKeyword s.tag E
  restored : (Text.splitQualifier E).1.map s.restore = table ∧
    s.restore (Text.splitQualifier E).2 = column

namespace HiddenExpression
variable {s : LiteralStore} {table : Option Text} {column E : Text}
  (h : HiddenExpression s table column E)
include h

theorem isTrimmed : IsTrimmed E := by
  refine .of_forall fun x hx => ?_
  rcases h.chars x hx with hword | rfl
  · exact not_isWhiteSpace_of_isWordChar hword
  · decide

theorem comma_notMem : ',' ∉ E := by
  intro hmem
  rcases h.chars _ hmem with hword | hdot
  · exact absurd hword (by decide)
  · exact absurd hdot (by decide)

end HiddenExpression

section
variable {s : LiteralStore} (htag : PlainTag s.tag)
include htag

omit htag in
theorem qualifiedName {table : Option Text} {column : Text}
    (htable : ∀ t ∈ table, FieldName s.tag t) (hcolumn : FieldName s.tag column) :
    QualifiedName s.tag table column where
  even t ht := (htable t ht).even
  stemFree t ht := (htable t ht).stemFree
  undotted t ht := (htable t ht).undotted
  name_stemFree := hcolumn.stemFree
  name_undotted _ := hcolumn.undotted

theorem hiddenExpression {table : Option Text} {column : Text} {i : Nat}
    (htable : ∀ t ∈ table, FieldName s.tag t) (hcolumn : FieldName s.tag column)
    (hnames : (Cut.ofText (qualify table column)).names <+: s.names.drop i) :
    HiddenExpression s table column ((Cut.ofText (qualify table column)).hiddenAt s.tag i) := by
  have hname := qualifiedName htable hcolumn
  obtain ⟨j, hform, -, -⟩ := hname.hiddenAt_parts hnames
  refine ⟨?_, ?_, ?_, hname.restored htag hnames⟩
  · rw [hform]
    exact qualify_ne_nil _ (hcolumn.hidden_ne_nil j)
  · rw [hform]
    refine forall_mem_qualify ?_ (.inr rfl) fun x hx => .inl (hcolumn.isWordChar_hidden htag j x hx)
    simpa using fun t ht x hx => .inl ((htable t ht).isWordChar_hidden htag i x hx)
  · rw [hform]
    cases table with
    | none => exact hcolumn.lacks htag j
    | some t =>
      exact Lacks.append_cons htag Field.labelKeyword_plain ((htable t rfl).lacks htag i)
        (hcolumn.lacks htag j) (by decide) (by decide)

namespace Field

omit htag in
theorem ofHidden_blank {g : Text} (hg : Blank g) : ofHidden s g = [] := by
  have hcomma : ',' ∉ g := hg.notMem (by decide)
  have htrim : Text.trim g = [] := Text.trim_append_blank hg []
  rw [ofHidden, List.splitOn_eq_singleton hcomma, List.map_singleton, htrim]
  rfl

omit htag in
/-- An entry in white space is read without it. -/
theorem ofHidden_entry {e g g' : Text} (hne : e ≠ []) (htrim : IsTrimmed e) (hcomma : ',' ∉ e)
    (hg : Blank g) (hg' : Blank g') : ofHidden s (g ++ e ++ g') = [ofEntry s e] := by
  have hwhole : ',' ∉ g ++ e ++ g' :=
    List.not_mem_append (List.not_mem_append (hg.notMem (by decide)) hcomma)
      (hg'.notMem (by decide))
  rw [ofHidden, List.splitOn_eq_singleton hwhole, List.map_singleton,
    Text.trim_eq_of_split hg hg' htrim, List.filter_cons_of_pos (by simpa using hne)]
  rfl

theorem ofEntry_unlabeled {table : Option Text} {column E : Text}
    (h : HiddenExpression s table column E) : ofEntry s E = ⟨column, table, none⟩ := by
  have hdivide : divide s.tag E = (E, none) := by
    rw [divide, (lacks_iff htag labelKeyword_plain).mp h.lacks]
  simp only [ofEntry, hdivide, h.restored]
  rfl

theorem ofEntry_labeled {table : Option Text} {column E g k g' L label : Text}
    (h : HiddenExpression s table column E) (hg : IsGap g) (hk : SameWord "AS".toList k)
    (hg' : IsGap g') (hL : IsTrimmed L) (hlabel : unquote (s.restore L) = label)
    (hne : label ≠ []) : ofEntry s (E ++ (g ++ k ++ g') ++ L) = ⟨column, table, some label⟩ := by
  have hspells := spells_labelKeyword_iff.mpr hk
  have hbounded : Bounded labelKeyword s.tag ⟨[], k, g' ++ L⟩ :=
    ⟨hspells, .inl rfl, Blank.startsInBreak hg'.2 hg'.1 s.tag L⟩
  have hparts : labelKeyword.PartsFrom labelKeyword := by decide
  have hno := hparts.not_straddles labelKeyword_plain labelKeyword_plain hspells
    (List.prefix_append k (g' ++ L)) s.tag E
  have hfind := find?_behind_gap htag labelKeyword_plain h.lacks hno hg h.isTrimmed.back hbounded
  have hdivide : divide s.tag (E ++ (g ++ k ++ g') ++ L) = (E, some L) := by
    have hform : E ++ (g ++ k ++ g') ++ L = E ++ g ++ (k ++ (g' ++ L)) := by simp
    have htrim : Text.trim (g' ++ L) = L := by
      simpa using Text.trim_eq_of_split hg'.2 Blank.nil hL
    rw [divide, hform, hfind]
    simp only [htrim, Text.trim_append_blank hg.2, Text.trim_of_isTrimmed h.isTrimmed]
  simp only [ofEntry, hdivide, h.restored, Option.map_some, hlabel]
  simp [hne]

end Field

/-- `H` is the entry of the field with its literals hidden in `s`. -/
structure HiddenEntry (s : LiteralStore) (f : Field) (H : Text) : Prop where
  ne_nil : H ≠ []
  isTrimmed : IsTrimmed H
  comma_notMem : ',' ∉ H
  ofEntry_eq : Field.ofEntry s H = f

theorem WrittenField.hiddenEntry {f : Field} {t : Text} (h : WrittenField s.tag f t) {i : Nat}
    (hnames : (Cut.ofText t).names <+: s.names.drop i) :
    HiddenEntry s f ((Cut.ofText t).hiddenAt s.tag i) := by
  cases h with
  | unlabeled htable hcolumn =>
    have hE := hiddenExpression htag htable hcolumn hnames
    exact ⟨hE.ne_nil, hE.isTrimmed, hE.comma_notMem, Field.ofEntry_unlabeled htag hE⟩
  | @labeled table column g k g' label t htable hcolumn hg hk hg' hlabel hne =>
    have hname := hlabel.fieldName
    have htick : backtick ∉ g ++ k ++ g' :=
      Field.notMem_around_label hg hk hg' (by decide) (by decide)
    have heven := even_qualify (fun t ht => (htable t ht).even) hcolumn.even
    rw [Cut.names_ofText_between heven htick] at hnames
    obtain ⟨hfront, hback⟩ := isPrefix_drop_of_append hnames
    have hE := hiddenExpression htag htable hcolumn hfront
    generalize hj : i + (Cut.ofText (qualify table column)).names.length = j at hback
    have hL := hname.isTrimmed_hidden htag j
    rw [Cut.hiddenAt_ofText_between heven htick, hj]
    refine ⟨?_, hE.isTrimmed.around hL hE.ne_nil (hname.hidden_ne_nil j) _, ?_, ?_⟩
    · simp [hE.ne_nil]
    · have hcomma : ',' ∉ g ++ k ++ g' :=
        Field.notMem_around_label hg hk hg' (by decide) (by decide)
      exact List.not_mem_append (List.not_mem_append hE.comma_notMem hcomma)
        (hname.comma_notMem_hidden htag j)
    · have hcontent : unquote (s.restore ((Cut.ofText t).hiddenAt s.tag j)) = label := by
        rw [restore_hiddenAt_ofText htag hname.stemFree hback, hlabel.unquote_eq]
      exact Field.ofEntry_labeled htag hE hg hk hg' hL hcontent hne

/-- In white space a written field is the one entry of a list. -/
theorem WrittenField.ofHidden {f : Field} {t : Text} (h : WrittenField s.tag f t) {g g' : Text}
    (hg : Blank g) (hg' : Blank g') {i : Nat}
    (hnames : (Cut.ofText (g ++ t ++ g')).names <+: s.names.drop i) :
    Field.ofHidden s ((Cut.ofText (g ++ t ++ g')).hiddenAt s.tag i) = [f] := by
  have hcut := Cut.ofText_around (hg.notMem (by decide)) h.even (hg'.notMem (by decide))
  rw [hcut] at hnames ⊢
  have hentry := h.hiddenEntry htag (i := i) (by simpa using hnames)
  rw [Cut.hiddenAt_around_plain, Field.ofHidden_entry hentry.ne_nil hentry.isTrimmed
    hentry.comma_notMem hg hg', hentry.ofEntry_eq]

omit htag in
/-- The first entry of a list stands alone, or in front of a comma and the others. -/
theorem Field.ofHidden_intercalate_cons {t : Text} {ts : List Text} {r rs : List Field}
    (heven : t.count backtick % 2 = 0)
    (ht : ∀ j, (Cut.ofText t).names <+: s.names.drop j →
      ofHidden s ((Cut.ofText t).hiddenAt s.tag j) = r)
    (hts : ∀ j, (Cut.ofText ([','].intercalate ts)).names <+: s.names.drop j →
      ofHidden s ((Cut.ofText ([','].intercalate ts)).hiddenAt s.tag j) = rs) {i : Nat}
    (hnames : (Cut.ofText ([','].intercalate (t :: ts))).names <+: s.names.drop i) :
    ofHidden s ((Cut.ofText ([','].intercalate (t :: ts))).hiddenAt s.tag i) = r ++ rs := by
  cases ts with
  | nil =>
    obtain rfl : [] = rs := hts 0 (List.nil_prefix)
    rw [List.intercalate_singleton] at hnames ⊢
    rw [ht i hnames, List.append_nil]
  | cons u ts =>
    rw [List.intercalate_cons_cons, List.append_assoc, List.singleton_append] at hnames ⊢
    have hall : (Cut.ofText t).names ++ (Cut.ofText ([','].intercalate (u :: ts))).names <+:
        s.names.drop i := by
      simpa [Cut.ofText_append_comma heven] using hnames
    obtain ⟨hfront, hback⟩ := isPrefix_drop_of_append hall
    rw [ofHidden_hiddenAt_comma s heven, ht i hfront, hts _ hback]

theorem WrittenFieldList.ofHidden {fs : List Field} {ts : List Text}
    (h : WrittenFieldList s.tag fs ts) {i : Nat}
    (hnames : (Cut.ofText ([','].intercalate ts)).names <+: s.names.drop i) :
    Field.ofHidden s ((Cut.ofText ([','].intercalate ts)).hiddenAt s.tag i) = fs := by
  induction h generalizing i with
  | nil => rfl
  | @blank fs ts g hg h ih =>
    have htick : backtick ∉ g := hg.notMem (by decide)
    refine Field.ofHidden_intercalate_cons (r := []) ?_ (fun j _ => ?_) (fun j hj => ih hj) hnames
    · rw [List.count_eq_zero.mpr htick]
    · rw [Cut.ofText_of_notMem htick, Cut.hiddenAt_plain]
      exact Field.ofHidden_blank hg
  | @entry f fs t g g' ts hf hg hg' h ih =>
    have heven := Cut.even_around (hg.notMem (by decide)) hf.even (hg'.notMem (by decide))
    exact Field.ofHidden_intercalate_cons heven (fun j hj => hf.ofHidden htag hg hg' hj)
      (fun j hj => ih hj) hnames

end

/-- A field list has the fields that it was written for. -/
theorem fieldList_written {tag : Text} (htag : PlainTag tag) {fs : List Field} {ts : List Text}
    (h : WrittenFieldList tag fs ts) : Field.ofClause tag ([','].intercalate ts) = fs := by
  rw [Field.ofClause_eq_ofHidden]
  exact WrittenFieldList.ofHidden (s := .ofText tag ([','].intercalate ts)) htag h List.prefix_rfl

/-- Names that look like what stands between names, a blank entry, and low lines before a dot. -/
theorem fieldList_written_lookalikes :
    ∃ fs ts, WrittenFieldList "ref".toList fs ts ∧
      [','].intercalate ts = "`t.1`.`a,b` aS\n`x AS y`, ,\t__.``".toList ∧
      fs = [⟨"`a,b`".toList, some "`t.1`".toList, some "x AS y".toList⟩,
        ⟨"``".toList, some "__".toList, none⟩] ∧
      Field.ofClause "ref".toList "`t.1`.`a,b` aS\n`x AS y`, ,\t__.``".toList = fs := by
  have htag : PlainTag "ref".toList := by decide
  have hfree : ∀ l ∈ ["t.1", "a,b", "x AS y", ""].map String.toList, backtick ∉ l := by decide
  have hquoted : ∀ l ∈ ["t.1", "a,b", "x AS y", ""].map String.toList,
      FieldName "ref".toList (enquote l) := fun l hl => .inl ⟨l, hfree l hl, rfl⟩
  have hlow : FieldName "ref".toList "__".toList := .inr (by decide +kernel)
  have hlabeled : WrittenField "ref".toList _
      (qualify (some (enquote "t.1".toList)) (enquote "a,b".toList) ++
        ([' '] ++ "aS".toList ++ ['\n']) ++ enquote "x AS y".toList) :=
    .labeled (by simpa using hquoted "t.1".toList (by simp)) (hquoted "a,b".toList (by simp))
      (by decide) (by decide) (by decide) (.inl ⟨hfree "x AS y".toList (by simp), rfl⟩) (by decide)
  have hunlabeled : WrittenField "ref".toList _ (qualify (some "__".toList) (enquote [])) :=
    .unlabeled (by simpa using hlow) (hquoted [] (by simp))
  have hspace : IsGap [' '] ∧ IsGap ['\t'] := by decide
  have hlist := WrittenFieldList.entry hlabeled .nil .nil <|
    .blank hspace.1.2 <| .entry hunlabeled hspace.2.2 .nil .nil
  exact ⟨_, _, hlist, by decide, by decide, fieldList_written htag hlist⟩

end SqlOutline
