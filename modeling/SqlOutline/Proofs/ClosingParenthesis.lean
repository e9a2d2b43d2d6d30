import SqlOutline.Proofs.ColumnLine
import SqlOutline.Proofs.WaitingForeignKey

/-!
The closing parenthesis of a statement, on a line of its own or at the end of the last declaration.

Keys, targets and columns with something behind their type read over it. A type that ends its line
does not end in front of it, and takes it in (`tables_closing_iff`).
-/

namespace SqlOutline
open Unicode

/-- What ends a statement. -/
def closing : Text := [')', ';']

namespace Block

/-- A line that goes on behind a semicolon does so with more at its end. -/
theorem readLineEnd_append_eq_none {u : Text} (h : readLineEnd u = none) (s : Text) :
    readLineEnd (u ++ s) = none := by
  rw [readLineEnd] at h ⊢
  by_cases hnil : u.dropWhile isIndent = []
  · rw [hnil] at h
    cases h
  · obtain ⟨-, hdrop⟩ := span_append hnil s
    obtain ⟨c, rest, hc⟩ := List.exists_cons_of_ne_nil hnil
    rw [hdrop, hc]
    rw [hc] at h
    dsimp only [List.cons_append] at h ⊢
    split at h
    · cases h
    · rename_i hbreak
      rw [if_neg hbreak]
      split at h
      · cases h
      · rename_i hreturn
        have hmore : ¬ (decide (c = '\r') && atLineEnd (rest ++ s)) = true := by
          intro hend
          obtain ⟨hc, hend⟩ := Bool.and_eq_true_iff.mp hend
          exact hreturn (Bool.and_eq_true_iff.mpr ⟨hc, atLineEnd_of_append hend⟩)
        rw [if_neg hmore]

/-- What is read to the end of a closing line is read with the closing on the line before. -/
theorem readToEnd_closing {u : Text}
    (h : readToEnd (u ++ '\n' :: closing) = some (u ++ '\n' :: closing, [])) :
    readToEnd (u ++ closing) = some (u ++ closing, []) := by
  induction u with
  | nil => decide
  | cons c u ih =>
    have hend : (if c = ';' then readLineEnd (u ++ '\n' :: closing) else none) =
        (if c = ';' then readLineEnd u else none).map (Prod.map id (· ++ '\n' :: closing)) := by
      split
      · exact readLineEnd_ignores closing u
      · rfl
    rw [List.cons_append, readToEnd, hend] at h
    cases hread : (if c = ';' then readLineEnd u else none) with
    | some p =>
      rw [hread] at h
      obtain ⟨-, hnil⟩ := Prod.mk.inj (Option.some.inj h)
      exact absurd hnil (by simp)
    | none =>
      rw [hread] at h
      obtain ⟨⟨a, b⟩, hrest, hp⟩ := Option.map_eq_some_iff.mp h
      obtain ⟨hform, rfl⟩ := Prod.mk.inj hp
      obtain ⟨-, rfl⟩ := List.cons_eq_cons.mp hform
      have hnone : (if c = ';' then readLineEnd (u ++ closing) else none) = none := by
        split
        · rename_i hc
          rw [if_pos hc] at hread
          exact readLineEnd_append_eq_none hread closing
        · rfl
      rw [List.cons_append, readToEnd, hnone, ih hrest]
      rfl

/-- A statement that ends with a closing line is one with the closing on the line before. -/
theorem isStatement_closing {x : Text} (hx : backtick ∈ x)
    (h : IsStatement (x ++ '\n' :: closing)) : IsStatement (x ++ closing) := by
  have hne : x.dropWhile isIndent ≠ [] := by
    rw [ne_eq, List.dropWhile_eq_nil_iff]
    exact fun hall => absurd (hall _ hx) (by decide)
  have hmem : backtick ∈ x.dropWhile isIndent := by
    rw [← List.takeWhile_append_dropWhile (p := isIndent) (l := x)] at hx
    exact (List.mem_append.mp hx).resolve_left fun hin =>
      absurd (List.mem_takeWhile_imp hin) (by decide)
  have hkeyword := Keyword.readWhole_ignores TableName.createKeyword_plain (x := backtick)
    (by decide) (by decide) hmem
  obtain ⟨f, z, hform, t, hf, hz⟩ := read_eq_some_iff.mp h
  obtain ⟨htake, hdrop⟩ := span_append hne ('\n' :: closing)
  rw [hdrop, hkeyword] at hf
  obtain ⟨⟨f', u⟩, hread, hp⟩ := Option.map_eq_some_iff.mp hf
  obtain ⟨rfl, rfl⟩ := Prod.mk.inj hp
  obtain rfl : z = u ++ '\n' :: closing := by
    have hfaithful := readToEnd_faithful hz
    rwa [List.append_nil] at hfaithful
  obtain ⟨htake', hdrop'⟩ := span_append hne closing
  refine read_eq_some_iff.mpr ⟨f', u ++ closing, ?_, u ++ closing, ?_, readToEnd_closing hz⟩
  · have hrest := TableName.createKeyword.readWhole_faithful hread
    rw [htake', ← List.append_assoc f', hrest, ← List.append_assoc,
      List.takeWhile_append_dropWhile]
  · rw [hdrop', hkeyword, hread]
    rfl

theorem isStatement_below_closing {a l : Text} (hl : backtick ∈ l)
    (h : IsStatement (a ++ Text.below [l, closing])) :
    IsStatement (a ++ Text.below [l ++ closing]) := by
  have hlong : a ++ Text.below [l, closing] = (a ++ '\n' :: l) ++ '\n' :: closing := by
    simp [Text.below]
  have hshort : a ++ Text.below [l ++ closing] = (a ++ '\n' :: l) ++ closing := by
    simp [Text.below]
  rw [hlong] at h
  rw [hshort]
  exact isStatement_closing (by simp [hl]) h

end Block

/-! Lines that read over what comes behind them. -/

/-- The line of a target declares nothing by itself. -/
theorem Declaration.ofLine_of_opens {l : Text} (h : Target.Opens l) : ofLine l = .ok .other := by
  obtain ⟨f, z, hform, hf, -⟩ := h
  obtain ⟨c, f, rfl⟩ := List.exists_cons_of_ne_nil (hf.ne_nil Target.keyword_plain)
  have hc := hf.mayStartWith Target.keyword_plain
  have htrim := Text.isTrimmed_trim l
  have htick : c ≠ backtick := by
    rintro rfl
    exact absurd hc (by decide)
  have hnone : StartsNoKey c :=
    ⟨Keyword.mayStartWith_eq_false (by decide) hc, Keyword.mayStartWith_eq_false (by decide) hc,
      Keyword.mayStartWith_eq_false (by decide) hc⟩
  rw [← hform, List.cons_append] at htrim
  rw [← ofLine_trim, ← hform, List.cons_append]
  exact ofLine_other hnone (Keyword.mayStartWith_eq_false (by decide) hc) htick htrim

namespace Target

theorem opens_of_ofLine {l : Text} {g : Target} (h : ofLine l = .ok (some g)) : Opens l := by
  by_contra hno
  rw [ofLine_of_not_opens hno] at h
  cases h

theorem ofLine_of_isKey {l : Text} {d : Declaration} (h : Declaration.ofLine l = .ok d)
    (hd : d.IsKey) : ofLine l = .ok none := by
  apply ofLine_of_not_opens
  intro hopens
  rw [Declaration.ofLine_of_opens hopens] at h
  obtain rfl := Except.ok.inj h
  exact hd

theorem ofLine_of_backtick {b : Text} (hb : Blank b) (x : Text) :
    ofLine (b ++ backtick :: x) = .ok none := by
  have htrim : IsTrimmed [backtick] := isTrimmed_of_ends rfl rfl (by decide) (by decide)
  have hfront := Text.trim_append_of_trimmed hb (List.cons_ne_nil _ _) htrim x
  rw [List.singleton_append] at hfront
  rw [ofLine, hfront, List.singleton_append, Keyword.readWhole_cons_eq_none keyword_plain (by decide)]

end Target

namespace Draft

theorem step_closing (d : Draft) : d.step closing = .ok d :=
  step_skipped (by decide) (by decide) d

/-- A closing line ends the statement and declares nothing. -/
theorem foldlM_closing (d : Draft) (l : Text) : [l, closing].foldlM step d = d.step l := by
  rw [List.foldlM_cons]
  cases d.step l with
  | error e => rfl
  | ok d' =>
    show [closing].foldlM step d' = .ok d'
    rw [foldlM_singleton, step_closing]

/-- Lines that declare the same in both states are taken up in the same way. -/
theorem step_congr {d : Draft} {l l' : Text}
    (hline : d.waiting = none → Declaration.ofLine l = Declaration.ofLine l')
    (htarget : Target.ofLine l = Target.ofLine l') : d.step l = d.step l' := by
  obtain ⟨t, waiting⟩ := d
  cases waiting with
  | none => rw [step, step, hline rfl]
  | some column => rw [step, step, htarget]

variable {s : Text} (hs : Wordless s) (d : Draft)
include hs

theorem step_key_append {l : Text} {k : Declaration} (hl : Declaration.ofLine l = .ok k)
    (hk : k.IsKey) : d.step (l ++ s) = d.step l := by
  have hmore := Declaration.ofLine_append_wordless hs hl hk
  apply step_congr
  · intro
    rw [hmore, hl]
  · rw [Target.ofLine_of_isKey hmore hk, Target.ofLine_of_isKey hl hk]

theorem step_target_append {l : Text} {g : Target} (hl : Target.ofLine l = .ok (some g)) :
    d.step (l ++ s) = d.step l := by
  have hmore := Target.ofLine_append_wordless hs hl
  apply step_congr
  · intro
    rw [Declaration.ofLine_of_opens (Target.opens_of_ofLine hmore),
      Declaration.ofLine_of_opens (Target.opens_of_ofLine hl)]
  · rw [hmore, hl]

end Draft

/-! Columns, where the type may take in what comes behind it. -/

namespace Column

/-- An option is not read from what comes behind its last letter. -/
theorem hasOption_append {option : String} {e : Char} (hlast : option.toList.getLast? = some e)
    {s : Text} (he : e ∉ upper s) (d : Text) : hasOption option (d ++ s) = hasOption option d := by
  have hne : option.toList ≠ [] := by
    intro hnil
    rw [hnil] at hlast
    cases hlast
  have hnot : ∀ {r t : Text}, r ++ t = option.toList → t ≠ [] → (∀ c ∈ t, c ∈ upper s) → False := by
    intro r t hform ht hin
    rw [← hform, List.getLast?_append_of_ne_nil _ ht] at hlast
    exact he (hin e (List.mem_of_getLast? hlast))
  rw [hasOption, hasOption, upper_append, Bool.eq_iff_iff, Text.hasPart_iff, Text.hasPart_iff,
    List.infix_append_iff]
  constructor
  · rintro (hin | hin | ⟨r, t, hform, hr, ht⟩)
    · exact hin
    · exact (hnot (List.nil_append _) hne fun c hc => hin.subset hc).elim
    · by_cases hnil : t = []
      · rw [hform, hnil, List.append_nil]
        exact hr.isInfix
      · exact (hnot hform.symm hnil fun c hc => ht.subset hc).elim
  · exact Or.inl

theorem length_lower_append (s t : Text) :
    (lower (s ++ t)).length = (lower s).length + (lower t).length := by
  -- How many letters one of them becomes does not depend on its neighbours.
  have hfrom : ∀ (behind t : Text), (lowerFrom behind t).length = (t.flatMap lowerChar).length := by
    intro behind t
    induction t generalizing behind with
    | nil => rfl
    | cons c t ih =>
      rw [lowerFrom, List.flatMap_cons, List.length_append, List.length_append, ih]
      congr 1
      split
      · rename_i hc
        subst hc
        have hsigma : (lowerChar 'Σ').length = 1 := by decide
        rw [hsigma]
        split <;> rfl
      · rfl
  rw [lower, lower, lower, hfrom, hfrom, hfrom, List.flatMap_append, List.length_append]

/-- A type that takes in the closing is another one. -/
theorem lower_closing_ne (τ : Text) :
    lower (dropCommas (τ ++ closing)) ≠ lower (dropCommas τ) := by
  have hkeep : dropCommas (τ ++ closing) = τ ++ closing := by
    have hlast : (τ ++ closing).getLast? ≠ some ',' := by
      have hne : closing ≠ [] := by decide
      rw [List.getLast?_append_of_ne_nil _ hne]
      decide
    have hcommas := dropCommas_append hlast (e := []) (List.forall_mem_nil _)
    rwa [List.append_nil] at hcommas
  obtain ⟨e, he⟩ : ∃ e, dropCommas τ ++ e = τ := by
    refine ⟨(τ.reverse.takeWhile (· == ',')).reverse, ?_⟩
    rw [dropCommas, ← List.reverse_append, List.takeWhile_append_dropWhile, List.reverse_reverse]
  intro h
  have hlen := congrArg List.length h
  have hτ := congrArg (fun t => (lower t).length) he
  have htwo : (lower closing).length = 2 := by decide
  simp only [hkeep, length_lower_append, htwo] at hlen hτ
  omega

end Column

namespace ColumnLine

/-- What the line declares with `s` behind it. -/
theorem ofLine_append (l : ColumnLine) {b : Text} (hb : Blank b) {s : Text}
    (hs : IsTrimmed (l.declaration ++ s)) (hnewline : '\n' ∉ s) :
    Declaration.ofLine (b ++ (l.text ++ s)) = .ok (if l.name = [] then .other else .column {
      name := l.name
      dataType := Column.typeOf (l.declaration ++ s)
      nullable := !Column.hasOption " NOT NULL" (l.declaration ++ s)
      autoIncrement := Column.hasOption " AUTO_INCREMENT" (l.declaration ++ s) }) := by
  have hlines : '\n' ∉ l.declaration ++ s := by
    rw [List.mem_append, not_or]
    exact ⟨l.newline_notMem_declaration, hnewline⟩
  have hne : l.declaration ++ s ≠ [] := by simp [l.declaration_ne_nil]
  have hread := Declaration.ofLine_enquote l.backtick_notMem l.isGap hne hs hlines
  have htrim : IsTrimmed (l.text ++ s) := by
    have hfront : IsTrimmed [backtick] := isTrimmed_of_ends rfl rfl (by decide) (by decide)
    have hends := hfront.around hs (List.cons_ne_nil _ _) hne (l.name ++ backtick :: l.gap)
    simpa [text, enquote] using hends
  have hsplit := Text.trim_eq_of_split hb .nil htrim
  rw [List.append_nil] at hsplit
  rw [← Declaration.ofLine_trim, hsplit, ← hread, text, List.append_assoc, List.append_assoc]

section
variable (l : ColumnLine) {b' : Text} (hb' : Block.IsIndent b')
include hb'

theorem hasOption_closing {option : String} {e : Char} (hlast : option.toList.getLast? = some e)
    (hindent : Block.isIndent e = false) (he : e ∉ closing) :
    Column.hasOption option (l.declaration ++ (b' ++ closing)) =
      Column.hasOption option l.declaration := by
  apply Column.hasOption_append hlast
  intro hmem
  have hclosing : ∀ c ∈ closing, c.toNat < 65 := by simp [closing]
  rw [upper_eq_self (List.forall_mem_append.mpr ⟨hb'.toNat_lt, hclosing⟩)] at hmem
  exact (List.mem_append.mp hmem).elim (hb'.notMem hindent) he

/-- The type goes on in the closing where nothing stands between them. -/
theorem typeOf_closing :
    Column.typeOf (l.declaration ++ (b' ++ closing)) =
      if l.words = [] ∧ b' = [] then lower (Column.dropCommas (l.type ++ closing))
        else lower (Column.dropCommas l.type) := by
  rw [declaration, List.append_assoc]
  split
  · rename_i hnil
    obtain ⟨hwords, rfl⟩ := hnil
    have hspan : Column.typeSpan 0 closing = closing := by decide
    rw [hwords, Column.spaced_nil, List.nil_append, List.nil_append, Column.typeOf,
      Column.typeSpan_append l.isType.enclosed, l.isType.balanced, hspan]
  · rename_i hne
    apply Column.typeOf_append l.isType
    intro c hc
    have hindent : Block.isIndent c = true := by
      by_cases hwords : l.words = []
      · have hb'ne : b' ≠ [] := fun hnil => hne ⟨hwords, hnil⟩
        rw [hwords, Column.spaced_nil, List.nil_append, List.head?_append_of_ne_nil _ hb'ne] at hc
        exact hb' c (List.mem_of_head? hc)
      · rw [List.head?_append_of_ne_nil _ (l.isWords.spaced_ne_nil hwords)] at hc
        exact l.isWords.head_isIndent c hc
    exact Block.isWhiteSpace_of_isIndent hindent

theorem ofLine_closing {b : Text} (hb : Blank b) :
    Declaration.ofLine (b ++ (l.text ++ (b' ++ closing))) =
      .ok (if l.name = [] then .other else .column {
        name := l.name
        dataType := if l.words = [] ∧ b' = [] then lower (Column.dropCommas (l.type ++ closing))
          else lower (Column.dropCommas l.type)
        nullable := !Column.hasOption " NOT NULL" l.declaration
        autoIncrement := Column.hasOption " AUTO_INCREMENT" l.declaration }) := by
  have hnewline : '\n' ∉ b' ++ closing := by
    rw [List.mem_append, not_or]
    exact ⟨hb'.notMem (by decide), by decide⟩
  have htrim : IsTrimmed (l.declaration ++ (b' ++ closing)) := by
    have hclosing : IsTrimmed closing := isTrimmed_of_ends rfl rfl (by decide) (by decide)
    have hends := l.isTrimmed_declaration.around hclosing l.declaration_ne_nil (by decide) b'
    rwa [List.append_assoc] at hends
  rw [l.ofLine_append hb htrim hnewline, l.typeOf_closing hb',
    l.hasOption_closing hb' rfl rfl (by decide), l.hasOption_closing hb' rfl rfl (by decide)]

end

/-- What the line declares behind white space and in front of it. -/
theorem ofLine_blank (l : ColumnLine) {b b' : Text} (hb : Blank b) (hb' : Blank b') :
    Declaration.ofLine (b ++ (l.text ++ b')) = .ok (if l.name = [] then .other else .column {
      name := l.name
      dataType := lower (Column.dropCommas l.type)
      nullable := !Column.hasOption " NOT NULL" l.declaration
      autoIncrement := Column.hasOption " AUTO_INCREMENT" l.declaration }) := by
  have hread := l.ofLine_append hb (s := [])
    (by rw [List.append_nil]; exact l.isTrimmed_declaration) List.not_mem_nil
  rw [List.append_nil, List.append_nil, l.typeOf_declaration] at hread
  rw [← hread, ← Declaration.ofLine_trim, ← List.append_assoc, Text.trim_append_blank hb',
    Declaration.ofLine_trim]

end ColumnLine

/-- The lines of declarations: columns, keys that name their columns, and targets of keys. -/
inductive IsDeclarationLine : Text → Prop
  | column (c : ColumnLine) {b b' : Text} (hb : Blank b) (hb' : Block.IsIndent b') :
      IsDeclarationLine (b ++ (c.text ++ b'))
  | key {l : Text} {d : Declaration} (hl : Declaration.ofLine l = .ok d) (hd : d.IsKey) :
      IsDeclarationLine l
  | target {l : Text} {g : Target} (hl : Target.ofLine l = .ok (some g)) : IsDeclarationLine l

/-- Whether a line declares a column and ends with the type of it. -/
def EndsInType (l : Text) : Prop :=
  ∃ (c : ColumnLine) (b : Text), Blank b ∧ c.name ≠ [] ∧ c.words = [] ∧ b ++ c.text = l

theorem IsDeclarationLine.backtick_mem {l : Text} (h : IsDeclarationLine l) : backtick ∈ l := by
  cases h with
  | column c hb hb' => simp [ColumnLine.text, enquote]
  | key hl hd => exact Declaration.backtick_mem_of_isKey hl hd
  | target hl => exact Target.backtick_mem_of_ofLine hl

namespace Draft

/-- A declaration is taken up in the same way with the closing behind it, unless it is a column that
ends with its type. -/
theorem step_append_closing {d : Draft} {l : Text} (hl : IsDeclarationLine l)
    (hends : ¬ (EndsInType l ∧ d.waiting = none)) : d.step (l ++ closing) = d.step l := by
  have hs : Wordless closing := by decide
  cases hl with
  | key hl hd => exact d.step_key_append hs hl hd
  | target hl => exact d.step_target_append hs hl
  | @column c b b' hb hb' =>
    have hform : (b ++ (c.text ++ b')) ++ closing = b ++ (c.text ++ (b' ++ closing)) := by
      simp
    rw [hform]
    apply step_congr
    · intro hready
      rw [c.ofLine_closing hb' hb, c.ofLine_blank hb hb'.blank]
      by_cases hname : c.name = []
      · rw [if_pos hname, if_pos hname]
      · have hmore : ¬ (c.words = [] ∧ b' = []) := by
          rintro ⟨hwords, rfl⟩
          exact hends ⟨⟨c, b, hb, hname, hwords, by rw [List.append_nil]⟩, hready⟩
        rw [if_neg hmore]
    · have htick : ∀ x, c.text ++ x =
          backtick :: (c.name ++ backtick :: (c.gap ++ c.declaration) ++ x) := by
        intro x
        simp [ColumnLine.text, enquote]
      rw [htick, htick, Target.ofLine_of_backtick hb, Target.ofLine_of_backtick hb]

end Draft

/-- A column that ends with its type has another type with the closing behind it. -/
theorem EndsInType.ofLine_closing {l : Text} (h : EndsInType l) :
    ∃ c c' : Column, Declaration.ofLine (l ++ closing) = .ok (.column c) ∧
      Declaration.ofLine l = .ok (.column c') ∧ c.name = c'.name ∧ c.dataType ≠ c'.dataType := by
  obtain ⟨c, b, hb, hname, hwords, rfl⟩ := h
  have hlong := c.ofLine_closing .nil hb
  have hshort := c.ofLine_blank hb .nil
  rw [if_neg hname] at hlong hshort
  rw [if_pos ⟨hwords, rfl⟩, List.nil_append, ← List.append_assoc] at hlong
  rw [List.append_nil] at hshort
  exact ⟨_, _, hlong, hshort, rfl, Column.lower_closing_ne c.type⟩

theorem Table.dataType_of_declareColumn_eq {t : Table} {c c' : Column} (hname : c.name = c'.name)
    (h : t.declareColumn c = t.declareColumn c') : c.dataType = c'.dataType := by
  have htypes : t.types.insert c.name c.dataType = t.types.insert c'.name c'.dataType :=
    congrArg Table.types h
  have hlook := congrArg (·[c.name]?) htypes
  simpa [hname] using hlook

/-- The table is the same with the closing behind the last declaration, unless that is a column which
ends with its type and no foreign key in front of it hides. -/
theorem Draft.table_step_closing_iff {d : Draft} {l : Text} (hl : IsDeclarationLine l) :
    (d.step (l ++ closing)).map ([·.table]) = (d.step l).map ([·.table]) ↔
      ¬ (EndsInType l ∧ d.waiting = none) := by
  constructor
  · rintro htables ⟨hends, hready⟩
    obtain ⟨c, c', hlong, hshort, hname, htype⟩ := hends.ofLine_closing
    rw [step, step, hready, hlong, hshort] at htables
    have htable := List.cons.inj (Except.ok.inj htables)
    exact htype (Table.dataType_of_declareColumn_eq hname htable.1)
  · exact fun hends => by rw [step_append_closing hl hends]

/-- The closing may stand at the end of the last declaration or on a line of its own, unless the
declaration is a column that ends with its type, which no foreign key in front of it hides. -/
theorem tables_closing_iff {a l : Text} (hl : IsDeclarationLine l) (hnewline : '\n' ∉ l)
    (hstatement : Block.IsStatement (a ++ Text.below [l, closing])) :
    Script.tables (a ++ Text.below [l ++ closing]) = Script.tables (a ++ Text.below [l, closing]) ↔
      ¬ (EndsInType l ∧ ∃ d, Draft.ofFront a = .ok d ∧ d.waiting = none) := by
  have hclosing : '\n' ∉ closing := by decide
  have hlines : ∀ m ∈ [l, closing], '\n' ∉ m := by simp [hnewline, hclosing]
  have hline : ∀ m ∈ [l ++ closing], '\n' ∉ m := by simp [hnewline, hclosing]
  rw [Script.tables_below hline (Block.isStatement_below_closing hl.backtick_mem hstatement),
    Script.tables_below hlines hstatement]
  cases hd : Draft.ofFront a with
  | error e =>
    refine iff_of_true rfl ?_
    rintro ⟨-, d, h, -⟩
    cases h
  | ok d =>
    have hready : (∃ d', (.ok d : Except Error Draft) = .ok d' ∧ d'.waiting = none) ↔
        d.waiting = none := by simp
    show ([l ++ closing].foldlM Draft.step d).map _ = ([l, closing].foldlM Draft.step d).map _ ↔ _
    rw [Draft.foldlM_closing, Draft.foldlM_singleton, hready]
    exact Draft.table_step_closing_iff hl

/-- Behind a key the closing may stand on the same line. -/
theorem tables_closing_behind_key :
    Script.tables ("CREATE TABLE `t` (\n  `id` int,".toList ++
        Text.below ["  PRIMARY KEY (`id`)".toList ++ closing]) =
      Script.tables ("CREATE TABLE `t` (\n  `id` int,".toList ++
        Text.below ["  PRIMARY KEY (`id`)".toList, closing]) ∧
      ∃ t, Script.tables ("CREATE TABLE `t` (\n  `id` int,".toList ++
          Text.below ["  PRIMARY KEY (`id`)".toList ++ closing]) = .ok [t] ∧
        t.primaryKey = ["id".toList] := by
  have hkey : Declaration.ofLine "  PRIMARY KEY (`id`)".toList = .ok (.primaryKey ["id".toList]) := by
    decide +kernel
  have hstatement : Block.IsStatement ("CREATE TABLE `t` (\n  `id` int,".toList ++
      Text.below ["  PRIMARY KEY (`id`)".toList, closing]) := by
    unfold Block.IsStatement
    decide +kernel
  have htable : (Script.tables ("CREATE TABLE `t` (\n  `id` int,".toList ++
      Text.below ["  PRIMARY KEY (`id`)".toList, closing])).map (·.map Table.primaryKey) =
        .ok [["id".toList]] := by
    decide +kernel
  have hno : ¬ EndsInType "  PRIMARY KEY (`id`)".toList := by
    intro hends
    obtain ⟨-, c, -, hcolumn, -⟩ := hends.ofLine_closing
    rw [hkey] at hcolumn
    cases hcolumn
  have hsame := (tables_closing_iff (.key hkey trivial) (by decide +kernel) hstatement).mpr
    fun h => hno h.1
  obtain ⟨t, ht, hprimary⟩ := exists_singleton_of_map_ok htable
  exact ⟨hsame, t, hsame.trans ht, hprimary⟩

/-- Behind a type the closing is part of the type. -/
theorem tables_closing_in_type :
    (Script.tables "CREATE TABLE `t` (\n  `id` int);".toList).map (·.map Table.columns) =
        .ok [[("id".toList, "int);".toList, true)]] ∧
      (Script.tables "CREATE TABLE `t` (\n  `id` int\n);".toList).map (·.map Table.columns) =
        .ok [[("id".toList, "int".toList, true)]] := by
  constructor <;> decide +kernel

end SqlOutline
