import SqlOutline.Proofs.ErrorFlow
import SqlOutline.Proofs.LocalChange
import SqlOutline.Proofs.WrittenLine

/-!
Foreign keys on one line and on two.

The target of a foreign key may stand on the line of its column or on the next one. Both forms say
the same (`foreignKey_on_two_lines`), also when the target is faulty. A column whose name holds the
word REFERENCES is taken for the front of a target in both, and no target can be read from its rest.
-/

namespace SqlOutline
open Unicode

theorem endsWord_trimEnd {x : Text} (hx : endsWord x = true) :
    endsWord (Text.trimEnd x) = true := by
  obtain ⟨⟨g, hg, -⟩, -⟩ := Text.trimEnd_split x
  cases hend : Text.trimEnd x with
  | nil => rfl
  | cons c t =>
    rw [← hg, hend] at hx
    exact hx

theorem getLast?_of_suffix_cons {d e : Char} {w x : Text} (h : d :: w <:+ x)
    (hx : x.getLast? = some e) (hne : d ≠ e) : w.getLast? = some e := by
  obtain ⟨q, rfl⟩ := h
  rw [List.getLast?_append_of_ne_nil _ (List.cons_ne_nil _ _)] at hx
  cases w with
  | nil => exact absurd (Option.some.inj hx) hne
  | cons b w =>
    rwa [List.getLast?_cons_cons] at hx

theorem Target.kind_ofSegment {t : Text} {e : Error} (h : ofSegment t = .error e) :
    e.kind = .noLiteralFound := by
  unfold ofSegment at h
  split at h
  · obtain rfl := Except.error.inj h
    rfl
  · obtain rfl := Except.error.inj h
    rfl
  · cases h
  · cases h

namespace Keyword
variable {k : Keyword} (hk : k.Plain)
include hk

/-- What is found in front of a character that no spelling has is found with more behind it. -/
theorem findWhole?_append_cons {x : Char} (hx : ∀ f, k.Spells f → x ∉ f)
    (hword : isWordChar x = false) {u : Text} {inWord : Bool} {o : Occurrence}
    (hu : k.findWhole? inWord u = some o) (s : Text) :
    k.findWhole? inWord (u ++ x :: s) = some { o with after := o.after ++ x :: s } := by
  induction u generalizing inWord o with
  | nil => cases hu
  | cons c u ih =>
    rw [findWhole?] at hu
    rw [List.cons_append, findWhole?]
    cases hread : (if inWord = true then none else k.readWhole (c :: u)) with
    | some p =>
      rw [hread] at hu
      obtain rfl := Option.some.inj hu
      cases inWord with
      | true => cases hread
      | false =>
        obtain ⟨hform, hf, hend⟩ := (readWhole_eq_some_iff hk).mp hread
        have hend' : endsWord (p.2 ++ x :: s) = true := by
          cases hp : p.2 with
          | nil => simp [endsWord, hword]
          | cons d r =>
            rw [hp] at hend
            exact hend
        have hread' : k.readWhole (c :: (u ++ x :: s)) = some (p.1, p.2 ++ x :: s) := by
          apply (readWhole_eq_some_iff hk).mpr
          exact ⟨by rw [← List.append_assoc, hform, List.cons_append], hf, hend'⟩
        rw [if_neg Bool.false_ne_true, hread']
    | none =>
      rw [hread] at hu
      obtain ⟨o', ho', rfl⟩ := Option.map_eq_some_iff.mp hu
      have hread' : (if inWord = true then none else k.readWhole (c :: (u ++ x :: s))) = none := by
        cases inWord with
        | true => rfl
        | false => exact readWhole_append_cons_eq_none hk hx hread s
      rw [hread', ih ho']
      rfl

end Keyword

namespace ForeignKey

/-- The line of a foreign key with the column `c`, which has no target on it. -/
def columnLine (c : Text) : Text := "FOREIGN KEY".toList ++ (" (".toList ++ (enquote c ++ [')']))

/-- A target that is told by `x`. -/
def targetLine (x : Text) : Text := "REFERENCES".toList ++ x

/-- The line of a column with its target behind it. -/
def line (c x : Text) : Text := columnLine c ++ ' ' :: targetLine x

/-- A statement that has a foreign key behind the lines `a` and in front of `z`; `sep` stands
between its column and its target. -/
def statement (sep : Char) (a c x z : Text) : Text :=
  a ++ '\n' :: (columnLine c ++ sep :: (targetLine x ++ z))

end ForeignKey

/-- The text is one statement from its first character to its last. -/
def Block.IsStatement (t : Text) : Prop := Block.read t = some (t, [])

theorem Script.tables_of_isStatement {t : Text} (h : Block.IsStatement t) :
    tables t = Table.ofBlock t >>= fun r => .ok [r] := by
  rw [tables, Block.all, Block.allFrom_of_read h, Block.allFrom_nil, List.mapM_cons]
  rfl

/-- The one table of a statement is what has been read when its lines are all taken up. -/
theorem Script.tables_statement {t : Text} (h : Block.IsStatement t) :
    tables t = Draft.ofFront t >>= fun d => .ok [d.table] := by
  rw [tables_of_isStatement h, Table.ofBlock]
  cases Draft.ofFront t <;> rfl

namespace Declaration

/-- Where the column of a foreign key holds the keyword of targets, the line is faulty. -/
theorem foreignKeyOf_keyword_in_column {c : Text} (hc : backtick ∉ c) {o : Occurrence}
    (ho : Target.keyword.findWhole? false c = some o) (s : Text) :
    ∃ e, foreignKeyOf (" (".toList ++ (enquote c ++ s)) = .error e ∧ e.kind = .noLiteralFound := by
  have htick : isWordChar backtick = false := by decide
  have hx : ∀ f, Target.keyword.Spells f → backtick ∉ f := by
    intro f hf hmem
    rw [Target.isWordChar_of_keyword hf _ hmem] at htick
    exact Bool.false_ne_true htick.symm
  have hfront : Target.keyword.findWhole? false " (".toList = none := by decide
  have hfind : Target.keyword.findWhole? false (" (".toList ++ (enquote c ++ s)) =
      some ⟨" (".toList ++ [backtick] ++ o.before, o.found, o.after ++ backtick :: s⟩ := by
    have hform : " (".toList ++ (enquote c ++ s) =
        " (".toList ++ backtick :: (c ++ backtick :: s) := by
      simp [enquote]
    rw [hform, Keyword.findWhole?_skip Target.keyword_plain hx htick hfront,
      Keyword.findWhole?_append_cons Target.keyword_plain hx htick ho]
    rfl
  have hlocal : backtick ∉ o.before := by
    intro hmem
    apply hc
    rw [← Keyword.text_of_findWhole? ho, Occurrence.text]
    simp [hmem]
  have hname : requiredName (" (".toList ++ [backtick] ++ o.before) = .error (.noLiteral
      (Text.trim (" (".toList ++ [backtick] ++ o.before))) := by
    have hcount : (" (".toList ++ [backtick] ++ o.before).count backtick ≤ 1 := by
      rw [List.count_append, List.count_eq_zero.mpr hlocal]
      decide
    rw [requiredName, Cut.ofText_of_count_le hcount]
    rfl
  simp only [foreignKeyOf, hfind]
  cases htarget : Target.ofSegment (o.after ++ backtick :: s) with
  | error e => exact ⟨e, rfl, Target.kind_ofSegment htarget⟩
  | ok target =>
    rw [hname]
    exact ⟨_, rfl, rfl⟩

theorem lists_column (c : Text) {r : Text} (hr : Separators r) :
    Lists [c] (" (".toList ++ (enquote c ++ r)) :=
  .cons (by decide) (.nil hr) c

end Declaration

namespace ForeignKey

theorem newline_notMem_columnLine {c : Text} (hc : '\n' ∉ c) : '\n' ∉ columnLine c := by
  have hkey : '\n' ∉ "FOREIGN KEY".toList := by decide
  have hopen : '\n' ∉ " (".toList := by decide
  have htick : '\n' ≠ backtick := by decide
  have hclose : '\n' ≠ ')' := by decide
  unfold columnLine enquote
  simp only [List.mem_append, List.mem_cons, List.not_mem_nil, or_false, not_or]
  exact ⟨hkey, hopen, ⟨⟨htick, hc⟩, htick⟩, hclose⟩

theorem isTrimmed_columnLine (c : Text) : IsTrimmed (columnLine c) := by
  have hback : (columnLine c).getLast? = some ')' := by
    unfold columnLine
    rw [← List.append_assoc, ← List.append_assoc]
    exact List.getLast?_concat
  exact isTrimmed_of_ends rfl hback (by decide) (by decide)

theorem trim_line (c x : Text) : Text.trim (line c x) = line c (Text.trimEnd x) := by
  have htrim : IsTrimmed (columnLine c ++ ' ' :: "REFERENCES".toList) := by
    have hback : (columnLine c ++ ' ' :: "REFERENCES".toList).getLast? = some 'S' := by
      rw [List.getLast?_append_of_ne_nil _ (List.cons_ne_nil _ _)]
      rfl
    exact isTrimmed_of_ends rfl hback (by decide) (by decide)
  have hform : ∀ y, line c y = columnLine c ++ ' ' :: "REFERENCES".toList ++ y := by
    intro y
    unfold line targetLine
    rw [List.append_assoc, List.cons_append]
  rw [hform, hform]
  exact Text.trim_append_of_trimmed .nil (by simp) htrim x

theorem trim_targetLine (x : Text) :
    Text.trim (targetLine x) = targetLine (Text.trimEnd x) := by
  have htrim : IsTrimmed "REFERENCES".toList :=
    isTrimmed_of_ends rfl rfl (by decide) (by decide)
  exact Text.trim_append_of_trimmed .nil (by decide) htrim x

/-- The line of a column waits for a target, or is faulty when the column holds the keyword of
targets. With a target on it the line is the foreign key, or as faulty as the target is. -/
theorem ofLine_cases {c x : Text} (hc : backtick ∉ c) (hx : endsWord x = true)
    (htrim : IsTrimmed (line c x)) :
    (Declaration.ofLine (columnLine c) = .ok (.foreignKey c none) ∧
        Declaration.ofLine (line c x) =
          (Target.ofSegment x).map fun target => .foreignKey c (some target)) ∨
      ∃ e e', Declaration.ofLine (columnLine c) = .error e ∧
        Declaration.ofLine (line c x) = .error e' ∧ e.kind = e'.kind := by
  have hform : line c x = [] ++ ("FOREIGN KEY".toList ++
      (" (".toList ++ (enquote c ++ ([')', ' '] ++ targetLine x)))) := by
    unfold line columnLine
    simp only [List.append_assoc, List.cons_append, List.nil_append]
  have hcolumn : Declaration.ofLine (columnLine c) =
      Declaration.foreignKeyOf (" (".toList ++ (enquote c ++ [')'])) := by
    have htrim := isTrimmed_columnLine c
    unfold columnLine at htrim ⊢
    exact Declaration.ofLine_foreignKeyword (p := []) (.inl rfl) rfl htrim
  have hline : Declaration.ofLine (line c x) =
      Declaration.foreignKeyOf (" (".toList ++ (enquote c ++ ([')', ' '] ++ targetLine x))) := by
    rw [hform] at htrim ⊢
    exact Declaration.ofLine_foreignKeyword (.inl rfl) rfl htrim
  rw [hcolumn, hline]
  cases hword : Target.keyword.findWhole? false c with
  | none =>
    left
    have hform : " (".toList ++ (enquote c ++ ([')', ' '] ++ targetLine x)) =
        " (".toList ++ (enquote c ++ [')', ' ']) ++ targetLine x := by
      rw [List.append_assoc, List.append_assoc]
    rw [hform]
    have htick : ∀ n ∈ [c], backtick ∉ n := List.forall_mem_singleton.mpr hc
    have hkey : ∀ n ∈ [c], Target.keyword.findWhole? false n = none :=
      List.forall_mem_singleton.mpr hword
    exact ⟨Declaration.foreignKeyOf_alone (Declaration.lists_column c (by decide)) htick hkey,
      Declaration.foreignKeyOf_inline (Declaration.lists_column c (by decide)) htick hkey hx⟩
  | some o =>
    right
    obtain ⟨e, he, hkind⟩ := Declaration.foreignKeyOf_keyword_in_column hc hword [')']
    obtain ⟨e', he', hkind'⟩ := Declaration.foreignKeyOf_keyword_in_column hc hword
      ([')', ' '] ++ targetLine x)
    exact ⟨e, e', he, he', hkind.trans hkind'.symm⟩

theorem bodyLines_singleton {l : Text} (hne : Text.trim l ≠ []) :
    bodyLines [l] = [Text.trim l] := by
  rw [bodyLines, List.map_singleton, List.filter_singleton]
  cases h : Text.trim l with
  | nil => exact absurd h hne
  | cons c t => rfl

/-- Taking up a foreign key does the same in both forms. -/
theorem foldlM_step_eq {c x : Text} (hc : backtick ∉ c) (hx : endsWord x = true)
    {d : Draft} (hd : d.waiting = none) :
    ((bodyLines [line c x]).foldlM Draft.step d).mapError Error.kind =
      ((bodyLines [columnLine c, targetLine x]).foldlM Draft.step d).mapError Error.kind := by
  have hend := endsWord_trimEnd hx
  have hline := Text.isTrimmed_trim (line c x)
  have htarget := Text.isTrimmed_trim (targetLine x)
  rw [trim_line] at hline
  rw [trim_targetLine] at htarget
  have hnext : Target.ofLine (targetLine (Text.trimEnd x)) =
      (Target.ofSegment (Text.trimEnd x)).map some :=
    Declaration.ofLine_references hend htarget
  have hone : bodyLines [line c x] = [line c (Text.trimEnd x)] := by
    rw [bodyLines_singleton, trim_line]
    rw [trim_line]
    exact List.cons_ne_nil _ _
  have htwo : bodyLines [columnLine c, targetLine x] =
      [columnLine c, targetLine (Text.trimEnd x)] := by
    have hcolumn := Text.trim_of_isTrimmed (isTrimmed_columnLine c)
    rw [← List.singleton_append, bodyLines_append, bodyLines_singleton, bodyLines_singleton,
      hcolumn, trim_targetLine]
    · rfl
    · rw [trim_targetLine]
      exact List.cons_ne_nil _ _
    · rw [hcolumn]
      exact List.cons_ne_nil _ _
  obtain ⟨table, waiting⟩ := d
  obtain rfl : waiting = none := hd
  rw [hone, htwo]
  simp only [List.foldlM_cons, List.foldlM_nil, Draft.step]
  obtain ⟨hcolumn, hboth⟩ | ⟨e, e', he, he', hkind⟩ := ofLine_cases hc hend hline
  · rw [hcolumn, hboth]
    show _ = (Draft.step ⟨table, some c⟩ (targetLine (Text.trimEnd x)) >>= _).mapError Error.kind
    rw [Draft.step, hnext]
    cases Target.ofSegment (Text.trimEnd x) with
    | error e => rfl
    | ok target => rfl
  · rw [he, he']
    exact congrArg Except.error hkind.symm

/-- The first line of a text is cut off by its line break. -/
theorem splitOn_line {l z : Text} (hl : '\n' ∉ l) (hz : Block.atLineEnd z = true) :
    (l ++ z).splitOn '\n' = l :: (z.splitOn '\n').tail := by
  rcases Block.atLineEnd_cases hz with rfl | ⟨t, rfl⟩
  · rw [List.append_nil, List.splitOn_eq_singleton hl]
    rfl
  · rw [List.splitOn_append_cons_self_of_not_mem hl]
    rfl

variable {a c x z : Text} (hc : backtick ∉ c) (hcline : '\n' ∉ c) (hx : endsWord x = true)
  (hxline : '\n' ∉ x) (hz : Block.atLineEnd z = true)
include hc hcline hx hxline hz

theorem ofFront_statement_eq (hready : ∀ d, Draft.ofFront a = .ok d → d.waiting = none) :
    (Draft.ofFront (statement ' ' a c x z)).mapError Error.kind =
      (Draft.ofFront (statement '\n' a c x z)).mapError Error.kind := by
  have hcolumn := newline_notMem_columnLine hcline
  have htarget : '\n' ∉ targetLine x := by
    have hkey : '\n' ∉ "REFERENCES".toList := by decide
    unfold targetLine
    exact fun h => (List.mem_append.mp h).elim hkey hxline
  have hline : '\n' ∉ line c x := by
    unfold line
    intro h
    rcases List.mem_append.mp h with h | h
    · exact hcolumn h
    · exact htarget ((List.mem_cons.mp h).resolve_left (by decide))
  have hone : (columnLine c ++ ' ' :: (targetLine x ++ z)).splitOn '\n' =
      [line c x] ++ (z.splitOn '\n').tail := by
    rw [← List.cons_append, ← List.append_assoc]
    exact splitOn_line hline hz
  have htwo : (columnLine c ++ '\n' :: (targetLine x ++ z)).splitOn '\n' =
      [columnLine c, targetLine x] ++ (z.splitOn '\n').tail := by
    rw [List.splitOn_append_cons_self_of_not_mem hcolumn, splitOn_line htarget hz]
    rfl
  unfold statement
  rw [Draft.ofFront_append, Draft.ofFront_append, hone, htwo]
  cases hd : Draft.ofFront a with
  | error e => rfl
  | ok d =>
    show (List.foldlM Draft.step d _).mapError _ = (List.foldlM Draft.step d _).mapError _
    rw [bodyLines_append, bodyLines_append, List.foldlM_append, List.foldlM_append]
    exact mapError_bind_congr (foldlM_step_eq hc hx (hready d hd)) _

omit hc hcline hx hxline hz in
/-- A blank and a line break behind a column are read over in the same way. -/
theorem read_alongside (a c y : Text) :
    Reader.Alongside (a ++ '\n' :: columnLine c) [' '] ['\n'] y
      (Block.read ((a ++ '\n' :: columnLine c) ++ ([' '] ++ y)))
      (Block.read ((a ++ '\n' :: columnLine c) ++ (['\n'] ++ y))) := by
  have hlast : (a ++ '\n' :: columnLine c).getLast? = some ')' := by
    rw [List.getLast?_append_of_ne_nil _ (List.cons_ne_nil _ _)]
    unfold columnLine
    rw [← List.append_assoc, ← List.append_assoc, ← List.cons_append]
    exact List.getLast?_concat
  generalize a ++ '\n' :: columnLine c = x at hlast ⊢
  -- The parenthesis in front of the difference ends the keyword and belongs to no end of a line.
  apply Block.read_alongside_of_mem (List.mem_of_getLast? hlast) (by decide) (by decide) (by decide)
  · intro w hw
    have hwlast : w.getLast? = some ')' := getLast?_of_suffix_cons hw hlast (by decide)
    apply Reader.Alongside.of_ignores Block.readLineEnd_faithful
    apply Block.readLineEnd_ignores_of_last
    · intro hnil
      have hindent := List.dropWhile_eq_nil_iff.mp hnil ')' (List.mem_of_getLast? hwlast)
      exact absurd hindent (by decide)
    · rw [hwlast]
      decide
  · have hblank := Block.readToEnd_cons (c := ' ') (by decide) y
    have hbreak := Block.readToEnd_cons (c := '\n') (by decide) y
    rw [List.singleton_append, List.singleton_append, hblank, hbreak]
    cases hend : Block.readToEnd y with
    | none => exact .none
    | some p => exact .behind (Block.readToEnd_faithful hend)

omit hc hcline hx hxline hz in
theorem isStatement_iff (a c x z : Text) :
    Block.IsStatement (statement ' ' a c x z) ↔ Block.IsStatement (statement '\n' a c x z) := by
  have hform : ∀ sep, statement sep a c x z =
      (a ++ '\n' :: columnLine c) ++ ([sep] ++ (targetLine x ++ z)) := by
    intro sep
    unfold statement
    rw [List.append_assoc, List.cons_append, List.singleton_append]
  unfold Block.IsStatement
  rw [hform, hform]
  exact (read_alongside a c _).whole_iff (by simp) (by simp)

end ForeignKey

/-- A foreign key means the same on one line and on two, or is faulty in the same way. In front of
it no foreign key waits for its target. -/
theorem foreignKey_on_two_lines {a c x z : Text} (hc : backtick ∉ c) (hcline : '\n' ∉ c)
    (hx : endsWord x = true) (hxline : '\n' ∉ x) (hz : Block.atLineEnd z = true)
    (hready : ∀ d, Draft.ofFront a = .ok d → d.waiting = none)
    (hstatement : Block.IsStatement (ForeignKey.statement ' ' a c x z) ∨
      Block.IsStatement (ForeignKey.statement '\n' a c x z)) :
    (Script.tables (ForeignKey.statement ' ' a c x z)).mapError Error.kind =
      (Script.tables (ForeignKey.statement '\n' a c x z)).mapError Error.kind := by
  have hiff := ForeignKey.isStatement_iff a c x z
  have hone := hstatement.elim id hiff.mpr
  rw [Script.tables_statement hone, Script.tables_statement (hiff.mp hone)]
  exact mapError_bind_congr (ForeignKey.ofFront_statement_eq hc hcline hx hxline hz hready) _

/-- The two forms are alike where the column is called after the keyword of targets, and where it has
its target in both. -/
theorem foreignKey_on_two_lines_of_references :
    (Block.IsStatement (ForeignKey.statement ' ' "CREATE TABLE t (\n`k` int,".toList
        "the references".toList " `u` (`i`),".toList "\n);".toList) ∧
      (Script.tables (ForeignKey.statement ' ' "CREATE TABLE t (\n`k` int,".toList
        "the references".toList " `u` (`i`),".toList "\n);".toList)).mapError Error.kind =
      (Script.tables (ForeignKey.statement '\n' "CREATE TABLE t (\n`k` int,".toList
        "the references".toList " `u` (`i`),".toList "\n);".toList)).mapError Error.kind) ∧
    Block.IsStatement (ForeignKey.statement ' ' "CREATE TABLE t (\n`k` int,".toList
        "k".toList " `u` (`i`),".toList "\n);".toList) ∧
      ∃ t, Script.tables (ForeignKey.statement ' ' "CREATE TABLE t (\n`k` int,".toList
          "k".toList " `u` (`i`),".toList "\n);".toList) = .ok [t] ∧
        Script.tables (ForeignKey.statement '\n' "CREATE TABLE t (\n`k` int,".toList
          "k".toList " `u` (`i`),".toList "\n);".toList) = .ok [t] ∧
        t.foreignKeys[['k']]? = some ⟨none, ['u'], ['i']⟩ := by
  have hready : ∀ d, Draft.ofFront "CREATE TABLE t (\n`k` int,".toList = .ok d →
      d.waiting = none :=
    forall_of_map_ok (b := none) (by decide +kernel)
  constructor
  · have hstatement : Block.IsStatement (ForeignKey.statement ' '
        "CREATE TABLE t (\n`k` int,".toList "the references".toList " `u` (`i`),".toList
        "\n);".toList) := by
      unfold Block.IsStatement
      decide +kernel
    exact ⟨hstatement, foreignKey_on_two_lines (by decide) (by decide) (by decide) (by decide)
      (by decide) hready (.inl hstatement)⟩
  · have hstatement : Block.IsStatement (ForeignKey.statement ' '
        "CREATE TABLE t (\n`k` int,".toList "k".toList " `u` (`i`),".toList "\n);".toList) := by
      unfold Block.IsStatement
      decide +kernel
    have hsame := foreignKey_on_two_lines (c := "k".toList) (by decide) (by decide) (by decide)
      (by decide) (by decide) hready (.inl hstatement)
    have htarget : (Script.tables (ForeignKey.statement ' ' "CREATE TABLE t (\n`k` int,".toList
        "k".toList " `u` (`i`),".toList "\n);".toList)).map (·.map (·.foreignKeys[['k']]?)) =
          .ok [some ⟨none, ['u'], ['i']⟩] := by
      decide +kernel
    obtain ⟨t, hone, ht⟩ := exists_singleton_of_map_ok htarget
    rw [hone] at hsame
    exact ⟨hstatement, t, hone, mapError_eq_ok_iff.mp hsame.symm, ht⟩

end SqlOutline
