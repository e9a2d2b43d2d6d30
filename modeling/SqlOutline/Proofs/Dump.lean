import SqlOutline.Proofs.WrittenScript

/-!
Dumps of tables, and reading them back.

A dump has a statement for each table: its head line, one line for each column, key and foreign key,
all but the last with a comma behind, and `);`. It is one of the ways to write the tables, and all
of them read back (`tables_written`).
-/

namespace SqlOutline
open Unicode

/-- Names with commas in between, all of them in parentheses. -/
def parenthesized (names : List Text) : Text :=
  '(' :: ([','].intercalate (names.map enquote) ++ [')'])

theorem lists_parenthesized {r e : Text} (he : Separators e) (names : List Text)
    (hr : Separators r) : Lists names (r ++ (parenthesized names ++ e)) := by
  have hcomma : Separators [','] := by decide
  exact lists_enlist hcomma he names hr

@[simp] theorem getLast?_parenthesized (names : List Text) :
    (parenthesized names).getLast? = some ')' :=
  getLast?_enlist [','] names

/-- A target as it is dumped: its table, and its column in parentheses. -/
def Target.dump (g : Target) : Text :=
  (TableName.mk g.database g.table).written ++ ' ' :: parenthesized [g.column]

theorem Target.lists_dump (g : Target) {e : Text} (he : Separators e) :
    Lists g.names (' ' :: (g.dump ++ e)) := by
  have hcolumn : Lists [g.column] (' ' :: (parenthesized [g.column] ++ e)) :=
    lists_parenthesized (r := [' ']) he _ (by decide)
  have hlist := TableName.lists_written (r := [' ']) (by decide) ⟨g.database, g.table⟩ hcolumn
  simpa [dump, names] using hlist

theorem Column.isTrimmed_written (c : Column) (hτ : IsType c.dataType) : IsTrimmed c.written := by
  have htick : isWhiteSpace backtick = false := by decide
  have hoptions : c.options.getLast?.all (!isWhiteSpace ·) = true := by
    unfold options
    cases c.nullable <;> cases c.autoIncrement <;> decide
  have hform : c.written = (enquote c.name ++ [' ']) ++ (c.dataType ++ c.options) := by
    simp [written]
  have hne : c.dataType ++ c.options ≠ [] := by simp [hτ.ne_nil]
  refine ⟨by simp [written, enquote, htick], fun x hx => ?_⟩
  rw [hform, List.getLast?_append_of_ne_nil _ hne, List.getLast?_append] at hx
  rcases Option.or_eq_some_iff.mp hx with hin | ⟨-, hin⟩
  · simpa [hin] using hoptions
  · exact last_not_isWhiteSpace hτ.enclosed hτ.balanced x hin

theorem Column.newline_notMem_written (c : Column) (hname : '\n' ∉ c.name)
    (hτ : IsType c.dataType) : '\n' ∉ c.written := by
  have hoptions : '\n' ∉ c.options := by
    unfold options
    cases c.nullable <;> cases c.autoIncrement <;> decide
  simp [written, hname, hτ.newline_notMem, hoptions]

namespace Declaration

/-- A keyword with a list behind it. -/
def keyLine (keyword : String) (list : Text) : Text := keyword.toList ++ ' ' :: list

/-- The line that a dump has for a declaration. A unique index goes by the name of its first
column. -/
def dumpLine : Declaration → Text
  | .primaryKey columns => keyLine "PRIMARY KEY" (parenthesized columns)
  | .uniqueIndex columns =>
    keyLine "UNIQUE KEY" (enquote (columns.headD []) ++ ' ' :: parenthesized columns)
  | .foreignKey key (some target) =>
    keyLine "FOREIGN KEY" (parenthesized [key] ++ ' ' :: keyLine "REFERENCES" target.dump)
  | .foreignKey key none => keyLine "FOREIGN KEY" (parenthesized [key])
  | .column c => c.written
  | .other => []

theorem written_dumpLine {d : Declaration} (hw : d.Writable) {e : Text} (he : e = [] ∨ e = [',']) :
    Written d [d.dumpLine ++ e] := by
  have hcomma : Separators e := by rcases he with rfl | rfl <;> decide
  have hspace : Separators [' '] := by decide
  have hfront : IsConstraint [] := .inl rfl
  cases d with
  | primaryKey columns =>
    have hform : (primaryKey columns).dumpLine ++ e =
        [] ++ ("PRIMARY KEY".toList ++ ([' '] ++ (parenthesized columns ++ e))) := by
      simp [dumpLine, keyLine]
    rw [hform]
    exact .primaryKey hfront (lists_parenthesized hcomma _ hspace)
  | uniqueIndex columns =>
    have hindex : backtick ∉ columns.headD [] := by
      cases columns with
      | nil => simp
      | cons n columns => exact (hw n (by simp)).backtick_notMem
    have hform : (uniqueIndex columns).dumpLine ++ e = [] ++ ("UNIQUE KEY".toList ++
        ([' '] ++ (enquote (columns.headD []) ++ ([' '] ++ (parenthesized columns ++ e))))) := by
      simp [dumpLine, keyLine]
    rw [hform]
    exact .uniqueIndex hfront (.inl rfl) hindex
      ((lists_parenthesized hcomma _ hspace).cons hspace _)
  | foreignKey key target =>
    cases target with
    | none => exact hw.elim
    | some g =>
      have hform : (foreignKey key (some g)).dumpLine ++ e =
          [] ++ ("FOREIGN KEY".toList ++ (([' '] ++ (parenthesized [key] ++ [' '])) ++
            ("REFERENCES".toList ++ (' ' :: (g.dump ++ e))))) := by
        simp [dumpLine, keyLine]
      rw [hform]
      exact .foreignKey hfront (lists_parenthesized hspace _ hspace) (g.lists_dump hcomma)
  | column c => exact .column he
  | other => exact hw.elim

theorem isTrimmed_dumpLine {d : Declaration} (hw : d.Writable) : IsTrimmed d.dumpLine := by
  have hclose : isWhiteSpace ')' = false := by decide
  cases d with
  | primaryKey columns =>
    have hfront : isWhiteSpace 'P' = false := by decide
    exact ⟨by simp [dumpLine, keyLine, hfront],
      by simp [dumpLine, keyLine, List.getLast?_cons, hclose]⟩
  | uniqueIndex columns =>
    have hfront : isWhiteSpace 'U' = false := by decide
    exact ⟨by simp [dumpLine, keyLine, hfront],
      by simp [dumpLine, keyLine, List.getLast?_cons, hclose]⟩
  | foreignKey key target =>
    have hfront : isWhiteSpace 'F' = false := by decide
    cases target with
    | none => exact hw.elim
    | some g =>
      exact ⟨by simp [dumpLine, keyLine, hfront],
        by simp [dumpLine, keyLine, Target.dump, List.getLast?_cons, hclose]⟩
  | column c => exact c.isTrimmed_written hw.2
  | other => exact hw.elim

theorem newline_notMem_dumpLine {d : Declaration} (hw : d.Writable) : '\n' ∉ d.dumpLine := by
  have parenthesized_line : ∀ names : List Text, (∀ n ∈ names, IsName n) →
      '\n' ∉ parenthesized names := by
    intro names hnames
    have hlist := lists_parenthesized (r := []) (e := []) (by decide) names (by decide)
    simpa using hlist.newline_notMem fun n hn => (hnames n hn).newline_notMem
  cases d with
  | primaryKey columns => simp [dumpLine, keyLine, parenthesized_line columns hw.2]
  | uniqueIndex columns =>
    have hindex : '\n' ∉ columns.headD [] := by
      cases columns with
      | nil => simp
      | cons n columns => exact (hw n (by simp)).newline_notMem
    simp only [List.headD_eq_head?_getD] at hindex
    simp [dumpLine, keyLine, parenthesized_line columns hw, hindex]
  | foreignKey key target =>
    cases target with
    | none => exact hw.elim
    | some g =>
      have hkey := parenthesized_line [key] (by simpa using hw.1 key (by simp))
      have htarget : '\n' ∉ ' ' :: (g.dump ++ []) :=
        (g.lists_dump (e := []) (by decide)).newline_notMem fun n hn =>
          (hw.1 n (List.mem_cons_of_mem key hn)).newline_notMem
      have htarget' : '\n' ∉ g.dump := by simpa using htarget
      simp [dumpLine, keyLine, hkey, htarget']
  | column c => exact c.newline_notMem_written hw.1.newline_notMem hw.2
  | other => exact hw.elim

/-- The lines of a dump for some declarations, all but the last with a comma behind. -/
def dumpLines : List Declaration → List Text
  | [] => []
  | [d] => [d.dumpLine]
  | d :: e :: ds => (d.dumpLine ++ [',']) :: dumpLines (e :: ds)

theorem forall₂_dumpLines (ds : List Declaration) :
    List.Forall₂ (fun d l => ∃ e, (e = [] ∨ e = [',']) ∧ d.dumpLine ++ e = l) ds
      (dumpLines ds) := by
  fun_induction dumpLines ds with
  | case1 => exact .nil
  | case2 d => exact .cons ⟨[], .inl rfl, by simp⟩ .nil
  | case3 d e ds ih => exact .cons ⟨[','], .inr rfl, rfl⟩ ih

theorem written_dumpLines {ds : List Declaration} (hw : ∀ d ∈ ds, d.Writable) :
    List.Forall₂ Written ds ((dumpLines ds).map ([·])) := by
  rw [List.forall₂_map_right_iff]
  have hlines := forall₂_dumpLines ds
  generalize dumpLines ds = ls at hlines
  induction hlines with
  | nil => exact .nil
  | cons hl _ ih =>
    obtain ⟨hd, hds⟩ := List.forall_mem_cons.mp hw
    obtain ⟨e, he, rfl⟩ := hl
    exact .cons (written_dumpLine hd he) (ih hds)

theorem dumpLines_oneLine {ds : List Declaration} (hw : ∀ d ∈ ds, d.Writable) :
    ∀ l ∈ dumpLines ds, IsTrimmed l ∧ '\n' ∉ l := by
  refine forall_of_forall₂ (forall₂_dumpLines ds) fun d hd l hl => ?_
  obtain ⟨e, he, rfl⟩ := hl
  have htrim := isTrimmed_dumpLine (hw d hd)
  have hline := newline_notMem_dumpLine (hw d hd)
  rcases he with rfl | rfl
  · rw [List.append_nil]
    exact ⟨htrim, hline⟩
  · have hcomma : isWhiteSpace ',' = false := by decide
    refine ⟨⟨?_, by simp [hcomma]⟩, by simp [hline]⟩
    cases hdump : d.dumpLine with
    | nil => simp [hcomma]
    | cons c t => simpa [hdump] using htrim.front

end Declaration

/-- The statement that a dump has for a table. -/
def Table.dump (t : Table) : Text :=
  Text.ofLines (("CREATE TABLE ".toList ++ (t.name.written ++ " (".toList)) ::
    (Declaration.dumpLines (t.declarations t.foreignKeys.toList)).map ([' ', ' '] ++ ·)) [')', ';']

theorem Table.writes_dump {t : Table} (hw : t.Writable) : t.Writes t.dump := by
  have hkeys : t.ListsForeignKeys t.foreignKeys.toList := fun n target =>
    Std.ExtTreeMap.mem_toList_iff_getElem?_eq_some
  have hds := hw.declarations hkeys
  have hclose : IsClosing [')', ';'] :=
    ⟨by decide, ⟨[';'], by decide⟩, ⟨[')'], [], [], rfl, by simp, .inl rfl⟩⟩
  have hwritten := Declaration.written_dumpLines hds
  have hline := Declaration.dumpLines_oneLine hds
  rw [dump]
  generalize Declaration.dumpLines (t.declarations t.foreignKeys.toList) = ls at hwritten hline
  have hbody : (ls.map ([' ', ' '] ++ ·)).map Text.trim = (ls.map ([·])).flatten := by
    have hindent : Blank [' ', ' '] := List.all_eq_true.mp (by decide)
    have htrim : ∀ l ∈ ls, Text.trim ([' ', ' '] ++ l) = l := by
      intro l hl
      have htext := Text.trim_eq_of_split hindent .nil (hline l hl).1
      rwa [List.append_nil] at htext
    rw [List.map_map]
    show ls.map (fun l => Text.trim ([' ', ' '] ++ l)) = _
    rw [List.map_congr_left htrim]
    simp [← List.flatMap_def]
  have hlines : ∀ l ∈ [] :: ls.map ([' ', ' '] ++ ·), '\n' ∉ l := by
    rw [List.forall_mem_cons, List.forall_mem_map]
    exact ⟨by simp, fun l hl => by simp [(hline l hl).2]⟩
  have hwrites := Writes.lines hkeys hwritten hbody .nil hlines hclose
  rwa [List.append_nil] at hwrites

/-- A dump of tables: their statements with blank lines in between. -/
def Script.dump (ts : List Table) : Text := ts.flatMap fun t => t.dump ++ ['\n', '\n']

theorem Script.writes_dump {ts : List Table} (hw : ∀ t ∈ ts, t.Writable) : Writes ts (dump ts) := by
  induction ts with
  | nil => exact .empty
  | cons t ts ih =>
    obtain ⟨ht, hts⟩ := List.forall_mem_cons.mp hw
    have hnext : Writes ts ([] ++ '\n' :: dump ts) := .blankLine (by simp) (ih hts)
    have hwrites := Writes.cons (t.writes_dump ht) hnext
    simpa [dump] using hwrites

/-- Tables that can be written down read back from their dump, and from every other script that
writes them. -/
theorem tables_written {ts : List Table} (hts : ∀ t ∈ ts, t.Writable) :
    Script.tables (Script.dump ts) = .ok ts ∧
      ∀ script, Script.Writes ts script → Script.tables script = .ok ts :=
  ⟨(Script.writes_dump hts).tables_eq hts, fun _ hscript => hscript.tables_eq hts⟩

/-- A table whose names and types look like what stands around them. -/
def lookalikes : Table where
  name := ⟨some "CREATE TABLE".toList, "t(a.;".toList⟩
  primaryKey := ["PRIMARY KEY (".toList, "__tbl0__".toList]
  uniqueIndexes := [["a, b);".toList]]
  foreignKeys := (∅ : Std.ExtTreeMap Text Target).insert "xREFERENCES".toList
    ⟨none, "REFERENCES".toList, ");".toList⟩
  columnOrder := ["PRIMARY KEY (".toList]
  types := (∅ : Std.ExtTreeMap Text Text).insert "PRIMARY KEY (".toList
    "set('not null', ')')".toList
  nullability := (∅ : Std.ExtTreeMap Text Bool).insert "PRIMARY KEY (".toList true
  autoIncrement := some "PRIMARY KEY (".toList

theorem lookalikes_writable : lookalikes.Writable where
  name := ⟨by decide, by decide, by simp [lookalikes]⟩
  nodup := by decide
  typed n := by
    simp only [lookalikes, Std.ExtTreeMap.mem_insert, Std.compare_eq_iff_eq, List.mem_singleton]
    simp [eq_comm]
  nullable n := by
    simp only [lookalikes, Std.ExtTreeMap.mem_insert, Std.compare_eq_iff_eq, List.mem_singleton]
    simp [eq_comm]
  columns := by decide
  types n τ h := by
    have hτ : τ = "set('not null', ')')".toList := by
      rw [lookalikes, Std.ExtTreeMap.getElem?_insert] at h
      split at h <;> simp_all
    rw [hτ]
    decide +kernel
  primaryKey := by decide
  uniqueIndexes := by decide
  foreignKeys n target h := by
    rw [lookalikes, Std.ExtTreeMap.getElem?_insert] at h
    split at h
    · rename_i hn
      obtain rfl := Std.compare_eq_iff_eq.mp hn
      obtain rfl := Option.some.inj h
      decide +kernel
    · simp at h
  autoIncrement := by decide

/-- A table can be written down if its name can. -/
theorem Table.ofName_writable {n : TableName} (h : n.Writable) : (ofName n).Writable where
  name := h
  nodup := List.nodup_nil
  typed := by simp [ofName]
  nullable := by simp [ofName]
  columns := by simp [ofName]
  types := by simp [ofName]
  primaryKey := by simp [ofName]
  uniqueIndexes := by simp [ofName]
  foreignKeys := by simp [ofName]
  autoIncrement := by simp [ofName]

theorem tables_written_lookalikes :
    (∀ t ∈ [lookalikes, .ofName ⟨none, "log".toList⟩], t.Writable) ∧
      Script.dump [lookalikes, .ofName ⟨none, "log".toList⟩] =
        "CREATE TABLE `CREATE TABLE`.`t(a.;` (\n".toList ++
        "  `PRIMARY KEY (` set('not null', ')') AUTO_INCREMENT,\n".toList ++
        "  PRIMARY KEY (`PRIMARY KEY (`,`__tbl0__`),\n".toList ++
        "  UNIQUE KEY `a, b);` (`a, b);`),\n".toList ++
        "  FOREIGN KEY (`xREFERENCES`) REFERENCES `REFERENCES` (`);`)\n);\n\n".toList ++
        "CREATE TABLE `log` (\n);\n\n".toList ∧
      Script.tables (Script.dump [lookalikes, .ofName ⟨none, "log".toList⟩]) =
        .ok [lookalikes, .ofName ⟨none, "log".toList⟩] := by
  have hlog : (Table.ofName ⟨none, "log".toList⟩).Writable :=
    Table.ofName_writable ⟨by decide, by decide, by decide⟩
  have hts : ∀ t ∈ [lookalikes, .ofName ⟨none, "log".toList⟩], t.Writable :=
    List.forall_mem_cons.mpr ⟨lookalikes_writable, List.forall_mem_singleton.mpr hlog⟩
  exact ⟨hts, by decide +kernel, (tables_written hts).1⟩

end SqlOutline
