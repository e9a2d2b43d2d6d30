import Mathlib.Data.List.Induction
import Mathlib.Data.List.Nodup
import SqlOutline.Proofs.ErrorFlow
import SqlOutline.Proofs.Reading
import SqlOutline.Schema.Script

/-!
What a table knows of its columns.

The order of the columns, their types, whether they allow null, and the one that counts up are kept
apart. A run of declarations keeps them in step: every name has one place, that of its first
declaration, and the type and the options of its last one. So it is in every table of a script
(`columns_consistent`).
-/

namespace SqlOutline

/-! The first and the last of a list. -/

theorem findRev?_concat {α : Type} (p : α → Bool) (l : List α) (a : α) :
    (l ++ [a]).findRev? p = if p a = true then some a else l.findRev? p := by
  rw [List.findRev?_eq_find?_reverse, List.findRev?_eq_find?_reverse, List.reverse_append,
    List.reverse_singleton, List.singleton_append, List.find?_cons]
  cases p a <;> rfl

theorem isSome_findRev?_iff {α : Type} {p : α → Bool} {l : List α} :
    (l.findRev? p).isSome = true ↔ ∃ a ∈ l, p a = true := by
  rw [List.findRev?_eq_find?_reverse, List.find?_isSome]
  simp only [List.mem_reverse]

theorem eraseDups_concat (ns : List Text) (n : Text) :
    (ns ++ [n]).eraseDups = if n ∈ ns then ns.eraseDups else ns.eraseDups ++ [n] := by
  rw [List.eraseDups_append, List.cons_removeAll, List.nil_removeAll]
  by_cases hn : n ∈ ns <;> simp [hn, List.eraseDups_cons]

theorem nodup_eraseDups (ns : List Text) : ns.eraseDups.Nodup := by
  induction ns using List.reverseRecOn with
  | nil => exact List.nodup_nil
  | append_singleton ns n ih =>
    rw [eraseDups_concat]
    split
    · exact ih
    · rename_i hn
      rw [← List.concat_eq_append]
      exact ih.concat (mt List.mem_eraseDups.mp hn)

namespace Table

/-- The table knows of columns what the declarations `cs` say: names have the order of their first
declarations, and the rest is told by the last ones. -/
structure HasDeclared (t : Table) (cs : List Column) : Prop where
  columnOrder : t.columnOrder = (cs.map Column.name).eraseDups
  types : ∀ n : Text, t.types[n]? = (cs.findRev? (·.name == n)).map Column.dataType
  nullability : ∀ n : Text, t.nullability[n]? = (cs.findRev? (·.name == n)).map Column.nullable
  autoIncrement : t.autoIncrement = (cs.findRev? (·.autoIncrement)).map Column.name

/-- What is known of single columns fits together. -/
structure Consistent (t : Table) : Prop where
  nodup : t.columnOrder.Nodup
  typed : ∀ n : Text, n ∈ t.types ↔ n ∈ t.columnOrder
  nullable : ∀ n : Text, n ∈ t.nullability ↔ n ∈ t.columnOrder
  columns : t.columns.map Prod.fst = t.columnOrder
  autoIncrement : ∀ n ∈ t.autoIncrement, n ∈ t.columnOrder

/-- The table with the columns of `r` in place of its own. -/
def withColumnsOf (t r : Table) : Table :=
  { t with
    columnOrder := r.columnOrder
    types := r.types
    nullability := r.nullability
    autoIncrement := r.autoIncrement }

/-- Declarations of columns see and change nothing but columns. -/
theorem foldl_declareColumn_withColumnsOf (cs : List Column) (t r : Table) :
    cs.foldl declareColumn (t.withColumnsOf r) = t.withColumnsOf (cs.foldl declareColumn r) := by
  induction cs generalizing r with
  | nil => rfl
  | cons c cs ih => exact ih (r.declareColumn c)

theorem hasDeclared_nil (name : TableName) : (ofName name).HasDeclared [] where
  columnOrder := rfl
  types _ := Std.ExtTreeMap.getElem?_empty
  nullability _ := Std.ExtTreeMap.getElem?_empty
  autoIncrement := rfl

namespace HasDeclared
variable {t : Table} {cs : List Column} (h : t.HasDeclared cs)
include h

theorem mem_columnOrder {n : Text} : n ∈ t.columnOrder ↔ ∃ c ∈ cs, c.name = n := by
  rw [h.columnOrder, List.mem_eraseDups, List.mem_map]

theorem mem_types {n : Text} : n ∈ t.types ↔ n ∈ t.columnOrder := by
  rw [Std.ExtTreeMap.mem_iff_isSome_getElem?, h.types, Option.isSome_map, isSome_findRev?_iff,
    h.mem_columnOrder]
  simp only [beq_iff_eq]

theorem mem_nullability {n : Text} : n ∈ t.nullability ↔ n ∈ t.columnOrder := by
  rw [Std.ExtTreeMap.mem_iff_isSome_getElem?, h.nullability, Option.isSome_map,
    isSome_findRev?_iff, h.mem_columnOrder]
  simp only [beq_iff_eq]

/-- One more declaration. -/
theorem declareColumn (c : Column) : (t.declareColumn c).HasDeclared (cs ++ [c]) where
  columnOrder := by
    have hmem : c.name ∈ cs.map Column.name ↔ c.name ∈ t.types := by
      rw [h.mem_types, h.columnOrder, List.mem_eraseDups]
    rw [List.map_append, List.map_singleton, eraseDups_concat, ← h.columnOrder]
    simp only [hmem]
    rfl
  types n := by
    rw [findRev?_concat]
    show (t.types.insert c.name c.dataType)[n]? = _
    rw [Std.ExtTreeMap.getElem?_insert, h.types]
    by_cases hn : c.name = n <;> simp [hn]
  nullability n := by
    rw [findRev?_concat]
    show (t.nullability.insert c.name c.nullable)[n]? = _
    rw [Std.ExtTreeMap.getElem?_insert, h.nullability]
    by_cases hn : c.name = n <;> simp [hn]
  autoIncrement := by
    rw [findRev?_concat]
    show (if c.autoIncrement then some c.name else t.autoIncrement) = _
    rw [h.autoIncrement]
    by_cases hauto : c.autoIncrement = true <;> simp [hauto]

theorem foldl_declareColumn (cs' : List Column) :
    (cs'.foldl Table.declareColumn t).HasDeclared (cs ++ cs') := by
  induction cs' generalizing t cs with
  | nil => rwa [List.append_nil]
  | cons c cs' ih =>
    have hnext := ih (h.declareColumn c)
    rwa [List.append_assoc] at hnext

/-- The columns have one entry for each name, with what its last declaration says. -/
theorem columns_forall₂ : List.Forall₂ (fun n row => ∃ c, cs.findRev? (·.name == n) = some c ∧
    row = (n, c.dataType, c.nullable)) t.columnOrder t.columns := by
  -- The induction is on any list of columns, for the maps stay those of the whole table.
  have hrows : ∀ ns : List Text, (∀ n ∈ ns, n ∈ t.columnOrder) →
      List.Forall₂ (fun n row => ∃ c, cs.findRev? (·.name == n) = some c ∧
        row = (n, c.dataType, c.nullable)) ns (ns.filterMap fun n =>
          t.types[n]?.map fun dataType => (n, dataType, t.nullability[n]?.getD true)) := by
    intro ns hns
    induction ns with
    | nil => exact .nil
    | cons n ns ih =>
      obtain ⟨hn, hrest⟩ := List.forall_mem_cons.mp hns
      obtain ⟨c, hc⟩ : ∃ c, cs.findRev? (·.name == n) = some c := by
        rw [← Option.isSome_iff_exists, isSome_findRev?_iff]
        simpa only [beq_iff_eq] using h.mem_columnOrder.mp hn
      have htype := h.types n
      have hnull := h.nullability n
      rw [hc, Option.map_some] at htype hnull
      simp only [List.filterMap_cons, htype, hnull, Option.map_some, Option.getD_some]
      exact .cons ⟨c, hc, rfl⟩ (ih hrest)
  exact hrows t.columnOrder fun _ hn => hn

theorem consistent : t.Consistent where
  nodup := by
    rw [h.columnOrder]
    exact nodup_eraseDups _
  typed _ := h.mem_types
  nullable _ := h.mem_nullability
  columns := by
    have hnames : List.Forall₂ (fun n row => n = Prod.fst row) t.columnOrder t.columns := by
      refine h.columns_forall₂.imp ?_
      rintro n _ ⟨c, -, rfl⟩
      rfl
    rw [← List.forall₂_eq_eq_eq, List.forall₂_map_left_iff]
    exact hnames.flip.imp fun _ _ heq => heq.symm
  autoIncrement n hn := by
    rw [h.autoIncrement] at hn
    obtain ⟨c, hc, rfl⟩ := Option.map_eq_some_iff.mp hn
    rw [List.findRev?_eq_find?_reverse] at hc
    exact h.mem_columnOrder.mpr ⟨c, List.mem_reverse.mp (List.mem_of_find?_eq_some hc), rfl⟩

end HasDeclared

end Table

/-! Every table of a script. -/

namespace Draft

/-- A declaration declares one column or leaves all columns as they are. -/
theorem exists_hasDeclared_declare {d : Draft} {cs : List Column} (h : d.table.HasDeclared cs)
    (k : Declaration) : ∃ cs', (d.declare k).table.HasDeclared cs' := by
  cases k with
  | column c => exact ⟨cs ++ [c], h.declareColumn c⟩
  | primaryKey ns => exact ⟨cs, ⟨h.columnOrder, h.types, h.nullability, h.autoIncrement⟩⟩
  | uniqueIndex ns => exact ⟨cs, ⟨h.columnOrder, h.types, h.nullability, h.autoIncrement⟩⟩
  | foreignKey n target =>
    cases target <;> exact ⟨cs, ⟨h.columnOrder, h.types, h.nullability, h.autoIncrement⟩⟩
  | other => exact ⟨cs, h⟩

theorem exists_hasDeclared_step {d d' : Draft} {cs : List Column} (h : d.table.HasDeclared cs)
    {line : Text} (hstep : d.step line = .ok d') : ∃ cs', d'.table.HasDeclared cs' := by
  rw [step] at hstep
  split at hstep
  · obtain ⟨k, -, rfl⟩ := exists_of_map_ok hstep
    exact exists_hasDeclared_declare h k
  · obtain ⟨target, -, rfl⟩ := exists_of_map_ok hstep
    cases target with
    | none => exact ⟨cs, h⟩
    | some g => exact ⟨cs, ⟨h.columnOrder, h.types, h.nullability, h.autoIncrement⟩⟩

theorem exists_hasDeclared_foldlM {d d' : Draft} {cs : List Column} (h : d.table.HasDeclared cs)
    {ls : List Text} (hrun : ls.foldlM step d = .ok d') : ∃ cs', d'.table.HasDeclared cs' := by
  induction ls generalizing d cs with
  | nil =>
    obtain rfl := Except.ok.inj hrun
    exact ⟨cs, h⟩
  | cons l ls ih =>
    rw [List.foldlM_cons] at hrun
    obtain ⟨e, hstep, hrest⟩ := exists_of_bind_ok hrun
    obtain ⟨cs', h'⟩ := exists_hasDeclared_step h hstep
    exact ih h' hrest

end Draft

theorem Table.exists_hasDeclared_ofBlock {b : Text} {t : Table} (h : ofBlock b = .ok t) :
    ∃ cs, t.HasDeclared cs := by
  rw [ofBlock] at h
  obtain ⟨d, hfront, rfl⟩ := exists_of_map_ok h
  obtain ⟨name, -, hrun⟩ := exists_of_bind_ok hfront
  exact Draft.exists_hasDeclared_foldlM (hasDeclared_nil name) hrun

theorem Script.consistent_of_mem_tables {script : Text} {ts : List Table}
    (h : tables script = .ok ts) : ∀ t ∈ ts, t.Consistent := by
  refine forall_of_forall₂ (forall₂_of_mapM_ok h) fun b _ t hblock => ?_
  obtain ⟨cs, hcs⟩ := Table.exists_hasDeclared_ofBlock hblock
  exact hcs.consistent

/-- A run of declarations keeps the columns of a table in step and leaves everything else alone. So
the columns of every table in a script fit together. -/
theorem columns_consistent :
    (∀ (name : TableName) (cs : List Column), ∃ t, cs.foldl Table.declareColumn (.ofName name) = t ∧
        t.columnOrder = (cs.map Column.name).eraseDups ∧ t.Consistent ∧
        List.Forall₂ (fun n row => ∃ c, cs.findRev? (·.name == n) = some c ∧
          row = (n, c.dataType, c.nullable)) t.columnOrder t.columns ∧
        t.autoIncrement = (cs.findRev? (·.autoIncrement)).map Column.name ∧
        t.name = name ∧ t.primaryKey = [] ∧ t.uniqueIndexes = [] ∧ t.foreignKeys = ∅) ∧
      ∀ (script : Text) (ts : List Table), Script.tables script = .ok ts →
        ∀ t ∈ ts, t.Consistent := by
  constructor
  · intro name cs
    have hcolumns := (Table.hasDeclared_nil name).foldl_declareColumn cs
    have hrest := Table.foldl_declareColumn_withColumnsOf cs (.ofName name) (.ofName name)
    refine ⟨_, rfl, hcolumns.columnOrder, hcolumns.consistent, hcolumns.columns_forall₂,
      hcolumns.autoIncrement, ?_⟩
    exact ⟨congrArg Table.name hrest, congrArg Table.primaryKey hrest,
      congrArg Table.uniqueIndexes hrest, congrArg Table.foreignKeys hrest⟩
  · exact fun script ts => Script.consistent_of_mem_tables

/-- A column that is declared again keeps its place. -/
theorem columns_consistent_redeclared :
    ∃ t, Script.tables "CREATE TABLE `t` (\n`a` int,\n`b` text,\n`a` bigint NOT NULL\n);".toList =
        .ok [t] ∧
      t.columns = [("a".toList, "bigint".toList, false), ("b".toList, "text".toList, true)] ∧
      t.Consistent := by
  have hcolumns : (Script.tables
      "CREATE TABLE `t` (\n`a` int,\n`b` text,\n`a` bigint NOT NULL\n);".toList).map
        (·.map Table.columns) =
      .ok [[("a".toList, "bigint".toList, false), ("b".toList, "text".toList, true)]] := by
    decide +kernel
  obtain ⟨t, hts, ht⟩ := exists_singleton_of_map_ok hcolumns
  exact ⟨t, hts, ht, columns_consistent.2 _ _ hts t (List.mem_singleton_self t)⟩

end SqlOutline
