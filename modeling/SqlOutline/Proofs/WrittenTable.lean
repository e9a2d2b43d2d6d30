import SqlOutline.Proofs.ScriptConcatenation
import SqlOutline.Proofs.WrittenHead
import SqlOutline.Proofs.WrittenLine

/-!
Statements that declare the table they were written for.

A table is written as its head line, the lines of its columns, of its keys and of its foreign keys
in some order, and a closing line. Taking up these declarations builds the table again
(`Table.foldl_declarations`), and so the statement reads back (`Table.ofBlock_written`).
-/

namespace SqlOutline
open Unicode

namespace Table

/-- Takes up a declaration that waits for nothing. -/
def declare (t : Table) (d : Declaration) : Table := (Draft.declare ⟨t, none⟩ d).table

/-- The column `n` of the table as it is declared. -/
def column (t : Table) (n : Text) : Column where
  name := n
  dataType := t.types[n]?.getD []
  nullable := t.nullability[n]?.getD true
  autoIncrement := t.autoIncrement == some n

/-- The declarations that make up the table, the foreign keys in the order of `keys`. -/
def declarations (t : Table) (keys : List (Text × Target)) : List Declaration :=
  t.columnOrder.map (fun n => .column (t.column n)) ++
    ((if t.primaryKey = [] then [] else [.primaryKey t.primaryKey]) ++
      (t.uniqueIndexes.map .uniqueIndex ++ keys.map fun p => .foreignKey p.1 (some p.2)))

/-- A table that can be written down. -/
structure Writable (t : Table) : Prop where
  name : t.name.Writable
  nodup : t.columnOrder.Nodup
  typed : ∀ n : Text, n ∈ t.types ↔ n ∈ t.columnOrder
  nullable : ∀ n : Text, n ∈ t.nullability ↔ n ∈ t.columnOrder
  columns : ∀ n ∈ t.columnOrder, IsName n
  types : ∀ n τ : Text, t.types[n]? = some τ → Column.IsType τ
  primaryKey : ∀ n ∈ t.primaryKey, IsName n
  uniqueIndexes : ∀ ns ∈ t.uniqueIndexes, ∀ n ∈ ns, IsName n
  foreignKeys : ∀ (n : Text) (target : Target), t.foreignKeys[n]? = some target →
    (∀ m ∈ n :: target.names, IsName m) ∧ Target.keyword.findWhole? false n = none
  autoIncrement : ∀ n ∈ t.autoIncrement, n ∈ t.columnOrder

/-- The list has the foreign keys of the table, in some order. -/
def ListsForeignKeys (t : Table) (keys : List (Text × Target)) : Prop :=
  ∀ (n : Text) (target : Target), (n, target) ∈ keys ↔ t.foreignKeys[n]? = some target

theorem Writable.getElem?_types {t : Table} (h : t.Writable) {n : Text} (hn : n ∈ t.columnOrder) :
    t.types[n]? = some (t.column n).dataType := by
  have htyped := (h.typed n).mpr hn
  rw [Std.ExtTreeMap.mem_iff_isSome_getElem?] at htyped
  obtain ⟨τ, hτ⟩ := Option.isSome_iff_exists.mp htyped
  rw [column, hτ, Option.getD_some]

theorem Writable.getElem?_nullability {t : Table} (h : t.Writable) {n : Text}
    (hn : n ∈ t.columnOrder) : t.nullability[n]? = some (t.column n).nullable := by
  have hnull := (h.nullable n).mpr hn
  rw [Std.ExtTreeMap.mem_iff_isSome_getElem?] at hnull
  obtain ⟨b, hb⟩ := Option.isSome_iff_exists.mp hnull
  rw [column, hb, Option.getD_some]

theorem Writable.declarations {t : Table} (h : t.Writable) {keys : List (Text × Target)}
    (hkeys : t.ListsForeignKeys keys) : ∀ d ∈ t.declarations keys, d.Writable := by
  simp only [Table.declarations, List.forall_mem_append, List.forall_mem_map]
  refine ⟨fun n hn => ⟨h.columns n hn, h.types n _ (h.getElem?_types hn)⟩, ?_, h.uniqueIndexes,
    fun p hp => ?_⟩
  · split
    · simp
    · rename_i hne
      simpa using ⟨hne, h.primaryKey⟩
  · exact h.foreignKeys p.1 p.2 ((hkeys p.1 p.2).mp hp)

/-! Building the table from its declarations. -/

/-- `m'` has the entries of `m` for the keys `ns`, and no others. -/
def IsPartOf {α : Type} (m' m : Std.ExtTreeMap Text α) (ns : List Text) : Prop :=
  ∀ (k : Text) (a : α), m'[k]? = some a ↔ k ∈ ns ∧ m[k]? = some a

theorem isPartOf_nil {α : Type} (m : Std.ExtTreeMap Text α) : IsPartOf ∅ m [] := by
  simp [IsPartOf]

theorem IsPartOf.insert {α : Type} {m' m : Std.ExtTreeMap Text α} {ns : List Text}
    (h : IsPartOf m' m ns) {n : Text} {a : α} (hn : m[n]? = some a) :
    IsPartOf (m'.insert n a) m (ns ++ [n]) := by
  intro k b
  rw [Std.ExtTreeMap.getElem?_insert]
  simp only [Std.compare_eq_iff_eq, List.mem_append, List.mem_singleton]
  by_cases hk : n = k
  · subst hk
    simp [hn]
  · simp [hk, Ne.symm hk, h k b]

/-- A part with all keys is the whole. -/
theorem IsPartOf.eq {α : Type} {m' m : Std.ExtTreeMap Text α} {ns : List Text}
    (h : IsPartOf m' m ns) (hm : ∀ n, n ∈ m ↔ n ∈ ns) : m' = m := by
  refine Std.ExtTreeMap.ext_getElem? fun k => ?_
  apply Option.ext
  intro a
  rw [h k a, ← hm, Std.ExtTreeMap.mem_iff_isSome_getElem?]
  exact and_iff_right_of_imp fun ha => by rw [ha]; rfl

/-- `r` is the table with the columns `ns` alone, and without keys. -/
structure HasColumns (t : Table) (ns : List Text) (r : Table) : Prop where
  name : r.name = t.name
  primaryKey : r.primaryKey = []
  uniqueIndexes : r.uniqueIndexes = []
  foreignKeys : r.foreignKeys = ∅
  columnOrder : r.columnOrder = ns
  types : IsPartOf r.types t.types ns
  nullability : IsPartOf r.nullability t.nullability ns
  autoIncrement : ∀ k, r.autoIncrement = some k ↔ t.autoIncrement = some k ∧ k ∈ ns

theorem hasColumns_nil (t : Table) : t.HasColumns [] (ofName t.name) where
  name := rfl
  primaryKey := rfl
  uniqueIndexes := rfl
  foreignKeys := rfl
  columnOrder := rfl
  types := isPartOf_nil t.types
  nullability := isPartOf_nil t.nullability
  autoIncrement := by simp [ofName]

/-- Declaring one more column of the table. -/
theorem HasColumns.declareColumn {t r : Table} {ns : List Text} (h : t.HasColumns ns r)
    (hw : t.Writable) {n : Text} (hn : n ∈ t.columnOrder) (hnew : n ∉ ns) :
    t.HasColumns (ns ++ [n]) (r.declareColumn (t.column n)) where
  name := h.name
  primaryKey := h.primaryKey
  uniqueIndexes := h.uniqueIndexes
  foreignKeys := h.foreignKeys
  columnOrder := by
    have hno : n ∉ r.types := by
      rw [Std.ExtTreeMap.mem_iff_isSome_getElem?, Option.isSome_iff_exists]
      exact fun ⟨a, ha⟩ => hnew ((h.types n a).mp ha).1
    simp [Table.declareColumn, column, hno, h.columnOrder]
  types := h.types.insert (hw.getElem?_types hn)
  nullability := h.nullability.insert (hw.getElem?_nullability hn)
  autoIncrement k := by
    have hold := h.autoIncrement k
    simp only [Table.declareColumn, column, beq_iff_eq, List.mem_append, List.mem_singleton]
    by_cases hauto : t.autoIncrement = some n
    · simp only [hauto, if_true, Option.some.injEq]
      constructor
      · rintro rfl
        exact ⟨rfl, .inr rfl⟩
      · exact fun hk => hk.1
    · rw [if_neg hauto, hold]
      constructor
      · exact fun hk => ⟨hk.1, .inl hk.2⟩
      · rintro ⟨hk, hin | rfl⟩
        · exact ⟨hk, hin⟩
        · exact absurd hk hauto

theorem hasColumns_foldl {t : Table} (hw : t.Writable) {ns : List Text} (hnodup : ns.Nodup)
    (hns : ∀ n ∈ ns, n ∈ t.columnOrder) :
    t.HasColumns ns ((ns.map t.column).foldl Table.declareColumn (ofName t.name)) := by
  induction ns using List.reverseRecOn with
  | nil => exact t.hasColumns_nil
  | append_singleton ns n ih =>
    rw [List.nodup_append] at hnodup
    have hnew : n ∉ ns := fun hin => hnodup.2.2 n hin n (by simp) rfl
    have hprev := ih hnodup.1 fun m hm => hns m (by simp [hm])
    rw [List.map_append, List.foldl_append]
    exact hprev.declareColumn hw (hns n (by simp)) hnew

/-- With all its columns, a table lacks nothing but its keys. -/
theorem HasColumns.eq {t r : Table} (h : t.HasColumns t.columnOrder r) (hw : t.Writable) :
    r = { t with primaryKey := [], uniqueIndexes := [], foreignKeys := ∅ } := by
  have htypes := h.types.eq hw.typed
  have hnull := h.nullability.eq hw.nullable
  have hauto : r.autoIncrement = t.autoIncrement := by
    refine Option.ext fun k => ?_
    rw [h.autoIncrement]
    exact ⟨fun hk => hk.1, fun hk => ⟨hk, hw.autoIncrement k hk⟩⟩
  obtain ⟨name, primaryKey, uniqueIndexes, foreignKeys, columnOrder, types, nullability,
    autoIncrement⟩ := r
  obtain ⟨hname, hprimary, hunique, hforeign, horder, -, -, -⟩ := h
  simp_all

theorem foldl_addUniqueIndex (us : List (List Text)) (t : Table) :
    us.foldl addUniqueIndex t = { t with uniqueIndexes := t.uniqueIndexes ++ us } := by
  induction us generalizing t with
  | nil => simp
  | cons u us ih =>
    rw [List.foldl_cons, ih]
    simp [addUniqueIndex]

theorem foldl_setForeignKey (keys : List (Text × Target)) (t : Table) :
    keys.foldl (fun t p => t.setForeignKey p.1 p.2) t =
      { t with foreignKeys := keys.foldl (fun m p => m.insert p.1 p.2) t.foreignKeys } := by
  induction keys generalizing t with
  | nil => rfl
  | cons p keys ih =>
    rw [List.foldl_cons, ih]
    rfl

/-- Entering the foreign keys one by one gives them all. -/
theorem ListsForeignKeys.foldl_insert {t : Table} {keys : List (Text × Target)}
    (h : t.ListsForeignKeys keys) :
    keys.foldl (fun m p => m.insert p.1 p.2) ∅ = t.foreignKeys := by
  have hentered : ∀ ps : List (Text × Target), (∀ p ∈ ps, t.foreignKeys[p.1]? = some p.2) →
      ∀ n target, (ps.foldl (fun m p => m.insert p.1 p.2)
        (∅ : Std.ExtTreeMap Text Target))[n]? = some target ↔ (n, target) ∈ ps := by
    intro ps hps
    induction ps using List.reverseRecOn with
    | nil => simp
    | append_singleton ps p ih =>
      intro n target
      have hprev := ih (fun q hq => hps q (by simp [hq])) n target
      have hp := hps p (by simp)
      rw [List.foldl_append, List.foldl_cons, List.foldl_nil, Std.ExtTreeMap.getElem?_insert,
        List.mem_append, List.mem_singleton]
      by_cases hn : p.1 = n
      · subst hn
        rw [if_pos (by simp), Option.some.injEq]
        constructor
        · rintro rfl
          exact .inr rfl
        · rintro (hin | hin)
          · have hsame := hps _ (List.mem_append_left [p] hin)
            rw [hp] at hsame
            exact Option.some.inj hsame
          · exact (congrArg Prod.snd hin).symm
      · rw [if_neg (by simpa using hn), hprev]
        constructor
        · exact .inl
        · rintro (hin | rfl)
          · exact hin
          · exact absurd rfl hn
  refine Std.ExtTreeMap.ext_getElem? fun n => Option.ext fun target => ?_
  rw [hentered keys (fun p hp => (h p.1 p.2).mp hp)]
  exact h n target

/-- The declarations of a table build it. -/
theorem foldl_declarations {t : Table} (hw : t.Writable) {keys : List (Text × Target)}
    (hkeys : t.ListsForeignKeys keys) :
    (t.declarations keys).foldl declare (ofName t.name) = t := by
  have hcolumns := (hasColumns_foldl hw hw.nodup fun n hn => hn).eq hw
  have hfold : ∀ u : Table, (t.columnOrder.map fun n => Declaration.column (t.column n)).foldl
      declare u = (t.columnOrder.map t.column).foldl Table.declareColumn u := by
    intro u
    rw [List.foldl_map, List.foldl_map]
    rfl
  have hunique : ∀ u : Table, (t.uniqueIndexes.map Declaration.uniqueIndex).foldl declare u =
      t.uniqueIndexes.foldl addUniqueIndex u := by
    intro u
    rw [List.foldl_map]
    rfl
  have hforeign : ∀ u : Table, (keys.map fun p => Declaration.foreignKey p.1 (some p.2)).foldl
      declare u = keys.foldl (fun t p => t.setForeignKey p.1 p.2) u := by
    intro u
    rw [List.foldl_map]
    rfl
  have hprimary : (if t.primaryKey = [] then [] else [Declaration.primaryKey t.primaryKey]).foldl
      declare { t with primaryKey := [], uniqueIndexes := [], foreignKeys := ∅ } =
        { t with uniqueIndexes := [], foreignKeys := ∅ } := by
    split
    · rename_i hnil
      simp [hnil]
    · rfl
  rw [declarations, List.foldl_append, List.foldl_append, List.foldl_append, hfold, hcolumns,
    hprimary, hunique, foldl_addUniqueIndex, hforeign, foldl_setForeignKey]
  simp only [List.nil_append, hkeys.foldl_insert]

end Table

/-! The text of a statement. -/

namespace Text

/-- Lines one behind the other, the last one without a line break. -/
def ofLines (ls : List Text) (last : Text) : Text := ls.flatMap (· ++ ['\n']) ++ last

@[simp] theorem ofLines_nil (last : Text) : ofLines [] last = last := rfl

@[simp] theorem ofLines_cons (l : Text) (ls : List Text) (last : Text) :
    ofLines (l :: ls) last = l ++ '\n' :: ofLines ls last := by
  simp [ofLines]

theorem splitOn_ofLines {ls : List Text} (hls : ∀ l ∈ ls, '\n' ∉ l) {last : Text}
    (hlast : '\n' ∉ last) : (ofLines ls last).splitOn '\n' = ls ++ [last] := by
  induction ls with
  | nil => exact List.splitOn_eq_singleton hlast
  | cons l ls ih =>
    rw [ofLines_cons, List.splitOn_append_cons_self_of_not_mem (hls l (by simp)),
      ih fun m hm => hls m (by simp [hm])]
    rfl

end Text

/-- A line that closes a statement: a closing parenthesis, options, and a semicolon at the end. -/
structure IsClosing (l : Text) : Prop where
  oneLine : '\n' ∉ l
  parenthesis : ∃ t, Text.trim l = ')' :: t
  semicolon : Block.EndsStatement l

/-- The statement that writes a table: its head line, the lines of its declarations with white space
around them, and a closing line. -/
inductive Table.Writes (t : Table) : Text → Prop
  | lines {keys : List (Text × Target)} {ls : List (List Text)} {g close : Text} {body : List Text}
      (hkeys : t.ListsForeignKeys keys)
      (hls : List.Forall₂ Declaration.Written (t.declarations keys) ls)
      (hbody : body.map Text.trim = ls.flatten) (hblank : Blank g)
      (hlines : ∀ l ∈ g :: body, '\n' ∉ l) (hclose : IsClosing close) :
      Writes t (Text.ofLines
        (("CREATE TABLE ".toList ++ (t.name.written ++ (" (".toList ++ g))) :: body) close)

/-- The lines of declarations take them up one after the other. -/
theorem foldlM_written {ds : List Declaration} {ls : List (List Text)}
    (h : List.Forall₂ Declaration.Written ds ls) (hw : ∀ d ∈ ds, d.Writable)
    (htrim : ∀ l ∈ ls.flatten, IsTrimmed l) (t : Table) :
    ls.flatten.foldlM Draft.step ⟨t, none⟩ = .ok ⟨ds.foldl Table.declare t, none⟩ := by
  induction h generalizing t with
  | nil => rfl
  | @cons d l ds ls hd hds ih =>
    rw [List.flatten_cons, List.forall_mem_append] at htrim
    rw [List.flatten_cons, List.foldlM_append, hd.foldlM_step (hw d (by simp)) htrim.1,
      hd.declare_eq]
    exact ih (fun e he => hw e (by simp [he])) htrim.2 _

theorem TableName.newline_notMem_written {n : TableName} (h : n.Writable) : '\n' ∉ n.written := by
  have htable := h.table.newline_notMem
  obtain ⟨database, table⟩ := n
  cases database with
  | none => simpa [written] using htable
  | some d => simpa [written, (h.database d rfl).1.newline_notMem] using htable

/-- A statement that writes a table declares it. -/
theorem Table.ofBlock_written {t : Table} (hw : t.Writable) {b : Text} (h : t.Writes b) :
    ofBlock b = .ok t := by
  obtain @⟨keys, ls, g, close, body, hkeys, hls, hbody, hblank, hlines, hclose⟩ := h
  have htick : backtick ∉ g := fun hmem => absurd (hblank _ hmem) (by decide)
  have hhead : '\n' ∉ "CREATE TABLE ".toList ++ (t.name.written ++ (" (".toList ++ g)) := by
    have hname := TableName.newline_notMem_written hw.name
    have hg := hlines g (by simp)
    simp [hname, hg]
  have hsplit := Text.splitOn_ofLines (List.forall_mem_cons.mpr
    ⟨hhead, fun l hl => hlines l (List.mem_cons_of_mem g hl)⟩) hclose.oneLine
  obtain ⟨o, ho⟩ := hclose.parenthesis
  have hne : ∀ l ∈ ls.flatten, (!l.isEmpty) = true := by
    intro l hl
    obtain ⟨ws, hws, hin⟩ := List.mem_flatten.mp hl
    obtain ⟨d, -, hd⟩ := forall_of_forall₂ hls (p := fun ws => ∃ d ∈ t.declarations keys,
      Declaration.Written d ws) (fun d hd ws h => ⟨d, hd, h⟩) ws hws
    simpa using hd.ne_nil l hin
  have htrim : ∀ l ∈ ls.flatten, IsTrimmed l := by
    rw [← hbody]
    intro l hl
    obtain ⟨m, -, rfl⟩ := List.mem_map.mp hl
    exact Text.isTrimmed_trim m
  have hlast : Declaration.ofLine (')' :: o) = .ok .other :=
    Declaration.ofLine_closing (ho ▸ Text.isTrimmed_trim close)
  have hlines' : bodyLines (body ++ [close]) = ls.flatten ++ [')' :: o] := by
    rw [bodyLines, List.map_append, hbody, List.map_singleton, ho, List.filter_append,
      List.filter_eq_self.mpr hne]
    rfl
  have hfold := foldlM_written hls (hw.declarations hkeys) htrim (ofName t.name)
  rw [foldl_declarations hw hkeys] at hfold
  simp only [ofBlock, Draft.ofFront, hsplit, List.cons_append, List.headD_cons, List.tail_cons,
    TableName.ofHead_written hw.name htick, hlines', List.foldlM_append]
  show (ls.flatten.foldlM Draft.step ⟨ofName t.name, none⟩ >>= fun d =>
    [')' :: o].foldlM Draft.step d).map (·.table) = _
  rw [hfold]
  show ([')' :: o].foldlM Draft.step ⟨t, none⟩).map (·.table) = _
  rw [List.foldlM_cons, Draft.step, hlast]
  rfl

end SqlOutline
