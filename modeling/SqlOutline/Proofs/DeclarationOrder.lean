import SqlOutline.Proofs.DeclaredColumns
import SqlOutline.Proofs.WaitingForeignKey

/-!
Declarations of different kinds in any order.

A primary key takes the place of any other, unique indexes are listed, foreign keys are entered by
their columns, and columns see nothing but columns. So only the order among declarations of one kind
matters, and the lines of a statement may be rearranged otherwise (`ofBlock_rearranged`).
-/

namespace SqlOutline

namespace Declaration

inductive Kind where
  | primaryKey
  | uniqueIndex
  | foreignKey
  | column
  deriving DecidableEq, Repr

/-- The kind of a declaration that declares something. -/
def kind? : Declaration → Option Kind
  | .primaryKey _ => some .primaryKey
  | .uniqueIndex _ => some .uniqueIndex
  | .foreignKey _ _ => some .foreignKey
  | .column _ => some .column
  | .other => none

/-- The columns of a primary key. -/
def primaryKey? : Declaration → Option (List Text)
  | .primaryKey columns => some columns
  | _ => none

/-- The columns of a unique index. -/
def uniqueIndex? : Declaration → Option (List Text)
  | .uniqueIndex columns => some columns
  | _ => none

/-- The column of a foreign key and its target. -/
def foreignKey? : Declaration → Option (Text × Target)
  | .foreignKey c (some target) => some (c, target)
  | _ => none

def column? : Declaration → Option Column
  | .column c => some c
  | _ => none

/-- Whether `f` is about declarations of the kind `k` alone. -/
def IsAbout {α : Type} (k : Kind) (f : Declaration → Option α) : Prop :=
  ∀ d a, f d = some a → d.kind? = some k

theorem isAbout_primaryKey? : IsAbout .primaryKey primaryKey? := by
  rintro (_ | _ | ⟨_, _ | _⟩ | _ | _) a ⟨⟩
  rfl

theorem isAbout_uniqueIndex? : IsAbout .uniqueIndex uniqueIndex? := by
  rintro (_ | _ | ⟨_, _ | _⟩ | _ | _) a ⟨⟩
  rfl

theorem isAbout_foreignKey? : IsAbout .foreignKey foreignKey? := by
  rintro (_ | _ | ⟨_, _ | _⟩ | _ | _) a ⟨⟩
  rfl

theorem isAbout_column? : IsAbout .column column? := by
  rintro (_ | _ | ⟨_, _ | _⟩ | _ | _) a ⟨⟩
  rfl

end Declaration

namespace Table
open Declaration

/-- For its columns it does not matter on which table a run of declarations starts. -/
theorem withColumnsOf_foldl (s t r : Table) (cs : List Column) :
    s.withColumnsOf (cs.foldl declareColumn (r.withColumnsOf t)) =
      s.withColumnsOf (cs.foldl declareColumn t) := by
  rw [foldl_declareColumn_withColumnsOf]
  rfl

/-- What a run of declarations leaves: the last primary key, all unique indexes, the last target for
each column, and the columns. -/
theorem foldl_declare (ds : List Declaration) (t : Table) :
    ds.foldl declare t = withColumnsOf
      { t with
        primaryKey := (ds.filterMap primaryKey?).getLastD t.primaryKey
        uniqueIndexes := t.uniqueIndexes ++ ds.filterMap uniqueIndex?
        foreignKeys := t.foreignKeys.insertMany (ds.filterMap foreignKey?) }
      ((ds.filterMap column?).foldl declareColumn t) := by
  induction ds generalizing t with
  | nil =>
    rw [List.foldl_nil, List.filterMap_nil, List.filterMap_nil, List.filterMap_nil,
      List.filterMap_nil, List.append_nil, Std.ExtTreeMap.insertMany_nil]
    rfl
  | cons d ds ih =>
    rw [List.foldl_cons, ih]
    cases d with
    | primaryKey ns =>
      simp only [List.filterMap_cons, primaryKey?, uniqueIndex?, foreignKey?, column?,
        List.getLastD_cons]
      exact withColumnsOf_foldl _ t (t.setPrimaryKey ns) _
    | uniqueIndex ns =>
      simp only [List.filterMap_cons, primaryKey?, uniqueIndex?, foreignKey?, column?]
      rw [List.append_cons t.uniqueIndexes ns]
      exact withColumnsOf_foldl _ t (t.addUniqueIndex ns) _
    | foreignKey c target =>
      cases target with
      | none =>
        simp only [List.filterMap_cons, primaryKey?, uniqueIndex?, foreignKey?, column?]
        rfl
      | some g =>
        simp only [List.filterMap_cons, primaryKey?, uniqueIndex?, foreignKey?, column?,
          Std.ExtTreeMap.insertMany_cons]
        exact withColumnsOf_foldl _ t (t.setForeignKey c g) _
    | column c =>
      simp only [List.filterMap_cons, primaryKey?, uniqueIndex?, foreignKey?, column?]
      rfl
    | other =>
      simp only [List.filterMap_cons, primaryKey?, uniqueIndex?, foreignKey?, column?]
      rfl

/-- The target of a column is the last one that is entered for it. -/
theorem getElem?_insertMany_eq (keys : List (Text × Target)) (c : Text) :
    ((∅ : Std.ExtTreeMap Text Target).insertMany keys)[c]? =
      (keys.findRev? (·.1 == c)).map Prod.snd := by
  induction keys using List.reverseRecOn with
  | nil => rfl
  | append_singleton keys p ih =>
    rw [Std.ExtTreeMap.insertMany_append, Std.ExtTreeMap.insertMany_list_singleton,
      Std.ExtTreeMap.getElem?_insert, ih, findRev?_concat]
    by_cases hp : p.1 = c <;> simp [hp]

end Table

/-! The lines of statements. -/

namespace Declaration

/-- What `f` finds in the declaration of a line. -/
def inLine {α : Type} (f : Declaration → Option α) (l : Text) : Option α :=
  (ofLine l).toOption.bind f

/-- A line that can be read by itself: it is not faulty, and a foreign key on it has its target. -/
def IsComplete (l : Text) : Prop :=
  ∃ d, ofLine l = .ok d ∧ ∀ c, d ≠ .foreignKey c none

/-- The second list has the lines of the first, and those of each kind in the same order. -/
structure Rearranged (ls ms : List Text) : Prop where
  perm : ms.Perm ls
  kinds : ∀ k : Kind, ms.filter (inLine kind? · == some k) = ls.filter (inLine kind? · == some k)

theorem inLine_of_ok {α : Type} {l : Text} {d : Declaration} (h : ofLine l = .ok d)
    (f : Declaration → Option α) : inLine f l = f d := by
  rw [inLine, h]
  rfl

theorem filterMap_inLine_some {α : Type} (f : Declaration → Option α) (ls : List Text) :
    (ls.filterMap (inLine some)).filterMap f = ls.filterMap (inLine f) := by
  rw [List.filterMap_filterMap]
  apply List.filterMap_congr
  intro l _
  cases h : ofLine l with
  | error e => rw [inLine, inLine, h]; rfl
  | ok d => rw [inLine_of_ok h, inLine_of_ok h, Option.bind_some]

/-- Lines of other kinds are not seen. -/
theorem IsAbout.filterMap_filter {α : Type} {k : Kind} {f : Declaration → Option α}
    (hf : IsAbout k f) (ls : List Text) :
    (ls.filter (inLine kind? · == some k)).filterMap (inLine f) = ls.filterMap (inLine f) := by
  rw [List.filterMap_filter]
  apply List.filterMap_congr
  intro l _
  cases h : ofLine l with
  | error e =>
    rw [inLine, inLine, h]
    exact ite_self none
  | ok d =>
    rw [inLine_of_ok h, inLine_of_ok h]
    cases hd : f d with
    | none => exact ite_self none
    | some a => rw [hf d a hd, beq_self_eq_true, if_pos rfl]

theorem Rearranged.filterMap {ls ms : List Text} (h : Rearranged ls ms) {α : Type} {k : Kind}
    {f : Declaration → Option α} (hf : IsAbout k f) :
    ms.filterMap (inLine f) = ls.filterMap (inLine f) := by
  rw [← hf.filterMap_filter ms, h.kinds k, hf.filterMap_filter]

/-- Complete lines are taken up one by one, and nothing waits. -/
theorem foldlM_of_isComplete {ls : List Text} (hls : ∀ l ∈ ls, IsComplete l) (t : Table) :
    ls.foldlM Draft.step ⟨t, none⟩ =
      .ok ⟨(ls.filterMap (inLine some)).foldl Table.declare t, none⟩ := by
  induction ls generalizing t with
  | nil => rfl
  | cons l ls ih =>
    obtain ⟨⟨d, hd, hinline⟩, hrest⟩ := List.forall_mem_cons.mp hls
    have hstep : Draft.step ⟨t, none⟩ l = .ok ⟨t.declare d, none⟩ := by
      rw [Draft.step, hd]
      cases d with
      | foreignKey c target =>
        cases target with
        | none => exact absurd rfl (hinline c)
        | some g => rfl
      | _ => rfl
    rw [List.foldlM_cons, hstep, List.filterMap_cons, inLine_of_ok hd]
    exact ih hrest (t.declare d)

end Declaration

open Declaration

/-- A statement with complete lines declares what these leave of the table that its head names. -/
theorem Table.ofBlock_of_isComplete {head : Text} {ls : List Text}
    (hlines : ∀ l ∈ head :: ls, '\n' ∉ l) (hls : ∀ l ∈ ls, IsComplete l) :
    ofBlock (head ++ Text.below ls) = (TableName.ofHead head).map fun name =>
      (ls.filterMap (inLine some)).foldl declare (ofName name) := by
  obtain ⟨hhead, hbody⟩ := List.forall_mem_cons.mp hlines
  have hfront : Draft.ofFront head = (TableName.ofHead head).map fun name => ⟨ofName name, none⟩ := by
    rw [Draft.ofFront, List.splitOn_eq_singleton hhead]
    rfl
  rw [ofBlock, Draft.ofFront_below head hbody, hfront]
  cases TableName.ofHead head with
  | error e => rfl
  | ok name =>
    show (ls.foldlM Draft.step ⟨ofName name, none⟩).map _ = _
    rw [foldlM_of_isComplete hls]
    rfl

/-- The lines of a statement may be rearranged as long as those of each kind keep their order. The
last primary key counts, all unique indexes do, and for each column the last target. -/
theorem ofBlock_rearranged {head : Text} {ls ms : List Text}
    (hlines : ∀ l ∈ head :: ls, '\n' ∉ l) (hls : ∀ l ∈ ls, IsComplete l)
    (hms : Rearranged ls ms) :
    Table.ofBlock (head ++ Text.below ms) = Table.ofBlock (head ++ Text.below ls) ∧
      ∀ name, TableName.ofHead head = .ok name →
        ∃ t, Table.ofBlock (head ++ Text.below ls) = .ok t ∧
          t.primaryKey = (ls.filterMap (inLine primaryKey?)).getLastD [] ∧
          t.uniqueIndexes = ls.filterMap (inLine uniqueIndex?) ∧
          ∀ c : Text, t.foreignKeys[c]? =
            ((ls.filterMap (inLine foreignKey?)).findRev? (·.1 == c)).map Prod.snd := by
  have hlines' : ∀ l ∈ head :: ms, '\n' ∉ l := fun l hl =>
    hlines l ((hms.perm.cons head).subset hl)
  have hms' : ∀ l ∈ ms, IsComplete l := fun l hl => hls l (hms.perm.subset hl)
  -- Both runs come to the same closed form, and each of its fields is about one kind.
  have hfold := fun (ls : List Text) name =>
    Table.foldl_declare (ls.filterMap (inLine some)) (.ofName name)
  simp only [filterMap_inLine_some] at hfold
  constructor
  · rw [Table.ofBlock_of_isComplete hlines hls, Table.ofBlock_of_isComplete hlines' hms']
    simp only [hfold, hms.filterMap isAbout_primaryKey?, hms.filterMap isAbout_uniqueIndex?,
      hms.filterMap isAbout_foreignKey?, hms.filterMap isAbout_column?]
  · intro name hname
    rw [Table.ofBlock_of_isComplete hlines hls, hname]
    refine ⟨_, rfl, ?_, ?_, ?_⟩
    · exact congrArg Table.primaryKey (hfold ls name)
    · exact congrArg Table.uniqueIndexes (hfold ls name)
    · intro c
      rw [← Table.getElem?_insertMany_eq]
      exact congrArg (fun t : Table => t.foreignKeys[c]?) (hfold ls name)

/-- Of two foreign keys the last one counts, wherever the column and the primary key stand. -/
theorem ofBlock_rearranged_foreignKeys :
    ∃ t, Table.ofBlock ("CREATE TABLE `t` (".toList ++ Text.below
        ["FOREIGN KEY (`a`) REFERENCES `u` (`i`),".toList,
          "FOREIGN KEY (`a`) REFERENCES `v` (`j`)".toList, "UNIQUE KEY `k` (`a`)".toList,
          "`a` int".toList, "PRIMARY KEY (`a`)".toList, ");".toList]) = .ok t ∧
      Table.ofBlock ("CREATE TABLE `t` (".toList ++ Text.below
        ["`a` int".toList, "PRIMARY KEY (`a`)".toList,
          "FOREIGN KEY (`a`) REFERENCES `u` (`i`),".toList,
          "FOREIGN KEY (`a`) REFERENCES `v` (`j`)".toList, "UNIQUE KEY `k` (`a`)".toList,
          ");".toList]) = .ok t ∧
      t.primaryKey = [['a']] ∧ t.uniqueIndexes = [[['a']]] ∧
      t.foreignKeys[['a']]? = some ⟨none, ['v'], ['j']⟩ := by
  have hread : ofLine "`a` int".toList = .ok (.column ⟨['a'], "int".toList, true, false⟩) ∧
      ofLine "PRIMARY KEY (`a`)".toList = .ok (.primaryKey [['a']]) ∧
      ofLine "FOREIGN KEY (`a`) REFERENCES `u` (`i`),".toList =
        .ok (.foreignKey ['a'] (some ⟨none, ['u'], ['i']⟩)) ∧
      ofLine "FOREIGN KEY (`a`) REFERENCES `v` (`j`)".toList =
        .ok (.foreignKey ['a'] (some ⟨none, ['v'], ['j']⟩)) ∧
      ofLine "UNIQUE KEY `k` (`a`)".toList = .ok (.uniqueIndex [['a']]) ∧
      ofLine ");".toList = .ok .other ∧
      TableName.ofHead "CREATE TABLE `t` (".toList = .ok ⟨none, ['t']⟩ := by
    decide +kernel
  obtain ⟨hc, hp, hu, hv, hk, he, hname⟩ := hread
  have hnewline : ∀ l ∈ ["CREATE TABLE `t` (".toList, "`a` int".toList, "PRIMARY KEY (`a`)".toList,
      "FOREIGN KEY (`a`) REFERENCES `u` (`i`),".toList,
      "FOREIGN KEY (`a`) REFERENCES `v` (`j`)".toList, "UNIQUE KEY `k` (`a`)".toList,
      ");".toList], '\n' ∉ l := by
    decide +kernel
  -- The lines are opaque from here on; only what they declare counts.
  generalize "`a` int".toList = c, "PRIMARY KEY (`a`)".toList = p,
    "FOREIGN KEY (`a`) REFERENCES `u` (`i`),".toList = u,
    "FOREIGN KEY (`a`) REFERENCES `v` (`j`)".toList = v, "UNIQUE KEY `k` (`a`)".toList = k,
    ");".toList = e, "CREATE TABLE `t` (".toList = head at *
  have hcomplete : ∀ l ∈ [c, p, u, v, k, e], IsComplete l := by
    simp only [List.forall_mem_cons]
    exact ⟨⟨_, hc, nofun⟩, ⟨_, hp, nofun⟩, ⟨_, hu, nofun⟩, ⟨_, hv, nofun⟩, ⟨_, hk, nofun⟩,
      ⟨_, he, nofun⟩, List.forall_mem_nil _⟩
  have hms : Rearranged [c, p, u, v, k, e] [u, v, k, c, p, e] := by
    have hperm : ([u, v, k] ++ [c, p]).Perm ([c, p] ++ [u, v, k]) := List.perm_append_comm
    refine ⟨hperm.append_right [e], fun kind => ?_⟩
    simp only [List.filter_cons, inLine_of_ok hc, inLine_of_ok hp, inLine_of_ok hu,
      inLine_of_ok hv, inLine_of_ok hk, inLine_of_ok he]
    cases kind <;> rfl
  have hfind : ∀ {α : Type} (f : Declaration → Option α),
      [c, p, u, v, k, e].filterMap (inLine f) =
        [.column ⟨['a'], "int".toList, true, false⟩, .primaryKey [['a']],
          .foreignKey ['a'] (some ⟨none, ['u'], ['i']⟩),
          .foreignKey ['a'] (some ⟨none, ['v'], ['j']⟩), .uniqueIndex [['a']],
          .other].filterMap f := by
    intro α f
    simp only [List.filterMap_cons, inLine_of_ok hc, inLine_of_ok hp, inLine_of_ok hu,
      inLine_of_ok hv, inLine_of_ok hk, inLine_of_ok he]
    rfl
  obtain ⟨hsame, hall⟩ := ofBlock_rearranged hnewline hcomplete hms
  obtain ⟨t, ht, hprimaryKey, huniqueIndexes, hforeignKeys⟩ := hall _ hname
  refine ⟨t, hsame.trans ht, ht, ?_, ?_, ?_⟩
  · rw [hprimaryKey, hfind]
    rfl
  · rw [huniqueIndexes, hfind]
    rfl
  · rw [hforeignKeys, hfind]
    rfl

end SqlOutline
