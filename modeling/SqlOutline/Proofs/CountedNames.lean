import SqlOutline.Proofs.WrittenHead
import SqlOutline.Proofs.WrittenLine

/-!
Names that are told apart by their place among the literals of a line.

A reference names a table, perhaps with a database in front, and then columns; a unique index may
have a name in front of its columns. What a name stands for is told by its place alone. So a table
without database is taken for a database as soon as two columns are referred to
(`Declaration.ofLine_reference`), and an index without a name between backticks loses its first
column (`Declaration.ofLine_named_iff`).
-/

namespace SqlOutline
open Unicode

namespace Target

/-- A reference to columns of a table, with `sep` between the columns. -/
def reference (sep : Text) (n : TableName) (columns : List Text) : Text :=
  "REFERENCES ".toList ++ (n.written ++ ' ' :: enlist sep columns)

/-- The target that is read for a reference to the columns `c` and `cs` of a table. -/
def counted (n : TableName) (c : Text) (cs : List Text) : Target :=
  match n.database, cs with
  | none, c' :: _ => ⟨some n.table, c, c'⟩
  | database, _ => ⟨database, n.table, c⟩

/-- The table is taken for what it is if it has a database or if there is one column. -/
theorem counted_eq_iff (n : TableName) (c : Text) (cs : List Text) :
    (counted n c cs).database = n.database ∧ (counted n c cs).table = n.table ↔
      n.database.isSome = true ∨ cs = [] := by
  obtain ⟨database, table⟩ := n
  cases database <;> cases cs <;> simp [counted]

section
variable {n : TableName} {c : Text} {cs : List Text}

theorem ofSegment_counted (hnames : ∀ x ∈ n.database.toList ++ n.table :: c :: cs, backtick ∉ x)
    {m : Text} (hm : Lists (n.database.toList ++ n.table :: c :: cs) m) :
    ofSegment m = .ok (counted n c cs) := by
  rw [ofSegment, hm.names_ofText hnames]
  obtain ⟨database, table⟩ := n
  cases database <;> cases cs <;> rfl

variable {sep : Text} (hsep : Separators sep)
include hsep

theorem lists_reference (n : TableName) (columns : List Text) :
    Lists (n.database.toList ++ n.table :: columns)
      (' ' :: (n.written ++ ' ' :: enlist sep columns)) := by
  have hcolumns := lists_enlist hsep (r := [' ']) (e := []) (by decide) columns (by decide)
  rw [List.append_nil] at hcolumns
  exact TableName.lists_written (r := [' ']) (by decide) n hcolumns

end

theorem getLast?_reference (sep : Text) (n : TableName) (columns : List Text) :
    (reference sep n columns).getLast? = some ')' := by
  unfold reference
  simp [List.getLast?_cons]

end Target

namespace Declaration

/-- The target of a reference is told by counting its names. It is the same on a line of its own and
behind the columns of a foreign key. -/
theorem ofLine_reference {sep : Text} (hsep : Separators sep) {n : TableName} {c : Text}
    {cs : List Text} (hnames : ∀ x ∈ n.database.toList ++ n.table :: c :: cs, backtick ∉ x)
    {key : Text} {keys : List Text} (hkeys : ∀ x ∈ key :: keys,
      backtick ∉ x ∧ Target.keyword.findWhole? false x = none) :
    Target.ofLine (Target.reference sep n (c :: cs)) = .ok (some (Target.counted n c cs)) ∧
      ofLine ("FOREIGN KEY ".toList ++ (enlist sep (key :: keys) ++
          ' ' :: Target.reference sep n (c :: cs))) =
        .ok (.foreignKey key (some (Target.counted n c cs))) ∧
      ((Target.counted n c cs).database = n.database ∧ (Target.counted n c cs).table = n.table ↔
        n.database.isSome = true ∨ cs = []) := by
  have hlast := Target.getLast?_reference sep n (c :: cs)
  have hform : Target.reference sep n (c :: cs) =
      "REFERENCES".toList ++ ' ' :: (n.written ++ ' ' :: enlist sep (c :: cs)) := rfl
  have hend : endsWord (' ' :: (n.written ++ ' ' :: enlist sep (c :: cs))) = true := rfl
  have htarget := Target.ofSegment_counted hnames (Target.lists_reference hsep n (c :: cs))
  refine ⟨?_, ?_, Target.counted_eq_iff n c cs⟩
  · have htrim : IsTrimmed (Target.reference sep n (c :: cs)) :=
      isTrimmed_of_ends rfl hlast (by decide) (by decide)
    rw [hform] at htrim ⊢
    rw [ofLine_references hend htrim, htarget]
    rfl
  · have hlist : Lists (key :: keys) ([' '] ++ (enlist sep (key :: keys) ++ [' '])) :=
      lists_enlist hsep (by decide) _ (by decide)
    have htrim : IsTrimmed ("FOREIGN KEY ".toList ++ (enlist sep (key :: keys) ++
        ' ' :: Target.reference sep n (c :: cs))) := by
      refine isTrimmed_of_ends (c := 'F') (d := ')') rfl ?_ (by decide) (by decide)
      rw [← List.append_assoc, List.getLast?_append_of_ne_nil _ (List.cons_ne_nil _ _),
        List.getLast?_cons, hlast]
      rfl
    have hline : "FOREIGN KEY ".toList ++ (enlist sep (key :: keys) ++
        ' ' :: Target.reference sep n (c :: cs)) =
        [] ++ ("FOREIGN KEY".toList ++ (([' '] ++ (enlist sep (key :: keys) ++ [' '])) ++
          ("REFERENCES".toList ++ ' ' :: (n.written ++ ' ' :: enlist sep (c :: cs))))) := by
      rw [hform]
      simp
    rw [hline] at htrim ⊢
    rw [ofLine_foreignKeyword (.inl rfl) rfl htrim,
      foreignKeyOf_inline hlist (fun x hx => (hkeys x hx).1) (fun x hx => (hkeys x hx).2) hend,
      htarget]
    rfl

theorem ofLine_reference_in_database :
    ∃ n : TableName, n = ⟨some "shop".toList, "users".toList⟩ ∧ Separators ", ".toList ∧
      (∀ x ∈ n.database.toList ++ n.table :: ["a".toList, "b".toList], backtick ∉ x) ∧
      (∀ x ∈ ["no_references".toList, "b".toList],
        backtick ∉ x ∧ Target.keyword.findWhole? false x = none) ∧
      ofLine "FOREIGN KEY (`no_references`, `b`) REFERENCES `shop`.`users` (`a`, `b`)".toList =
        .ok (.foreignKey "no_references".toList
          (some ⟨some "shop".toList, "users".toList, "a".toList⟩)) := by
  have hsep : Separators ", ".toList := by decide
  have hnames : ∀ x ∈ (some "shop".toList).toList ++ "users".toList :: ["a".toList, "b".toList],
      backtick ∉ x := by
    decide
  have hkeys : ∀ x ∈ ["no_references".toList, "b".toList],
      backtick ∉ x ∧ Target.keyword.findWhole? false x = none := by
    decide +kernel
  have hread := ofLine_reference hsep (n := ⟨some "shop".toList, "users".toList⟩) hnames hkeys
  exact ⟨_, rfl, hsep, hnames, hkeys, hread.2.1⟩

/-- The table of two columns is read as a database, and the first column as the table. -/
theorem ofLine_reference_without_database :
    Target.reference ", ".toList ⟨none, ['t']⟩ [['c'], ['d']] =
        "REFERENCES `t` (`c`, `d`)".toList ∧
      Target.ofLine "REFERENCES `t` (`c`, `d`)".toList = .ok (some ⟨some ['t'], ['c'], ['d']⟩) ∧
      ofLine "FOREIGN KEY (`a`, `b`) REFERENCES `t` (`c`, `d`)".toList =
        .ok (.foreignKey ['a'] (some ⟨some ['t'], ['c'], ['d']⟩)) := by
  decide +kernel

/-- The name in front of the columns of an index: between backticks, bare, or left out. -/
inductive IndexName where
  | quoted (n : Text) (hn : backtick ∉ n)
  | bare (w : Text) (hw : backtick ∉ w)
  | absent

namespace IndexName

/-- The name with the blanks around it. -/
def written : IndexName → Text
  | quoted n _ => [' '] ++ enquote n ++ [' ']
  | bare w _ => [' '] ++ w ++ [' ']
  | absent => [' ']

/-- The name if it stands between backticks. -/
def literal? : IndexName → Option Text
  | quoted n _ => some n
  | _ => none

theorem space_notMem : backtick ∉ [' '] := by
  decide

theorem even_written (name : IndexName) : name.written.count backtick % 2 = 0 := by
  cases name with
  | quoted n hn => exact Cut.even_around space_notMem (by rw [Cut.count_enquote hn]) space_notMem
  | bare w hw =>
    exact Cut.even_around space_notMem (by rw [List.count_eq_zero.mpr hw]) space_notMem
  | absent => rfl

theorem names_written (name : IndexName) :
    (Cut.ofText name.written).names = name.literal?.toList := by
  cases name with
  | quoted n hn =>
    rw [written, Cut.ofText_around space_notMem (by rw [Cut.count_enquote hn]) space_notMem,
      Cut.ofText_enquote hn]
    rfl
  | bare w hw =>
    rw [written, Cut.ofText_around space_notMem (by rw [List.count_eq_zero.mpr hw]) space_notMem,
      Cut.ofText_of_notMem hw]
    rfl
  | absent => rfl

theorem endsWord_written (name : IndexName) (t : Text) : endsWord (name.written ++ t) = true := by
  cases name <;> rfl

end IndexName

section
variable {p k : Text} (hp : IsConstraint p) (hk : uniqueKeyword.Spells k)
include hp hk

/-- Neither a constraint nor the keyword opens with white space. -/
theorem isTrimmed_uniqueKeyword {t : Text} {d : Char} (hlast : t.getLast? = some d)
    (hd : isWhiteSpace d = false) : IsTrimmed (p ++ (k ++ t)) := by
  have hne : t ≠ [] := by
    rintro rfl
    cases hlast
  have hback : (p ++ (k ++ t)).getLast? = some d := by
    rw [← List.append_assoc, List.getLast?_append_of_ne_nil _ hne, hlast]
  constructor
  · intro c hc
    rcases hp with rfl | ⟨n, -, rfl⟩
    · rw [List.nil_append, List.head?_append_of_ne_nil _ (hk.ne_nil uniqueKeyword_plain)] at hc
      exact hk.head_not_isWhiteSpace uniqueKeyword_plain c hc
    · obtain rfl : 'C' = c := Option.some.inj hc
      decide
  · intro c hc
    rwa [← Option.some.inj (hback.symm.trans hc)]

/-- The first literal behind the keyword is left out, whether it is the name of the index or a
column. -/
theorem ofLine_named (name : IndexName) {columns : List Text} (hne : columns ≠ [])
    (hcolumns : ∀ n ∈ columns, backtick ∉ n) {l : Text} (hl : Lists columns l)
    (htrim : IsTrimmed (p ++ (k ++ (name.written ++ l)))) :
    ofLine (p ++ (k ++ (name.written ++ l))) =
      .ok (.uniqueIndex (name.literal?.toList ++ columns).tail) := by
  have hnames : (Cut.ofText (name.written ++ l)).names = name.literal?.toList ++ columns := by
    rw [Cut.ofText_append name.even_written, Cut.names_append, name.names_written,
      hl.names_ofText hcolumns]
  have hsome : name.literal?.toList ++ columns ≠ [] := List.append_ne_nil_of_right_ne_nil _ hne
  rw [ofLine_uniqueKeyword hp hk (name.endsWord_written l) htrim, requiredNames, hnames]
  obtain ⟨x, xs, hform⟩ := List.exists_cons_of_ne_nil hsome
  rw [hform]
  rfl

end

/-- The columns of a unique index are read as they were written exactly if the name of the index
stands between backticks in front of them; otherwise the first column is lost. -/
theorem ofLine_named_iff {p k : Text} (hp : IsConstraint p) (hk : uniqueKeyword.Spells k)
    (name : IndexName) {columns : List Text} (hne : columns ≠ [])
    (hcolumns : ∀ n ∈ columns, backtick ∉ n) {sep e : Text} (hsep : Separators sep)
    (he : e = [] ∨ e = [',']) :
    (ofLine (p ++ (k ++ (name.written ++ (enlist sep columns ++ e)))) = .ok (.uniqueIndex columns) ↔
        name.literal?.isSome = true) ∧
      (name.literal? = none →
        ofLine (p ++ (k ++ (name.written ++ (enlist sep columns ++ e)))) =
          .ok (.uniqueIndex columns.tail)) := by
  have hcomma : Separators e := by rcases he with rfl | rfl <;> decide
  have hlist : Lists columns (enlist sep columns ++ e) :=
    lists_enlist hsep (r := []) hcomma columns (by decide)
  obtain ⟨d, hlast, hd⟩ : ∃ d, (name.written ++ (enlist sep columns ++ e)).getLast? = some d ∧
      isWhiteSpace d = false := by
    rcases he with rfl | rfl
    · exact ⟨')', by simp, by decide⟩
    · exact ⟨',', by simp, by decide⟩
  have hread := ofLine_named hp hk name hne hcolumns hlist
    (isTrimmed_uniqueKeyword hp hk hlast hd)
  rw [hread]
  cases hname : name.literal? with
  | some n => simp
  | none =>
    obtain ⟨c, cs, rfl⟩ := List.exists_cons_of_ne_nil hne
    simp

theorem ofLine_named_after_column :
    ∃ name : IndexName, name.written = " `a` ".toList ∧ name.literal?.isSome = true ∧
      IsConstraint "CONSTRAINT `k` ".toList ∧ uniqueKeyword.Spells "unique Key".toList ∧
      (∀ n ∈ [['a'], ['b']], backtick ∉ n) ∧ Separators [','] ∧
      ofLine "CONSTRAINT `k` unique Key `a` (`a`,`b`),".toList =
        .ok (.uniqueIndex [['a'], ['b']]) := by
  have hp : IsConstraint "CONSTRAINT `k` ".toList := .inr ⟨['k'], by decide, rfl⟩
  have hread : uniqueKeyword.read "unique Key".toList = some ("unique Key".toList, []) := by
    decide +kernel
  have hk := ((Keyword.read_eq_some_iff uniqueKeyword_plain).mp hread).2
  have hcolumns : ∀ n ∈ [['a'], ['b']], backtick ∉ n := by decide
  have hsep : Separators [','] := by decide
  have hindex : backtick ∉ ['a'] := by decide
  have hline := ofLine_named_iff hp hk (.quoted ['a'] hindex) (by simp) hcolumns hsep (.inr rfl)
  exact ⟨.quoted ['a'] hindex, rfl, rfl, hp, hk, hcolumns, hsep, hline.1.mpr rfl⟩

/-- The first column is taken for the name of an index that has none between backticks. -/
theorem ofLine_unnamed :
    ofLine "UNIQUE KEY (`a`,`b`)".toList = .ok (.uniqueIndex [['b']]) ∧
      ofLine "UNIQUE KEY idx (`a`,`b`),".toList = .ok (.uniqueIndex [['b']]) := by
  decide +kernel

end Declaration
end SqlOutline
