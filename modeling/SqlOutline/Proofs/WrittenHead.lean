import SqlOutline.Proofs.HeadFront
import SqlOutline.Proofs.NameList
import SqlOutline.Proofs.WrittenName

/-!
Head lines that name the table they were written for.

The name is found whatever it has in it, parentheses, dots and placeholders included, as long as the
first dot outside of backticks is the one between database and table
(`TableName.ofHead_written`).
-/

namespace SqlOutline
open Unicode Placeholder

namespace TableName

/-- The name as it is written: its parts between backticks, with a dot in between. -/
def written (n : TableName) : Text :=
  match n.database with
  | some database => enquote database ++ '.' :: enquote n.table
  | none => enquote n.table

/-- A name lists its parts. -/
theorem lists_written {r : Text} (hr : Separators r) (n : TableName) {names : List Text} {t : Text}
    (h : Lists names t) :
    Lists (n.database.toList ++ n.table :: names) (r ++ (n.written ++ t)) := by
  obtain ⟨database, table⟩ := n
  cases database with
  | none => simpa [written] using h.cons hr table
  | some d =>
    have hdot : Separators ['.'] := by decide
    simpa [written] using (h.cons hdot table).cons hr d

/-- A name that can be written down. A dot in its first part would be read as the one between the
parts. -/
structure Writable (n : TableName) : Prop where
  database : ∀ d ∈ n.database, IsName d ∧ '.' ∉ d
  table : IsName n.table
  undotted : n.database = none → '.' ∉ n.table

/-- A head line up to its column list, cut at its literals. -/
def frontCut (n : TableName) : Cut :=
  match n.database with
  | some database =>
    .literal "CREATE TABLE ".toList database (.literal ['.'] n.table (.plain [' ']))
  | none => .literal "CREATE TABLE ".toList n.table (.plain [' '])

theorem toText_frontCut (n : TableName) :
    n.frontCut.toText = "CREATE TABLE ".toList ++ (n.written ++ [' ']) := by
  obtain ⟨database, table⟩ := n
  cases database <;> simp [frontCut, written]

theorem allOutside_frontCut {p : Text → Prop}
    (h : ∀ t ∈ ["CREATE TABLE ".toList, ['.'], [' ']], p t) (n : TableName) :
    n.frontCut.AllOutside p := by
  obtain ⟨database, table⟩ := n
  have hcreate := h "CREATE TABLE ".toList (by simp)
  have hdot := h ['.'] (by simp)
  have hspace := h [' '] (by simp)
  cases database with
  | none => exact Cut.allOutside_literal.mpr ⟨hcreate, Cut.allOutside_plain.mpr hspace⟩
  | some d =>
    exact Cut.allOutside_literal.mpr
      ⟨hcreate, Cut.allOutside_literal.mpr ⟨hdot, Cut.allOutside_plain.mpr hspace⟩⟩

theorem names_frontCut (n : TableName) : n.frontCut.names = n.database.toList ++ [n.table] := by
  obtain ⟨database, table⟩ := n
  cases database <;> rfl

theorem paired_frontCut {n : TableName} (h : n.Writable) : n.frontCut.Paired := by
  refine Cut.paired_of_notMem (allOutside_frontCut (by decide) n) fun x hx => ?_
  rw [names_frontCut, List.mem_append, List.mem_singleton, Option.mem_toList] at hx
  rcases hx with hx | rfl
  · exact (h.database x hx).1.backtick_notMem
  · exact h.table.backtick_notMem

/-- The column list opens behind the name, and not inside of it. -/
theorem beforeColumns_written {n : TableName} (h : n.Writable) {g : Text} (hg : backtick ∉ g) :
    beforeColumns (n.frontCut.toText ++ '(' :: g) = n.frontCut.toText := by
  have hcut : Cut.ofText (n.frontCut.toText ++ '(' :: g) = n.frontCut ++ Cut.plain ('(' :: g) := by
    have hplain : backtick ∉ '(' :: g := by
      rw [List.mem_cons, not_or]
      exact ⟨by decide, hg⟩
    have hpaired : (n.frontCut ++ Cut.plain ('(' :: g)).Paired :=
      (paired_frontCut h).append (allOutside_frontCut (by decide) n)
        (by rw [Cut.paired_plain, List.count_eq_zero.mpr hplain]; exact Nat.zero_le 1)
    rw [← Cut.ofText_toText hpaired, Cut.toText_append, Cut.toText_plain]
  have hfront : front (n.frontCut.toText ++ '(' :: g) = n.frontCut := by
    rw [front, hcut, Cut.before_append (allOutside_frontCut (by decide) n)]
    simp
  rw [beforeColumns_of_stemFree, hfront]
  rw [hfront]
  exact allOutside_frontCut (by decide) n

theorem quotedSpan?_frontCut {n : TableName} (h : n.Writable) :
    quotedSpan? n.frontCut.toText = some n.qualified := by
  rw [toText_frontCut, quotedSpan?_append (by decide)]
  obtain ⟨database, table⟩ := n
  have htable := filter_eq_of_notMem h.table.backtick_notMem
  cases database with
  | none =>
    show quotedSpan? (enquote table ++ [' ']) = some table
    rw [quotedSpan?_between table (by decide), htable]
  | some d =>
    have hd := filter_eq_of_notMem (h.database d rfl).1.backtick_notMem
    have hform : written ⟨some d, table⟩ = enquote (d ++ backtick :: '.' :: backtick :: table) := by
      simp [written, enquote]
    have hdot : ('.' != backtick) = true := by decide
    rw [hform, quotedSpan?_between _ (by decide)]
    simp [qualified, hd, htable, hdot]

theorem ofQualified_qualified {n : TableName} (h : n.Writable) : ofQualified n.qualified = n := by
  have hform : n.qualified = qualify n.database n.table := by
    obtain ⟨_ | d, t⟩ := n <;> rfl
  rw [ofQualified, hform, splitQualifier_qualify (fun d hd => (h.database d hd).2) h.undotted]

/-- A head line names the table that it was written for. -/
theorem ofHead_written {n : TableName} (h : n.Writable) {g : Text} (hg : backtick ∉ g) :
    ofHead ("CREATE TABLE ".toList ++ (n.written ++ (" (".toList ++ g))) = .ok n := by
  have hform : "CREATE TABLE ".toList ++ (n.written ++ (" (".toList ++ g)) =
      n.frontCut.toText ++ '(' :: g := by
    rw [toText_frontCut]
    simp
  rw [hform, ofHead, beforeColumns_written h hg, quotedSpan?_frontCut h, Option.some_or]
  simp only [ofQualified_qualified h]

end TableName
end SqlOutline
