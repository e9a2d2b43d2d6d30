import SqlOutline.Error
import SqlOutline.Literal.Store
import SqlOutline.Query.ClauseSet

/-!
The table that a statement reads from.

The reference ends at the first white space outside literals. Of the words behind it the last one is
the label, with or without AS in between.
-/

namespace SqlOutline

/-- A reference to a table. All parts are kept as written. -/
structure TableRef where
  database : Option Text
  table : Text
  label : Option Text
  deriving DecidableEq, Repr

namespace TableRef
open Unicode

/-- Whether `word` is AS in any mixture of ASCII case. -/
def isLabelKeyword (word : Text) : Bool := word.map Char.toLower == ['a', 's']

/-- Divides a trimmed source clause into the reference and the text behind it. -/
def divide (clause : Text) : Text × Text :=
  (Text.cutAt? isWhiteSpace clause).getD (clause, [])

/-- The reference of a source clause. -/
def ofClause (tag clause : Text) : TableRef :=
  let (hidden, store) := hideLiterals tag (Text.trim clause)
  let (reference, rest) := divide hidden
  let (database, table) := Text.splitQualifier reference
  { database := database.map store.restore
    table := store.restore table
    label := ((Text.words rest).getLast?.filter (!isLabelKeyword ·)).map store.restore }

end TableRef

/-- The table that a statement reads from. -/
def ClauseSet.tableRef (s : ClauseSet) (tag : Text) : Except Error TableRef :=
  match s.source with
  | some clause => .ok (TableRef.ofClause tag clause)
  | none => .error (.absentClause .source)

end SqlOutline
