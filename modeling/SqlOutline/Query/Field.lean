import SqlOutline.Boundary
import SqlOutline.Error
import SqlOutline.Literal.Store
import SqlOutline.Query.ClauseSet

/-!
The entries of a field list.

Entries are parted by commas outside literals, also by the commas inside a function call. An entry is
a column, with a table in front of the first dot and a label behind AS if it has them.
-/

namespace SqlOutline

/-- One entry of a field list. The column and its table are kept as written, the label without
backticks. -/
structure Field where
  column : Text
  table : Option Text
  label : Option Text
  deriving DecidableEq, Repr

namespace Field

/-- The name under which the field appears in a result. -/
def outputName (f : Field) : Text := f.label.getD f.column

/-- The keyword in front of a label. -/
def labelKeyword : Keyword := .ofPhrases ["AS"]

/-- Divides an entry into its expression and the text behind the label keyword. -/
def divide (tag entry : Text) : Text × Option Text :=
  match labelKeyword.find? tag entry with
  | some o => (Text.trim o.before, some (Text.trim o.after))
  | none => (entry, none)

/-- The field of a trimmed entry whose literals are in `store`. -/
def ofEntry (store : LiteralStore) (entry : Text) : Field :=
  let (expression, label) := divide store.tag entry
  let (table, column) := Text.splitQualifier expression
  { column := store.restore column
    table := table.map store.restore
    label := (label.map fun l => unquote (store.restore l)).filter (!·.isEmpty) }

/-- The fields of a field list; blank entries are none. -/
def ofClause (tag clause : Text) : List Field :=
  let (hidden, store) := hideLiterals tag clause
  (((hidden.splitOn ',').map Text.trim).filter (!·.isEmpty)).map (ofEntry store)

end Field

/-- The fields of a statement. -/
def ClauseSet.fieldList (s : ClauseSet) (tag : Text) : Except Error (List Field) :=
  match s.fields with
  | some clause => .ok (Field.ofClause tag clause)
  | none => .error (.absentClause .fields)

end SqlOutline
