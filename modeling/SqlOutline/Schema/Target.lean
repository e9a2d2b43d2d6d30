import SqlOutline.Error
import SqlOutline.Keyword
import SqlOutline.Literal.Cut

/-!
The column that a foreign key refers to.
-/

namespace SqlOutline

/-- A column of a table elsewhere in the schema. -/
structure Target where
  database : Option Text
  table : Text
  column : Text
  deriving DecidableEq, Repr

namespace Target

/-- The keyword in front of a target. -/
def keyword : Keyword := .ofPhrases ["REFERENCES"]

/-- The target named by the text behind the keyword. Two literals are a table and a column; of more
the first three are a database, a table and a column. -/
def ofSegment (segment : Text) : Except Error Target :=
  match (Cut.ofText segment).names with
  | [] => .error (.noLiteral (Text.trim segment))
  | [_] => .error (.noReference (Text.trim segment))
  | [table, column] => .ok ⟨none, table, column⟩
  | database :: table :: column :: _ => .ok ⟨some database, table, column⟩

/-- The target of a line that opens with the keyword; any other line has none. -/
def ofLine (line : Text) : Except Error (Option Target) :=
  match keyword.readWhole (Text.trim line) with
  | some (_, segment) => (ofSegment segment).map some
  | none => .ok none

end Target
end SqlOutline
