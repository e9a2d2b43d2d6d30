import SqlOutline.Error
import SqlOutline.Keyword
import SqlOutline.Literal.Store

/-!
The table named by the head line of a CREATE TABLE statement.

The name is looked for before the column list. With two backticks or more it is all that stands
between the first and the last of them; without, it is the word behind the keywords. A dot parts the
database from the table.
-/

namespace SqlOutline
open Unicode

/-- The name of a table, with the database it belongs to if that is named. -/
structure TableName where
  database : Option Text
  table : Text
  deriving DecidableEq, Repr

namespace TableName

/-- The name in one text, the database in front of a dot. -/
def qualified (n : TableName) : Text :=
  match n.database with
  | some database => database ++ '.' :: n.table
  | none => n.table

/-- The name written as in `qualified`; further dots belong to the table. -/
def ofQualified (t : Text) : TableName :=
  let (database, table) := Text.splitQualifier t
  ⟨database, table⟩

/-- The keyword of the statements that declare tables. -/
def createKeyword : Keyword := .ofPhrases ["CREATE TEMPORARY TABLE", "CREATE TABLE"]

/-- The clause that may stand between the keyword and the name. -/
def guardKeyword : Keyword := .ofPhrases ["IF NOT EXISTS"]

/-- The tag of the placeholders that hide the literals of a head line. -/
def headTag : Text := "tbl".toList

/-- A head line up to the column list, which opens with the first parenthesis outside literals. -/
def beforeColumns (head : Text) : Text :=
  let (hidden, store) := hideLiterals headTag head
  store.restore (hidden.takeWhile (· != '('))

/-- The text between the first backtick and the last, without the backticks in it. -/
def quotedSpan? (t : Text) : Option Text :=
  match t.splitOn backtick with
  | _ :: r :: s :: parts => some (r :: s :: parts).dropLast.flatten
  | _ => none

/-- Reads a name without quotes. -/
def readWord : Reader := Reader.run fun c => !isWhiteSpace c && c != '('

/-- The word at the front of `t`, past the guard if a word follows that. -/
def guardedWord? (t : Text) : Option Text :=
  match (guardKeyword.read.andThen (Reader.run isWhiteSpace)) t with
  | some (_, rest) => ((readWord rest).or (readWord t)).map (·.1)
  | none => (readWord t).map (·.1)

/-- The word behind the keyword at the front of `t`. -/
def bareName? (t : Text) : Option Text := do
  let (_, rest) ← (createKeyword.read.andThen (Reader.run isWhiteSpace)) (Text.trimStart t)
  guardedWord? rest

/-- The name of the table that a head line declares. -/
def ofHead (head : Text) : Except Error TableName :=
  let front := beforeColumns head
  match (quotedSpan? front).or (bareName? front) with
  | some name => .ok (ofQualified name)
  | none => .error (.noTableName (Text.trim front))

end TableName
end SqlOutline
