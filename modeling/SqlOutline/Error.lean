import SqlOutline.Query.Clause
import SqlOutline.Text.Quoted

/-!
What can go wrong, and what is said about it.

An error is its cause; its kind and its message follow from that.
-/

namespace SqlOutline

/-- The kinds of failure that callers tell apart. -/
inductive ErrorKind where
  | malformedQuery | noLiteralFound | io
  deriving DecidableEq, Repr

namespace ErrorKind

def name : ErrorKind → String
  | malformedQuery => "MalformedQuery"
  | noLiteralFound => "NoLiteralFound"
  | io => "Io"

/-- What a report of this kind begins with. -/
def heading : ErrorKind → String
  | malformedQuery => "Malformed query"
  | noLiteralFound => "No literal found"
  | io => "I/O error"

end ErrorKind

/-- A failure in words. -/
structure Report where
  kind : ErrorKind
  message : Text
  deriving DecidableEq, Repr

/-- The report on one line, its kind first. -/
def Report.display (r : Report) : Text := r.kind.heading.toList ++ ": ".toList ++ r.message

/-- Why an outline cannot be given. Texts are kept without the white space around them. -/
inductive Error where
  /-- A statement lacks a clause, or has nothing in it. -/
  | missingClause (c : Clause) (query : Text)
  /-- A clause was asked for that the set does not have. -/
  | absentClause (c : Clause)
  /-- A line names nothing between backticks. -/
  | noLiteral (line : Text)
  /-- A reference names one thing alone. -/
  | noReference (segment : Text)
  /-- A head line names no table. -/
  | noTableName (head : Text)
  /-- A file is missing, or is not text in UTF-8. -/
  | unreadable
  deriving DecidableEq, Repr

namespace Error

def kind : Error → ErrorKind
  | missingClause _ _ | absentClause _ => .malformedQuery
  | noLiteral _ | noReference _ | noTableName _ => .noLiteralFound
  | unreadable => .io

def message : Error → Text
  | missingClause c query =>
    "missing ".toList ++ c.title.toList ++ " clause in ".toList ++ Text.quoted query
  | absentClause c => "query has no ".toList ++ c.title.toList ++ " clause".toList
  | noLiteral line => "expected a backtick-quoted name in ".toList ++ Text.quoted line
  | noReference segment =>
    "expected a referenced table and column in ".toList ++ Text.quoted segment
  | noTableName head => "no table name in ".toList ++ Text.quoted head
  | unreadable => "the file cannot be read as text".toList

def report (e : Error) : Report := ⟨e.kind, e.message⟩

end Error
end SqlOutline
