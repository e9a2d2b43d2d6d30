import SqlOutline.Keyword

/-!
The clauses of a SELECT statement: their keywords, their order in the statement, and the order in
which they are cut off it.
-/

namespace SqlOutline

/-- A top-level section of a SELECT statement. -/
inductive Clause where
  | fields | source | joins | filter | grouping | having | ordering | limit
  deriving DecidableEq, Repr

namespace Clause

/-- The clauses in the order in which a statement has them. -/
def readingOrder : List Clause :=
  [fields, source, joins, filter, grouping, having, ordering, limit]

/-- The order in which clauses are cut off a statement, from its end. Joins go before the filter,
although they stand before it. -/
def peelOrder : List Clause :=
  [limit, ordering, having, grouping, joins, filter, source, fields]

theorem mem_peelOrder (c : Clause) : c ∈ peelOrder := by
  cases c <;> decide

theorem nodup_peelOrder : peelOrder.Nodup := by
  decide

/-- The clauses that every statement has. -/
def mandatory : List Clause := [fields, source]

/-- The name under which a clause is reported. -/
def title : Clause → String
  | fields => "SELECT"
  | source => "FROM"
  | joins => "JOIN"
  | filter => "WHERE"
  | grouping => "GROUP BY"
  | having => "HAVING"
  | ordering => "ORDER BY"
  | limit => "LIMIT"

/-- The keyword that opens a clause. A join is opened by its kind as well. -/
def keyword : Clause → Keyword
  | joins => .ofPhrases
      ["INNER JOIN", "CROSS JOIN", "LEFT OUTER JOIN", "LEFT JOIN", "RIGHT OUTER JOIN", "RIGHT JOIN",
        "JOIN"]
  | c => .ofPhrases [c.title]

/-- Whether the keyword belongs to the text of its clause. It does for joins alone, which would
lose their kind without it. -/
def keepsKeyword (c : Clause) : Bool := c == joins

/-- The text of a clause whose keyword was found at `o`. -/
def body (c : Clause) (o : Occurrence) : Text :=
  if c.keepsKeyword then o.found ++ o.after else o.after

end Clause
end SqlOutline
