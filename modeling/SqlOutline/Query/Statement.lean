import SqlOutline.Boundary
import SqlOutline.Error
import SqlOutline.Literal.Store
import SqlOutline.Query.ClauseSet

/-!
A SELECT statement cut into its clauses.

Clauses are cut off the end of the statement one after the other. Each is opened by the first bounded
occurrence of its keyword in what the clauses before it have left, and the text before that occurrence
is left for the next. What remains in front of SELECT is dropped.
-/

namespace SqlOutline

/-- Cuts the clauses `cs` off the end of `t` in their order; a clause that is found comes with its
trimmed text, which may be empty. -/
def peel (tag : Text) : List Clause → Text → List (Clause × Text)
  | [], _ => []
  | c :: cs, t =>
    match c.keyword.find? tag t with
    | some o => (c, Text.trim (c.body o)) :: peel tag cs o.before
    | none => peel tag cs t

/-- The clauses with a text, as they stand in `t`, whose literals are hidden. -/
def clausePieces (tag t : Text) : List (Clause × Text) :=
  (peel tag Clause.peelOrder t).filter fun (_, body) => !body.isEmpty

/-- The first mandatory clause that is not among `pieces`. -/
def missingClause? (pieces : List (Clause × Text)) : Option Clause :=
  Clause.mandatory.find? fun c => !pieces.any fun (d, _) => d == c

/-- The clauses of `query`, with their literals. Placeholders of `tag` hide the literals while
keywords are searched, so the query must not have such placeholders of its own. -/
def ClauseSet.ofQuery (tag query : Text) : Except Error ClauseSet :=
  let (hidden, store) := hideLiterals tag query
  let pieces := clausePieces tag hidden
  match missingClause? pieces with
  | some c => .error (.missingClause c (Text.trim query))
  | none => .ok (.ofEntries (pieces.map fun (c, body) => (c, store.restore body)))

end SqlOutline
