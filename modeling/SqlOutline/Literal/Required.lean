import SqlOutline.Error
import SqlOutline.Literal.Cut

/-!
Lines that must name something between backticks.
-/

namespace SqlOutline

/-- The literals of `line`; there must be one. -/
def requiredNames (line : Text) : Except Error (List Text) :=
  match (Cut.ofText line).names with
  | [] => .error (.noLiteral (Text.trim line))
  | name :: names => .ok (name :: names)

/-- The first literal of `line`; there must be one. -/
def requiredName (line : Text) : Except Error Text :=
  match (Cut.ofText line).names with
  | [] => .error (.noLiteral (Text.trim line))
  | name :: _ => .ok name

end SqlOutline
