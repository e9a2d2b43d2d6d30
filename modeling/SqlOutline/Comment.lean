import SqlOutline.Text.Basic

/-!
Line comments of SQL, from two hyphens to the end of the line.

Hyphens inside quotes open no comment. Quotes are single, double or backticks; each closes with the
character that opened it, and none reaches past its line.
-/

namespace SqlOutline.Comment

/-- The characters that open a quoted span. -/
def isQuote (c : Char) : Bool := c == '\'' || c == '"' || c == backtick

/-- A line up to its first comment; `quote` is the quote open in front of it. -/
def live (quote : Option Char) : Text → Text
  | [] => []
  | c :: t =>
    match quote with
    | some q => c :: live (if c = q then none else some q) t
    | none =>
      if c = '-' ∧ t.head? = some '-' then []
      else c :: live (if isQuote c then some c else none) t

/-- `sql` without its line comments. Line breaks stay. -/
def strip (sql : Text) : Text :=
  ['\n'].intercalate ((sql.splitOn '\n').map (live none))

theorem live_isPrefix (quote : Option Char) (t : Text) : live quote t <+: t := by
  induction t generalizing quote with
  | nil => exact List.nil_prefix
  | cons c t ih =>
    cases quote with
    | some q => simpa [live] using ih _
    | none =>
      rw [live]
      split
      · exact List.nil_prefix
      · simpa using ih _

end SqlOutline.Comment
