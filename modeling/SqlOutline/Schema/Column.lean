import SqlOutline.Text.Reader
import SqlOutline.Unicode.CaseMap

/-!
Declarations of columns: a name between backticks, white space, a type, and options.

The type ends at the first white space outside parentheses. Options are looked for in upper case,
each with one space in front of every word of it.
-/

namespace SqlOutline
open Unicode

/-- A declared column. The type is in lower case, with its size or precision. -/
structure Column where
  name : Text
  dataType : Text
  nullable : Bool
  autoIncrement : Bool
  deriving DecidableEq, Repr

namespace Column

/-- The front of a text up to the first white space outside parentheses, of which `depth` are open
before it. A closing parenthesis without a partner counts for nothing. -/
def typeSpan (depth : Nat) : Text → Text
  | [] => []
  | c :: t =>
    if c = '(' then c :: typeSpan (depth + 1) t
    else if c = ')' then c :: typeSpan (depth - 1) t
    else if isWhiteSpace c && depth == 0 then []
    else c :: typeSpan depth t

/-- `t` without the commas at its end. -/
def dropCommas (t : Text) : Text := (t.reverse.dropWhile (· == ',')).reverse

/-- The type that a declaration gives behind the name. -/
def typeOf (declaration : Text) : Text := lower (dropCommas (typeSpan 0 declaration))

/-- Whether `option` stands among the options of a declaration. -/
def hasOption (option : String) (declaration : Text) : Bool :=
  Text.hasPart option.toList (upper declaration)

/-- The name between the backticks at the front of a line, and the text behind the white space after
it. -/
def readName? (line : Text) : Option (Text × Text) := do
  let (opening, t) ← Text.cutAt? (· == backtick) line
  let (name, t) ← Text.cutAt? (· == backtick) t
  let (_, declaration) ← Reader.run isWhiteSpace t
  if opening.isEmpty && !name.isEmpty then return (name, declaration) else none

/-- The column that a line declares. The declaration may not be empty and has no line break. -/
def ofLine? (line : Text) : Option Column := do
  let (name, declaration) ← readName? line
  if declaration.isEmpty || declaration.contains '\n' then none
  else return {
    name
    dataType := typeOf declaration
    nullable := !hasOption " NOT NULL" declaration
    autoIncrement := hasOption " AUTO_INCREMENT" declaration }

end Column
end SqlOutline
