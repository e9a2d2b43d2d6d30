import SqlOutline.Literal.Required
import SqlOutline.Schema.Column
import SqlOutline.Schema.Target

/-!
What a line in the body of a CREATE TABLE statement declares.

A line is told by the keyword it opens with, past the name of a constraint if it has one. Lines that
open with a key keyword must name their columns; lines that declare nothing of interest are `other`.
-/

namespace SqlOutline

inductive Declaration where
  | primaryKey (columns : List Text)
  | uniqueIndex (columns : List Text)
  /-- The target is absent when the line does not have it. -/
  | foreignKey (column : Text) (target : Option Target)
  | column (c : Column)
  | other
  deriving DecidableEq, Repr

namespace Declaration
open Unicode

def primaryKeyword : Keyword := .ofPhrases ["PRIMARY KEY"]

def uniqueKeyword : Keyword := .ofPhrases ["UNIQUE INDEX", "UNIQUE KEY"]

def foreignKeyword : Keyword := .ofPhrases ["FOREIGN KEY"]

def constraintKeyword : Keyword := .ofPhrases ["CONSTRAINT"]

/-- Whether `t` opens with a key keyword. -/
def opensKey (t : Text) : Bool :=
  [primaryKeyword, uniqueKeyword, foreignKeyword].any fun k => (k.readWhole t).isSome

/-- `t` without the name at its front: a literal, which may lack its closing backtick, or all up to
the first white space. -/
def skipName : Text → Text
  | [] => []
  | c :: t =>
    if c = backtick then ((Text.cutAt? (· == backtick) t).map (·.2)).getD []
    else (c :: t).dropWhile (!isWhiteSpace ·)

/-- A line without its constraint keyword and the name behind it. The name may be left out. -/
def dropConstraint (line : Text) : Text :=
  match constraintKeyword.readWhole line with
  | none => line
  | some (_, rest) =>
    let rest := Text.trimStart rest
    if opensKey rest then rest else Text.trimStart (skipName rest)

/-- The foreign key with the text `body` behind its keyword. The target is read first. -/
def foreignKeyOf (body : Text) : Except Error Declaration :=
  match Target.keyword.findWhole? false body with
  | some o => do
    let target ← Target.ofSegment o.after
    let column ← requiredName o.before
    return .foreignKey column (some target)
  | none => (requiredName body).map (.foreignKey · none)

/-- What a line without constraint name declares. The first literal of a unique index is the name of
the index. -/
def ofBareLine (line : Text) : Except Error Declaration :=
  match primaryKeyword.readWhole line with
  | some (_, rest) => (requiredNames rest).map .primaryKey
  | none =>
    match uniqueKeyword.readWhole line with
    | some (_, rest) => (requiredNames rest).map fun names => .uniqueIndex names.tail
    | none =>
      match foreignKeyword.readWhole line with
      | some (_, rest) => foreignKeyOf rest
      | none =>
        match Column.ofLine? line with
        | some c => .ok (.column c)
        | none => .ok .other

/-- What `line` declares. -/
def ofLine (line : Text) : Except Error Declaration :=
  ofBareLine (dropConstraint (Text.trim line))

end Declaration
end SqlOutline
