import SqlOutline.Comment
import SqlOutline.Schema.Block
import SqlOutline.Schema.Declaration
import SqlOutline.Schema.Table

/-!
The tables that a script declares.

A statement is read line by line. A foreign key whose line has no target waits for a line that opens
with REFERENCES; the lines in between are skipped, and it is dropped when no such line comes. The
first faulty line fails the whole script.
-/

namespace SqlOutline

/-- What has been read of a statement: the table so far, and the column whose foreign key waits for
its target. -/
structure Draft where
  table : Table
  waiting : Option Text := none
  deriving DecidableEq

namespace Draft

/-- Takes up a declaration. -/
def declare (d : Draft) : Declaration → Draft
  | .primaryKey columns => { d with table := d.table.setPrimaryKey columns }
  | .uniqueIndex columns => { d with table := d.table.addUniqueIndex columns }
  | .foreignKey column (some target) => { d with table := d.table.setForeignKey column target }
  | .foreignKey column none => { d with waiting := some column }
  | .column c => { d with table := d.table.declareColumn c }
  | .other => d

/-- Takes up one line. -/
def step (d : Draft) (line : Text) : Except Error Draft :=
  match d.waiting with
  | none => (Declaration.ofLine line).map d.declare
  | some column => (Target.ofLine line).map fun target =>
    match target with
    | some target => ⟨d.table.setForeignKey column target, none⟩
    | none => d

end Draft

/-- The lines of a statement behind its head, trimmed, without the blank ones. -/
def bodyLines (lines : List Text) : List Text := (lines.map Text.trim).filter (!·.isEmpty)

/-- What has been read of a statement when its lines so far are those of `t`. -/
def Draft.ofFront (t : Text) : Except Error Draft := do
  let lines := t.splitOn '\n'
  let name ← TableName.ofHead (lines.headD [])
  (bodyLines lines.tail).foldlM Draft.step ⟨.ofName name, none⟩

/-- The table that a statement declares. -/
def Table.ofBlock (block : Text) : Except Error Table := (Draft.ofFront block).map (·.table)

namespace Script

/-- The tables of a script, in order of appearance. -/
def tables (script : Text) : Except Error (List Table) := (Block.all script).mapM Table.ofBlock

/-- The tables of a script with line comments. -/
def commentedTables (script : Text) : Except Error (List Table) := tables (Comment.strip script)

/-- The tables of a script given as the bytes of a file; `none` stands for a file that is not
there. -/
def fileTables (file : Option ByteArray) : Except Error (List Table) :=
  match file.bind String.fromUTF8? with
  | some script => commentedTables script.toList
  | none => .error .unreadable

end Script
end SqlOutline
