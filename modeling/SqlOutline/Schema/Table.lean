import Std.Data.ExtTreeMap
import SqlOutline.Schema.Column
import SqlOutline.Schema.TableName
import SqlOutline.Schema.Target

/-!
The outline of one table.

What is known of single columns is kept by name, in the order of code points. The order of
declaration is that of `columnOrder`.
-/

namespace SqlOutline

structure Table where
  name : TableName
  primaryKey : List Text := []
  uniqueIndexes : List (List Text) := []
  /-- The targets of the foreign keys, by local column. -/
  foreignKeys : Std.ExtTreeMap Text Target := ∅
  columnOrder : List Text := []
  types : Std.ExtTreeMap Text Text := ∅
  nullability : Std.ExtTreeMap Text Bool := ∅
  autoIncrement : Option Text := none
  deriving DecidableEq

namespace Table

/-- The table of which only the name is known. -/
def ofName (name : TableName) : Table := { name }

/-- The columns with a type, in order of declaration: name, type, and whether null is allowed, as it
is where nothing is known. -/
def columns (t : Table) : List (Text × Text × Bool) :=
  t.columnOrder.filterMap fun name =>
    t.types[name]?.map fun dataType => (name, dataType, t.nullability[name]?.getD true)

def inPrimaryKey (t : Table) (column : Text) : Bool := t.primaryKey.contains column

/-- Declares a column. A name declared before keeps its place and takes the new type and options. -/
def declareColumn (t : Table) (c : Column) : Table :=
  { t with
    columnOrder := if c.name ∈ t.types then t.columnOrder else t.columnOrder ++ [c.name]
    types := t.types.insert c.name c.dataType
    nullability := t.nullability.insert c.name c.nullable
    autoIncrement := if c.autoIncrement then some c.name else t.autoIncrement }

/-- Declares the primary key, in place of any other. -/
def setPrimaryKey (t : Table) (columns : List Text) : Table := { t with primaryKey := columns }

/-- Declares one more unique index. -/
def addUniqueIndex (t : Table) (columns : List Text) : Table :=
  { t with uniqueIndexes := t.uniqueIndexes ++ [columns] }

/-- Declares the target of a local column, in place of any other. -/
def setForeignKey (t : Table) (column : Text) (target : Target) : Table :=
  { t with foreignKeys := t.foreignKeys.insert column target }

end Table
end SqlOutline
