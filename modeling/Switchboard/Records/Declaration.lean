import Switchboard.Records.Specification

/-!
# Declarations

A declaration writes down the columns of a record type whose entities have a text
as their identity and a list of values as their state.  `Declaration.build` makes
the specification of it.

A system column is one of the lifecycle columns, or it has a name, a type and a
source.  A state column has a slot of the state as its source.  A slot past the
end of the state reads as null.  Nothing relates the type of a column to what its
source gives.
-/

namespace Switchboard.Records

abbrev Slots := List ColumnValue

def slotValue (n : Nat) (state : Slots) : ColumnValue := state[n]?.getD .null

/-- Where a system column takes its value from. -/
inductive Source where
  | id
  | active
  | slot (n : Nat)
deriving DecidableEq

/-- The value that a source gives. -/
def Source.value (e : Entity String Slots) : Source → ColumnValue
  | id => .text e.id
  | active => .bool e.lifecycle.isActive
  | slot n => slotValue n e.state

/-- A system column as it is declared. -/
inductive SystemColumn where
  | archived
  | deleted
  | version
  | custom (name : ColumnName) (type : ColumnType) (source : Source)

/-- The column of a declaration. -/
def SystemColumn.column : SystemColumn → Column (Entity String Slots)
  | archived => archivedColumn
  | deleted => deletedColumn
  | version => versionColumn
  | custom name type source => ⟨name, type, fun e => source.value e⟩

/-- A state column as it is declared. -/
structure StateColumn where
  name : ColumnName
  type : ColumnType
  slot : Nat

def StateColumn.column (c : StateColumn) : Column Slots := ⟨c.name, c.type, slotValue c.slot⟩

/-- The columns of a record type, as they are written down. -/
structure Declaration where
  recordType : String
  /-- The system columns, which are the lifecycle columns if they are not
  declared. -/
  system : Option (List SystemColumn) := none
  state : List StateColumn := []

namespace Declaration

/-- The declared system columns. -/
def systemColumns (d : Declaration) : List (Column (Entity String Slots)) :=
  match d.system with
  | none => lifecycleColumns
  | some cs => cs.map SystemColumn.column

/-- What an entity type with this declaration declares. -/
def columns (d : Declaration) : EntityColumns String Slots where
  recordType := d.recordType
  system := d.systemColumns
  state := d.state.map StateColumn.column

/-- The specification of a declaration. -/
def build (d : Declaration) : Except SpecificationError (Specification String Slots) :=
  Specification.of d.columns

end Declaration

/-! ## Counters -/

/-- The record type of entities whose state is a number, named after that type of
numbers. -/
def counterRecordType : String := "i64"

/-- What entities declare whose state is a number. -/
def counterColumns : EntityColumns EntityId Int64 where
  recordType := counterRecordType
  state := [⟨"count", .int, .int⟩]

/-- The specification of entities whose state is a number. -/
def counterSpecification : Except SpecificationError (Specification EntityId Int64) :=
  Specification.of counterColumns

end Switchboard.Records
