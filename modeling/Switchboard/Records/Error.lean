import Switchboard.Records.Value

/-!
# Failures of the record layer

* A `ColumnError` says that a name is not declared.
* A `SpecificationError` says that a specification cannot be built, or that
  columns do not fit it.
* A `QueryError` says that a predicate or a query does not make sense.
* A `StoreError` is the answer of a record store.

Each has one text, `message`, and a `kind` that names its cause, with the kind
of the inner failure after a dot.
-/

namespace Switchboard.Records

/-- A column name that is not declared. -/
inductive ColumnError where
  /-- The record type does not declare the column. -/
  | notFound (recordType column : String)
deriving DecidableEq

namespace ColumnError

def message : ColumnError → String
  | notFound r c => "column `" ++ c ++ "` is not declared by record type `" ++ r ++ "`"

/-- The cause of the failure. -/
def kind : ColumnError → String
  | notFound _ _ => "NotFound"

end ColumnError

/-- A specification that cannot be built, or columns that do not fit one. -/
inductive SpecificationError where
  | duplicateColumn (recordType column : String)
  | undeclaredColumn (recordType column : String)
  /-- A value contradicts the declared type. -/
  | typeMismatch (recordType column : String) (expected found : ColumnType)
  /-- What was found for an entity type is the specification of another one. -/
  | poisoned
deriving DecidableEq

namespace SpecificationError

def message : SpecificationError → String
  | duplicateColumn r c => "record type `" ++ r ++ "` declares column `" ++ c ++ "` more than once"
  | undeclaredColumn r c => "record type `" ++ r ++ "` does not declare column `" ++ c ++ "`"
  | typeMismatch r c expected found =>
      "column `" ++ c ++ "` of `" ++ r ++ "` is declared " ++ expected.title ++ " but produced "
        ++ found.title
  | poisoned => "specification registry lock poisoned"

/-- The cause of the failure. -/
def kind : SpecificationError → String
  | duplicateColumn _ _ => "DuplicateColumn"
  | undeclaredColumn _ _ => "UndeclaredColumn"
  | typeMismatch _ _ _ _ => "TypeMismatch"
  | poisoned => "Poisoned"

end SpecificationError

/-- A predicate or a query that does not make sense. -/
inductive QueryError where
  /-- It names a column that is not declared. -/
  | column (e : ColumnError)
  /-- It compares values of different types. -/
  | typeMismatch (left right : ColumnType)
  /-- It compares a column with a value of another type. -/
  | valueTypeMismatch (column : String) (expected found : ColumnType)
deriving DecidableEq

namespace QueryError

def message : QueryError → String
  | column e => e.message
  | typeMismatch l r => "cannot compare " ++ l.title ++ " with " ++ r.title
  | valueTypeMismatch c expected found =>
      "column `" ++ c ++ "` holds " ++ expected.title ++ " values but the predicate uses "
        ++ found.title

/-- The cause of the failure. -/
def kind : QueryError → String
  | column e => "Column." ++ e.kind
  | typeMismatch _ _ => "TypeMismatch"
  | valueTypeMismatch _ _ _ => "ValueTypeMismatch"

end QueryError

/-- The failure of an operation on a record store. -/
inductive StoreError where
  | query (e : QueryError)
  /-- The columns do not fit the specification. -/
  | invalidRecord (e : SpecificationError)
  | poisoned
deriving DecidableEq

namespace StoreError

def message : StoreError → String
  | query e => e.message
  | invalidRecord e => "invalid record: " ++ e.message
  | poisoned => "record store lock poisoned"

/-- The cause of the failure. -/
def kind : StoreError → String
  | query e => "Query." ++ e.kind
  | invalidRecord e => "InvalidRecord." ++ e.kind
  | poisoned => "Poisoned"

end StoreError

end Switchboard.Records
