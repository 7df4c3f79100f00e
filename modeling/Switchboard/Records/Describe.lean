import Switchboard.Records.Store
import Switchboard.Text.Described

/-!
# Descriptions of records

How a column, a specification and a record store are described in one line.  The
function of a column is not shown.
-/

namespace Switchboard.Records

open Text

/-- A column. -/
def Column.describe {α : Type} (c : Column α) : String :=
  describeFields "Column"
    [("name", describeWrapped "ColumnName" (quote c.name)), ("column_type", c.type.title)] true

/-- A column of a specification. -/
def ColumnRef.describe {ι σ : Type} : ColumnRef ι σ → String
  | .system c => describeWrapped "System" c.describe
  | .state c => describeWrapped "State" c.describe

/-- A specification. -/
def Specification.describe {ι σ : Type} (s : Specification ι σ) : String :=
  describeFields "RecordSpecification"
    [("record_type", quote s.recordType),
     ("system", describeList (s.system.map Column.describe)),
     ("state", describeList (s.state.map Column.describe))] false

/-- A record store.  Its length is unknown when its lock is poisoned. -/
def RecordStore.describe {ι σ ρ : Type} (s : RecordStore ι σ ρ) : String :=
  describeFields "InMemoryRecordStore"
    [("record_type", quote s.spec.recordType),
     ("len", describeCount? (s.records.read?.map List.length))] false

end Switchboard.Records
