import Switchboard.Records.Specification

/-!
# Outlines

An outline of a specification shows the columns without their functions.  The
outlines of specifications over different entities can be compared.
-/

namespace Switchboard.Records

/-- What a specification declares. -/
structure Outline where
  recordType : String
  /-- The names and types of the system columns. -/
  system : List (ColumnName × ColumnType)
  /-- The names and types of the state columns. -/
  state : List (ColumnName × ColumnType)
deriving DecidableEq

/-- The outline of a specification. -/
def Specification.outline {ι σ : Type} (s : Specification ι σ) : Outline where
  recordType := s.recordType
  system := s.system.map fun c => (c.name, c.type)
  state := s.state.map fun c => (c.name, c.type)

namespace Outline

/-- The names, those of the system columns first. -/
def names (o : Outline) : List ColumnName := (o.system ++ o.state).map Prod.fst

def size (o : Outline) : Nat := o.system.length + o.state.length

end Outline

end Switchboard.Records
