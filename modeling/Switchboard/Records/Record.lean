import Switchboard.Lifecycle
import Switchboard.Records.Columns

/-!
# Entities and records

An entity has an identity, a state, a version and lifecycle flags.  What is kept
of it is a `Snapshot`: all but the identity.

A `Record` is a payload under an identity, with column values beside it.  The
columns need not agree with the payload.  `Record.ofSnapshot` is a record that
was made without the entity: it has the three lifecycle columns only.  The same
can be made of any payload that knows its own version and lifecycle
(`Record.ofPayload`).
-/

namespace Switchboard.Records

/-- Something with an identity whose state changes. -/
structure Entity (ι σ : Type) where
  id : ι
  state : σ
  version : UInt64
  lifecycle : LifecycleFlags := {}

/-- What is kept of an entity. -/
structure Snapshot (σ : Type) where
  state : σ
  version : UInt64
  lifecycle : LifecycleFlags
deriving DecidableEq

def Entity.snapshot {ι σ : Type} (e : Entity ι σ) : Snapshot σ := ⟨e.state, e.version, e.lifecycle⟩

instance {σ : Type} [Form σ] : Form (Snapshot σ) where
  encode s := .object
    [("lifecycle", encode s.lifecycle), ("state", encode s.state), ("version", encode s.version)]
  decode j := do
    match ← j.record? ["state", "version", "lifecycle"] with
    | [some s, some v, some l] => return ⟨← decode s, ← decode v, ← decode l⟩
    | _ => none

/-- Payloads that know their version and lifecycle. -/
class LifecycleRecord (ρ : Type) where
  version : ρ → UInt64
  lifecycle : ρ → LifecycleFlags

instance {σ : Type} : LifecycleRecord (Snapshot σ) := ⟨Snapshot.version, Snapshot.lifecycle⟩

/-! ## Names of the lifecycle columns -/

/-- The column that says whether an entity is archived. -/
def archivedName : ColumnName := "archived"

/-- The column that says whether an entity is deleted. -/
def deletedName : ColumnName := "deleted"

def versionName : ColumnName := "version"

/-! ## Records -/

/-- A payload with an identity and column values. -/
structure Record (ι ρ : Type) where
  id : ι
  payload : ρ
  columns : Columns
deriving DecidableEq

namespace Record

variable {ι ρ σ : Type}

def value (r : Record ι ρ) (name : ColumnName) : ColumnValue := r.columns.value name

/-- The lifecycle columns of a snapshot. -/
def lifecycleValues (s : Snapshot σ) : Columns :=
  .ofList [(archivedName, .bool s.lifecycle.archived), (deletedName, .bool s.lifecycle.deleted),
    (versionName, .ofVersion s.version)]

/-- A record of a snapshot, with the lifecycle columns only. -/
def ofSnapshot (id : ι) (s : Snapshot σ) : Record ι (Snapshot σ) := ⟨id, s, lifecycleValues s⟩

/-- A record of a payload, with the lifecycle columns only. -/
def ofPayload [LifecycleRecord ρ] (id : ι) (p : ρ) : Record ι ρ :=
  ⟨id, p, lifecycleValues
    ⟨(), LifecycleRecord.version p, LifecycleRecord.lifecycle p⟩⟩

instance [Form ι] [Form ρ] : Form (Record ι ρ) where
  encode r := .object
    [("columns", encode r.columns), ("id", encode r.id), ("record", encode r.payload)]
  decode j := do
    match ← j.record? ["id", "record", "columns"] with
    | [some i, some r, some c] => return ⟨← decode i, ← decode r, ← decode c⟩
    | _ => none

end Record

end Switchboard.Records
