import Switchboard.Records.Repository
import Switchboard.Trace

/-!
# The record store

A record store keeps one record for each identity.  It knows the specification of
its record type.  A record is written only if its columns fit the specification,
and a query is evaluated only if it is valid, so the evaluation of a query cannot
fail on what is stored.

* `write` keeps a record in place of the one with the same identity.
* `delete` says whether there was a record.
* `query` validates, then evaluates the query on everything that is kept.

To look for the place of an identity is user code, and so is to copy an identity
or a payload.  It runs under the lock, and it may panic, in every operation at
different places (`Faults`).  Writing and deleting change what is behind the
lock, so they poison it.  Reading does not poison it, and it does not look for a
place when nothing is kept.  Whatever a store hands out is a copy, so reading
breaks off where a record that was found cannot be copied.  To drop a record is
taken not to panic.
-/

namespace Switchboard.Records

/-! ## Records under identities -/

section

variable {ι ρ : Type} [DecidableEq ι]

def findRecord? (i : ι) (rs : List (Record ι ρ)) : Option (Record ι ρ) :=
  rs.find? fun r => r.id = i

/-- A record put in place of the one with its identity, or at the end. -/
def putRecord (r : Record ι ρ) : List (Record ι ρ) → List (Record ι ρ)
  | [] => [r]
  | x :: xs => if x.id = r.id then r :: xs else x :: putRecord r xs

def dropRecord (i : ι) (rs : List (Record ι ρ)) : List (Record ι ρ) :=
  rs.filter fun r => r.id ≠ i

end

/-! ## The store -/

/-- Where user code panics in the course of an operation. -/
structure Faults (ι ρ : Type) where
  /-- The panic of looking for the place of an identity. -/
  place : ι → Option Panic := fun _ => none
  copyId : ι → Option Panic := fun _ => none
  /-- The panic of copying a record, which copies its identity and its payload. -/
  copy : Record ι ρ → Option Panic := fun _ => none

/-- Records of one type, each under its identity. -/
structure RecordStore (ι σ ρ : Type) where
  spec : Specification ι σ
  records : Guarded (List (Record ι ρ)) := ⟨[], false⟩
  log : List LogEntry := []

namespace RecordStore

variable {ι σ ρ : Type}

def empty (spec : Specification ι σ) : RecordStore ι σ ρ := { spec := spec }

/-- The store with one more log entry, which names the record type. -/
def report (s : RecordStore ι σ ρ) (level : Level) (message : String)
    (fields : List (String × LogValue)) : RecordStore ι σ ρ :=
  { s with log := s.log ++ [⟨level, message, ("record_type", .text s.spec.recordType) :: fields⟩] }

def length (s : RecordStore ι σ ρ) : Except StoreError Nat :=
  match s.records.read? with
  | none => .error .poisoned
  | some kept => .ok kept.length

variable [DecidableEq ι]

/-! ## Writing -/

/-- Keeps a record whose columns fit, under a copy of its identity. -/
def insert (f : Faults ι ρ) (r : Record ι ρ) :
    EStateM Panic (RecordStore ι σ ρ) (Except StoreError Unit) := fun s =>
  match s.records.read? with
  | none => .ok (.error .poisoned) s
  | some kept =>
      match (f.copyId r.id).or (f.place r.id) with
      | some p => .error p { s with records := s.records.poison kept }
      | none =>
          let next := { s with records := s.records.write (putRecord r kept) }
          let replaced := (findRecord? r.id kept).isSome
          .ok (.ok ()) (next.report .debug "record written" [("replaced", .flag replaced)])

/-- Keeps a record, if its columns fit. -/
def write (f : Faults ι ρ) (r : Record ι ρ) :
    EStateM Panic (RecordStore ι σ ρ) (Except StoreError Unit) := fun s =>
  match s.spec.checkColumns r.columns with
  | .error e =>
      let next := s.report .warn "record rejected" [("error", .text e.message)]
      .ok (.error (.invalidRecord e)) next
  | .ok () => insert f r s

/-- Removes the record of an identity, and says whether there was one. -/
def delete (f : Faults ι ρ) (i : ι) :
    EStateM Panic (RecordStore ι σ ρ) (Except StoreError Bool) := fun s =>
  match s.records.read? with
  | none => .ok (.error .poisoned) s
  | some kept =>
      match f.place i with
      | some p => .error p { s with records := s.records.poison kept }
      | none =>
          .ok (.ok (findRecord? i kept).isSome)
            { s with records := s.records.write (dropRecord i kept) }

/-! ## Reading -/

/-- A copy of the record of an identity, if there is one. -/
def read (f : Faults ι ρ) (i : ι) :
    EStateM Panic (RecordStore ι σ ρ) (Except StoreError (Option (Record ι ρ))) := fun s =>
  match s.records.read? with
  | none => .ok (.error .poisoned) s
  | some [] => .ok (.ok none) s
  | some kept =>
      match (f.place i).or ((findRecord? i kept).bind f.copy) with
      | some p => .error p s
      | none => .ok (.ok (findRecord? i kept)) s

/-- Copies of the records that a valid query selects. -/
def evaluate (f : Faults ι ρ) (q : Query) :
    EStateM Panic (RecordStore ι σ ρ) (Except StoreError (List (Record ι ρ))) := fun s =>
  match s.records.read? with
  | none => .ok (.error .poisoned) s
  | some kept =>
      match q.apply kept with
      | .error e => .ok (.error (.query e)) s
      | .ok found =>
          match found.findSome? f.copy with
          | some p => .error p s
          | none =>
              .ok (.ok found) (s.report .debug "record query evaluated"
                [("scanned", .number kept.length), ("matched", .number found.length)])

/-- Copies of the records that a query selects, if it is valid. -/
def query (f : Faults ι ρ) (q : Query) :
    EStateM Panic (RecordStore ι σ ρ) (Except StoreError (List (Record ι ρ))) := fun s =>
  match q.validate s.spec.catalog with
  | .error e => .ok (.error (.query e)) s
  | .ok () => evaluate f q s

/-! ## The repository of a store -/

/-- A store is a repository whose state it is itself. -/
def repository (f : Faults ι ρ) : Repository (RecordStore ι σ ρ) ι σ ρ where
  specification := spec
  write := write f
  read := read f
  delete := delete f
  query := query f
  length := fun s => .ok s.length s

/-- Keeps a payload with the columns of an entity, if they conform. -/
def writeEntity (f : Faults ι ρ) (e : Entity ι σ) (payload : ρ) :
    EStateM Panic (RecordStore ι σ ρ) (Except StoreError Unit) :=
  (repository f).writeEntity e payload

/-- Keeps a snapshot of an entity, if its columns conform. -/
def writeSnapshot (f : Faults ι (Snapshot σ)) (e : Entity ι σ) :
    EStateM Panic (RecordStore ι σ (Snapshot σ)) (Except StoreError Unit) :=
  (repository f).writeSnapshot e

end RecordStore

end Switchboard.Records
