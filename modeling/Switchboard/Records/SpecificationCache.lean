import Switchboard.Records.Specification
import Switchboard.Text.Described
import Switchboard.Trace

/-!
# The cache of specifications

A cache keeps one specification for each entity type.  It is built the first time
it is asked for, and from then on the same one is handed out.  A specification
that cannot be built leaves no entry behind, so it is built anew the next time.
To build one, the columns of the entity type are scanned, and every scan is
written down.

Specifications of different entity types are of different types, and the cache
keeps them side by side.  What is found under an entity type could be the
specification of another one, so that is checked before it is handed out
(`Shared.downcast`).  An entry that was made while a specification was built stays,
and the one that was built is thrown away (`enter`).

Each specification has a serial number, which says how many scans there were
before it was built.  Two that were handed out are the same one exactly when their
numbers are.

A cache has a lock, too, and behind a poisoned lock it would be empty and refuse
every request.  But the only user code that runs under the lock is that which names
the entity type for the log, and the same code has named it before, when the columns
were scanned.  So an entity type is taken to have a name, the lock is whole, and it
is left out.
-/

namespace Switchboard.Records

/-- Something that is handed out again and again. -/
structure Shared (α : Type) where
  serial : Nat
  value : α

/-- A specification, with the entity type it belongs to. -/
abbrev AnySpecification {κ : Type} (ι σ : κ → Type) : Type := (k : κ) × Specification (ι k) (σ k)

/-- The specification as one of a certain entity type, if it is one. -/
def Shared.downcast {κ : Type} [DecidableEq κ] {ι σ : κ → Type} (k : κ)
    (s : Shared (AnySpecification ι σ)) :
    Except SpecificationError (Shared (Specification (ι k) (σ k))) :=
  if h : s.value.1 = k then .ok ⟨s.serial, h ▸ s.value.2⟩ else .error .poisoned

/-- The specifications built so far, oldest first. -/
structure SpecificationCache (κ : Type) (ι σ : κ → Type) where
  /-- The entries, each under the entity type it was built for. -/
  entries : List (κ × Shared (AnySpecification ι σ)) := []
  /-- The entity types whose columns were scanned, oldest scan first. -/
  scans : List κ := []
  log : List LogEntry := []

namespace SpecificationCache

variable {κ : Type} [DecidableEq κ] {ι σ : κ → Type}

/-- The entry of an entity type. -/
def find? (c : SpecificationCache κ ι σ) (k : κ) : Option (Shared (AnySpecification ι σ)) :=
  List.lookup k c.entries

def contains (c : SpecificationCache κ ι σ) (k : κ) : Bool := (c.find? k).isSome

def size (c : SpecificationCache κ ι σ) : Nat := c.entries.length

def isEmpty (c : SpecificationCache κ ι σ) : Bool := c.size == 0

/-- The entry of an entity type, which is the given one if there was none. -/
def enter (c : SpecificationCache κ ι σ) (k : κ) (recordType : String)
    (built : Shared (AnySpecification ι σ)) :
    Shared (AnySpecification ι σ) × SpecificationCache κ ι σ :=
  let log := c.log
    ++ [⟨.debug, "record specification cached", [("record_type", .text recordType)]⟩]
  match c.find? k with
  | some found => (found, { c with log := log })
  | none => (built, { c with entries := c.entries ++ [(k, built)], log := log })

/-- The specification of an entity type, given what it declares.  The columns are
scanned only if there is no entry yet. -/
def get (c : SpecificationCache κ ι σ) (k : κ) (declared : EntityColumns (ι k) (σ k)) :
    Except SpecificationError (Shared (Specification (ι k) (σ k))) × SpecificationCache κ ι σ :=
  match c.find? k with
  | some found => (found.downcast k, c)
  | none =>
      let scanned := { c with scans := c.scans ++ [k] }
      match Specification.of declared with
      | .error e => (.error e, scanned)
      | .ok s =>
          let (entry, entered) := scanned.enter k declared.recordType ⟨c.scans.length, ⟨k, s⟩⟩
          (entry.downcast k, entered)

def describe (c : SpecificationCache κ ι σ) : String :=
  Text.describeFields "SpecificationRegistry" [("len", toString c.size)] false

end SpecificationCache

end Switchboard.Records
