import Switchboard.Handle
import Switchboard.Panic
import Switchboard.Records.Query

/-!
# Repositories

A repository is whatever can keep, return and query records: five operations on
some state, next to the specification of the records.  What can be done with
these five is defined for all repositories: to keep an entity with its columns
extracted, and to ask whether nothing is kept.

A repository may be reached from a larger state through a `Handle`.  The
repository that is reached in this way performs every operation on the part that
the handle points to.
-/

namespace Switchboard.Records

/-- Something that keeps records, with a state. -/
structure Repository (τ ι σ ρ : Type) where
  specification : τ → Specification ι σ
  /-- Keeps a record in place of the one with the same identity. -/
  write : Record ι ρ → EStateM Panic τ (Except StoreError Unit)
  read : ι → EStateM Panic τ (Except StoreError (Option (Record ι ρ)))
  /-- Removes the record of an identity, and says whether there was one. -/
  delete : ι → EStateM Panic τ (Except StoreError Bool)
  query : Query → EStateM Panic τ (Except StoreError (List (Record ι ρ)))
  length : EStateM Panic τ (Except StoreError Nat)

namespace Repository

variable {τ ι σ ρ : Type}

/-- Keeps a payload with the columns of an entity, if they conform. -/
def writeEntity (r : Repository τ ι σ ρ) (e : Entity ι σ) (payload : ρ) :
    EStateM Panic τ (Except StoreError Unit) := fun s =>
  match (r.specification s).checkedValuesIn e with
  | .error err => .ok (.error (.invalidRecord err)) s
  | .ok columns => r.write ⟨e.id, payload, columns⟩ s

/-- Keeps a snapshot of an entity, if its columns conform. -/
def writeSnapshot (r : Repository τ ι σ (Snapshot σ)) (e : Entity ι σ) :
    EStateM Panic τ (Except StoreError Unit) :=
  r.writeEntity e e.snapshot

/-- Whether nothing is kept. -/
def isEmpty (r : Repository τ ι σ ρ) : EStateM Panic τ (Except StoreError Bool) := do
  match ← r.length with
  | .error e => pure (.error e)
  | .ok n => pure (.ok (n = 0))

end Repository

/-- The repository that a handle points to. -/
def Repository.through {ω τ ι σ ρ : Type} (r : Repository τ ι σ ρ) (h : Handle ω τ) :
    Repository ω ι σ ρ where
  specification w := r.specification (h.get w)
  write record := h.lift (r.write record)
  read i := h.lift (r.read i)
  delete i := h.lift (r.delete i)
  query q := h.lift (r.query q)
  length := h.lift r.length

end Switchboard.Records
