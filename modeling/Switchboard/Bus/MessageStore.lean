import Switchboard.Bus.Error
import Switchboard.Envelope
import Switchboard.Text.Search

/-!
# The message store

A bus hands every batch of accepted messages to a store before any of them is
dispatched.  `MessageStore` keeps them in memory in the order of arrival.  It
keeps copies, which it makes under its lock, so a fragile message poisons it.  A
poisoned store keeps nothing and shows nothing.

`Storage` is what stands between the bus and the store.  Its gate may turn a
batch away, and it may let a batch pass without keeping it.
-/

namespace Switchboard.Bus

/-- The messages kept so far, oldest first, and how many batches were offered. -/
structure MessageStore where
  kept : Guarded (List Message) := ⟨[], false⟩
  offers : Nat := 0

namespace MessageStore

def messages (s : MessageStore) : List Message := s.kept.read?.getD []

def length (s : MessageStore) : Nat := s.messages.length

/-- The panic of copying a batch, if one of its messages is fragile. -/
def copyPanic? (batch : List Message) : Option Panic :=
  batch.findSome? fun m =>
    match m.copy with
    | .ok _ => none
    | .error p => some p

def keep (batch : List Message) : EStateM Panic MessageStore (Except StoreError Unit) := fun s =>
  if s.kept.poisoned then .ok (.error .poisoned) s
  else match copyPanic? batch with
    | some p =>
        let copied := batch.takeWhile fun m => !m.fragile
        .error p { s with kept := s.kept.poison (s.kept.value ++ copied) }
    | none => .ok (.ok ()) { s with kept := s.kept.write (s.kept.value ++ batch) }

end MessageStore

structure Storage where
  /-- Whether each offer of a batch is reported. -/
  reported : Bool := false
  /-- The failure with which a batch is turned away, given how many batches were
  offered before. -/
  gate : Nat → List Message → Option StoreError := fun _ _ => none
  keeps : Bool := true

namespace Storage

/-- The gate that turns batches away for a reason: all of them once so many were
offered before, and those with a message whose body starts with a text. -/
def failing (reason : String) (limit : Option Nat) (start : Option String) (offers : Nat)
    (batch : List Message) : Option StoreError :=
  let spent := limit.any fun n => n ≤ offers
  let refused := batch.any fun m => start.any fun s => Text.startsWith m.body s
  if spent || refused then some (.unavailable reason) else none

def offer (g : Storage) (batch : List Message) :
    EStateM Panic MessageStore (Except StoreError Unit) := fun s =>
  let next := { s with offers := s.offers + 1 }
  match g.gate s.offers batch with
  | some e => .ok (.error e) next
  | none => if g.keeps then MessageStore.keep batch next else .ok (.ok ()) next

end Storage

end Switchboard.Bus
