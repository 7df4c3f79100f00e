import Switchboard.Bus.Error
import Switchboard.Text.Search

/-!
# Filters

A filter judges one message before it is stored and dispatched.  Its verdict is
a failure, with which a rejected message is acknowledged, or nothing.

A bus has two filters of its own: one rejects empty messages, one rejects kinds
that the bus does not take.  Any function may be added as a custom filter, under
a label.

What runs on a bus is a `Sieve`.  It may remember what it has seen, so that it
need not judge equal messages alike.  A filter is a sieve that remembers nothing.
-/

namespace Switchboard.Bus

inductive Filter where
  | rejectEmpty
  | kinds (allowed : List MessageKind)
  /-- A check that was added to a bus, under a label. -/
  | custom (label : String) (check : Message → Option PostError)

namespace Filter

/-- The failure a filter rejects a message with, if it does. -/
def verdict : Filter → Message → Option PostError
  | rejectEmpty, m => if m.empty then some (.invalid m "message is empty") else none
  | kinds allowed, m =>
      if m.kind ∈ allowed then none
      else some (.invalid m (m.kind.title ++ " messages are not accepted by this bus"))
  | custom _ check, m => check m

def label? : Filter → Option String
  | custom label _ => some label
  | _ => none

/-- The check that rejects bodies in which a text occurs. -/
def refusing (needle reason : String) (m : Message) : Option PostError :=
  if Text.contains m.body needle then some (.invalid m reason) else none

/-- The check that reports a store as unavailable for bodies in which a text
occurs. -/
def unavailable (needle reason : String) (m : Message) : Option PostError :=
  if Text.contains m.body needle then some (.notStored m (.unavailable reason)) else none

end Filter

/-- A check that may remember what it has seen, among what user code keeps. -/
structure Sieve (ω : Type) where
  /-- The label of a sieve that was added to a bus. -/
  label? : Option String
  /-- The failure the sieve rejects a message with, if it does, and what user code
  keeps then. -/
  verdict : Message → ω → Option PostError × ω

def Filter.sieve {ω : Type} (f : Filter) : Sieve ω := ⟨f.label?, fun m w => (f.verdict m, w)⟩

end Switchboard.Bus
