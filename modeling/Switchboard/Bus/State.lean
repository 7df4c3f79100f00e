import Switchboard.Bus.Journal

/-!
# The state of a bus

Operations on a bus are actions on its `State`.  An action may panic, and then
the state is as the panic found it: nothing is undone.

The state has room for what user code keeps to itself (`outside`), of any type.
It also lists the deliveries under way: the dispatchers that the deliveries
still hold, innermost delivery first.  A dispatcher that nobody else holds lives
on until its delivery is done.

The surroundings give something new to every envelope that is made, by the number of
those made before.  So the envelopes are listed, too (`made`).
-/

namespace Switchboard.Bus

variable {ω : Type}

/-- The state of a bus.  The envelopes, the journal and the log are kept oldest first. -/
structure State (ω : Type) where
  registry : Registry
  store : MessageStore := {}
  /-- The envelopes that were made. -/
  made : List Envelope := []
  /-- The dispatchers that deliveries under way hold. -/
  inFlight : List DispatcherId := []
  journal : List Entry := []
  log : List LogEntry := []
  outside : ω

abbrev Act (ω : Type) : Type → Type := EStateM Panic (State ω)

namespace Act

/-- An action on the registry. -/
def onRegistry {α : Type} (f : EStateM Panic Registry α) : Act ω α := fun s =>
  match f s.registry with
  | .ok a r => .ok a { s with registry := r }
  | .error p r => .error p { s with registry := r }

/-- An action on the store. -/
def onStore {α : Type} (f : EStateM Panic MessageStore α) : Act ω α := fun s =>
  match f s.store with
  | .ok a m => .ok a { s with store := m }
  | .error p m => .error p { s with store := m }

/-- An action on what user code keeps. -/
def onOutside {α : Type} (f : EStateM Panic ω α) : Act ω α := fun s =>
  match f s.outside with
  | .ok a w => .ok a { s with outside := w }
  | .error p w => .error p { s with outside := w }

def note (e : Entry) : Act ω Unit := modify fun s => { s with journal := s.journal ++ [e] }

def noteWhen (asked : Bool) (e : Entry) : Act ω Unit := if asked then note e else pure ()

def acknowledge (o : ObserverId) (a : Ack) : Act ω Unit := note (.acknowledged o a)

def report (e : LogEntry) : Act ω Unit := modify fun s => { s with log := s.log ++ [e] }

/-- Holds the dispatchers of a delivery that starts. -/
def hold (ds : List DispatcherId) : Act ω Unit :=
  modify fun s => { s with inFlight := ds ++ s.inFlight }

/-- Lets go of the first dispatcher of the innermost delivery. -/
def letGo : Act ω Unit := modify fun s => { s with inFlight := s.inFlight.tail }

end Act

end Switchboard.Bus
