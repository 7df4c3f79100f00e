import Switchboard.Bus.Config
import Switchboard.Bus.Family
import Switchboard.Bus.Registry
import Switchboard.Text.Described

/-!
# Descriptions of buses

How a registry, a dispatcher and a bus are described in one line.
-/

namespace Switchboard

open Text

def MessageClass.describe (c : MessageClass) : String :=
  describeWrapped "MessageClass" (quote c.name)

namespace Bus

def Registry.describe (r : Registry) : String :=
  describeFields "DispatcherRegistry"
    [("mode", r.mode.title),
     ("classes", describeSet (r.registeredClasses.map MessageClass.describe))] false

def Config.describe (c : Config) : String :=
  describeFields "BusConfig"
    [("dead_letter", c.deadLetter.title), ("reject_empty", describeFlag c.rejectEmpty)] false

/-- What the buses share: the registry, the number of filters and the
configuration. -/
def describeCore (r : Registry) (filters : Nat) (c : Config) : String :=
  describeFields "BusCore"
    [("registry", r.describe), ("filters", toString filters), ("config", c.describe)] true

/-- A bus of a family.  A custom bus is described by what it shares. -/
def Family.describe (f : Family) (r : Registry) (filters : Nat) (c : Config) : String :=
  let core := describeCore r filters c
  match f with
  | .commands => describeFields "CommandBus" [("core", core)] false
  | .events => describeFields "EventBus" [("core", core)] false
  | .custom => core

/-- A dispatcher that is a function. -/
def describeFunction (name : String) (classes : List MessageClass) : String :=
  describeFields "FnDispatcher"
    [("name", quote name), ("classes", describeSet (classes.map MessageClass.describe))] true

end Bus

end Switchboard
