import Switchboard.Bus.Config
import Switchboard.Bus.Filter
import Switchboard.Bus.Registry

/-!
# Families of buses

A command bus takes commands, and each class of them has one dispatcher at most.
An event bus takes events and rejections, with any number of dispatchers.  They
share everything else.  A custom bus takes every kind.

The filters of a bus run in this order: the one that rejects empty messages, if
the configuration asks for it, the one that rejects kinds, and then the filters
that were added.
-/

namespace Switchboard.Bus

/-- What a bus is for. -/
inductive Family where
  | commands
  | events
  | custom
deriving DecidableEq, Inhabited

namespace Family

/-- The kinds of message a family takes, if it does not take all. -/
def kinds? : Family → Option (List MessageKind)
  | commands => some [.command]
  | events => some [.event, .rejection]
  | custom => none

/-- How many dispatchers a class has, unless the bus says otherwise. -/
def mode : Family → Mode
  | commands => .unicast
  | events | custom => .multicast

/-- The configuration of a family, unless the bus says otherwise. -/
def defaults : Family → Config
  | commands | custom => .forCommands
  | events => .forEvents

/-- The filters that a bus has of its own, in the order in which they run. -/
def ownFilters (f : Family) (c : Config) : List Filter :=
  (if c.rejectEmpty then [.rejectEmpty] else [])
    ++ (match f.kinds? with
        | some ks => [.kinds ks]
        | none => [])

/-- The sieves of a bus, in the order in which they run. -/
def sieves {ω : Type} (f : Family) (c : Config) (added : List (Sieve ω)) : List (Sieve ω) :=
  (f.ownFilters c).map Filter.sieve ++ added

end Family

end Switchboard.Bus
