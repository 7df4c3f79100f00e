import Switchboard.Bus.Error
import Switchboard.Panic

/-!
# The registry

The registry lists the dispatchers of each message class, in the order in which
they were registered.  A dispatcher is known by its identity, not by its name:
two dispatchers may share a name.

A *multicast* registry lists any number of dispatchers under a class, a
*unicast* one lists one at most.

* `register` takes the classes that the dispatcher advertises at that moment.
  It fails without a change if there are none, or if another dispatcher stands
  in the way.  Registering again adds nothing.
* `unregister` removes the dispatcher from every class.  A class that lists
  nobody is forgotten.
* `clear` forgets every class.

The failure of a registration names the dispatcher in the way.  Asking for that
name is user code and runs under the lock, so the lock is poisoned if it panics.
Behind a poisoned lock nothing is listed and nothing can be registered.  Only
`clear` still works, and it does not mend the lock.
-/

namespace Switchboard.Bus

structure DispatcherId where
  index : Nat
deriving DecidableEq, Inhabited

/-- How many dispatchers a class may have. -/
inductive Mode where
  | multicast
  | unicast
deriving DecidableEq, Inhabited

def Mode.title : Mode → String
  | .multicast => "Multicast"
  | .unicast => "Unicast"

/-! ## Listings -/

abbrev Listing := List (MessageClass × List DispatcherId)

namespace Listing

def holders (c : MessageClass) : Listing → List DispatcherId
  | [] => []
  | (c', ds) :: rest => if c' = c then ds else holders c rest

def classes (l : Listing) : List MessageClass := l.map Prod.fst

/-- A dispatcher listed under one more class, at the end. -/
def add (d : DispatcherId) (c : MessageClass) : Listing → Listing
  | [] => [(c, [d])]
  | (c', ds) :: rest =>
      if c' = c then (c', if d ∈ ds then ds else ds ++ [d]) :: rest else (c', ds) :: add d c rest

/-- A dispatcher listed under each of some classes. -/
def addAll (d : DispatcherId) (cs : List MessageClass) (l : Listing) : Listing :=
  cs.foldl (fun l c => add d c l) l

/-- A dispatcher removed from every class. -/
def remove (d : DispatcherId) (l : Listing) : Listing :=
  (l.map fun e => (e.1, e.2.filter fun x => x ≠ d)).filter fun e => !e.2.isEmpty

/-- Whether a dispatcher is listed under some class. -/
def lists (d : DispatcherId) (l : Listing) : Bool := l.any fun e => e.2.contains d

/-- The first of some classes that has a dispatcher other than the given one,
and that dispatcher. -/
def conflict? (d : DispatcherId) (cs : List MessageClass) (l : Listing) :
    Option (MessageClass × DispatcherId) :=
  cs.findSome? fun c => ((holders c l).find? fun x => x ≠ d).map fun x => (c, x)

end Listing

/-! ## The registry -/

/-- The dispatchers of each class, behind a lock. -/
structure Registry where
  /-- How many dispatchers a class may have. -/
  mode : Mode
  listing : Guarded Listing := ⟨[], false⟩

namespace Registry

def empty (mode : Mode) : Registry := { mode := mode }

def dispatchersFor (r : Registry) (c : MessageClass) : List DispatcherId :=
  match r.listing.read? with
  | some l => l.holders c
  | none => []

def isRegistered (r : Registry) (c : MessageClass) : Bool :=
  match r.listing.read? with
  | some l => l.classes.contains c
  | none => false

def registeredClasses (r : Registry) : List MessageClass :=
  match r.listing.read? with
  | some l => l.classes
  | none => []

/-- The dispatcher that stands in the way of a registration. -/
def obstacle? (r : Registry) (d : DispatcherId) (cs : List MessageClass) :
    Option (MessageClass × DispatcherId) :=
  match r.mode with
  | .multicast => none
  | .unicast => r.listing.value.conflict? d cs

/-- Registers a dispatcher under the classes that it advertises. -/
def register (nameOf : DispatcherId → Except Panic String) (d : DispatcherId)
    (advertised : List MessageClass) : EStateM Panic Registry (Except RegistrationError Unit) :=
  fun r =>
    if advertised.isEmpty then
      match nameOf d with
      | .ok name => .ok (.error (.noClasses name)) r
      | .error p => .error p r
    else if r.listing.poisoned then .ok (.error .poisoned) r
    else match r.obstacle? d advertised with
      | some (c, holder) =>
          match nameOf holder with
          | .ok name => .ok (.error (.alreadyHandled c name)) r
          | .error p => .error p { r with listing := r.listing.poison r.listing.value }
      | none =>
          .ok (.ok ()) { r with listing := r.listing.write (r.listing.value.addAll d advertised) }

/-- Removes a dispatcher from every class, and says whether it was listed. -/
def unregister (d : DispatcherId) (r : Registry) : Bool × Registry :=
  if r.listing.poisoned then (false, r)
  else (r.listing.value.lists d, { r with listing := r.listing.write (r.listing.value.remove d) })

/-- Forgets every class, also behind a poisoned lock. -/
def clear (r : Registry) : Registry := { r with listing := r.listing.override [] }

/-- The registry after user code broke off under its lock. -/
def poison (r : Registry) : Registry := { r with listing := r.listing.poison r.listing.value }

/-- Whether a dispatcher is held by the registry, seen from outside the lock. -/
def holds (r : Registry) (d : DispatcherId) : Bool := r.listing.value.lists d

end Registry

end Switchboard.Bus
