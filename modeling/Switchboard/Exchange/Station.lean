import Switchboard.Bus.State
import Switchboard.Text.Search

/-!
# Stations

A station is a dispatcher of an exchange.  It is known by a key, and the key
works as long as the exchange itself holds the station.  There are four kinds.

* A *function* only handles envelopes.
* A *custom* station can also be armed, and then asking for its name panics.
* An *unnamed* station answers with a name that is not its own.
* A *forwarder* hands envelopes to subscriptions.

All but the forwarder are scripted.  A scripted station performs the next tasks
of its script on each envelope and then reacts, as its rule says.

A `Task` is a step as it is written: the name of its operation, and what it asks
for.
-/

namespace Switchboard.Exchange

open Bus (DispatchError DispatcherId Forwarder SubscriptionId Targets)

/-! ## Steps -/

/-- An operation that can be asked of an exchange.  Dispatchers and subscriptions
are named by their keys. -/
inductive Step where
  /-- Register a dispatcher.  A brief answer leaves out the text of a refusal. -/
  | register (dispatcher : String) (brief : Bool)
  /-- Remove a dispatcher from the registry. -/
  | unregister (dispatcher : String)
  | close
  | mode
  | isRegistered (messageClass : MessageClass)
  | classes
  /-- The names of the dispatchers of a class. -/
  | dispatchersFor (messageClass : MessageClass)
  | nameOf (dispatcher : String)
  /-- Post one message, to the shared observer or to a new one. -/
  | post (message : Message) (shared : Bool)
  /-- Post a batch, to the shared observer or to a new one. -/
  | postAll (batch : List Message) (shared : Bool)
  | stored
  | config
  /-- Hand a message to a dispatcher, past the bus. -/
  | dispatch (dispatcher : String) (message : Message)
  /-- Subscribe to a forwarder, in place of a subscription of that name. -/
  | subscribe (dispatcher subscription : String)
  | unsubscribe (subscription : String)
  /-- The number of subscriptions that a forwarder counts. -/
  | subscriberCount (dispatcher : String)
  /-- Take an envelope out of a subscription.  A patient attempt waits a moment. -/
  | receive (subscription : String) (patient : Bool)
  | release (dispatcher : String)
  /-- Make a dispatcher panic when it is asked for its name, or stop that. -/
  | arm (dispatcher : String) (armed : Bool)
  | describe
  | describeDispatcher (dispatcher : String)
  | malformed
deriving Inhabited

/-- A step as it is written. -/
structure Task where
  /-- The name of the operation, if it has one. -/
  operation : Option String
  step : Step
deriving Inhabited

/-! ## Reactions -/

/-- What a scripted station does with an envelope in the end. -/
inductive Reaction where
  | panics (p : Panic)
  | fails (e : DispatchError)
  | reaches (t : Targets)

/-- The reactions of a station, by the body of the message. -/
structure Rule where
  /-- It panics on bodies that start with this. -/
  panicStart : Option String := none
  fail : Option String := none
  /-- It fails on bodies that start with this. -/
  failStart : Option String := none
  targets : List String := []

/-- Whether a body starts with a text, if there is one. -/
def startsWith? (body : String) (start : Option String) : Bool :=
  match start with
  | some s => Text.startsWith body s
  | none => false

/-- The reaction of a station with the given name to an envelope. -/
def Rule.react (r : Rule) (label : String) (e : Envelope) : Reaction :=
  let body := e.message.body
  if startsWith? body r.panicStart then .panics ⟨"panic in `" ++ label ++ "`"⟩
  else match r.fail with
    | some reason => .fails ⟨reason⟩
    | none =>
        if startsWith? body r.failStart then .fails ⟨"cannot handle `" ++ body ++ "`"⟩
        else .reaches (.ofList r.targets)

/-! ## Stations -/

/-- The kind of a station. -/
inductive Kind where
  | function
  | custom
  /-- It answers with a name that is not its own. -/
  | unnamed
  | forwarder
deriving DecidableEq, Inhabited

/-- A dispatcher of an exchange. -/
structure Station where
  key : String
  /-- The name under which it appears in the journal. -/
  label : String
  name : String
  kind : Kind
  classes : List MessageClass
  react : Envelope → Reaction
  /-- The tasks still to be performed, one list for each envelope. -/
  script : List (List Task)
  /-- Its subscriptions, if it is a forwarder. -/
  forwarder : Forwarder
  held : Bool := true
  armed : Bool := false

/-- A subscription to a forwarder, under a name. -/
structure Subscription where
  name : String
  dispatcher : DispatcherId
  id : SubscriptionId

/-- Everything on an exchange besides the bus. -/
structure Floor where
  /-- The stations.  The number of a dispatcher is its place in the list. -/
  stations : List Station
  subscriptions : List Subscription := []
  /-- How many observers there were.  The first is the shared one. -/
  observers : Nat := 1

namespace Floor

def station? (f : Floor) (d : DispatcherId) : Option Station := f.stations[d.index]?

/-- A change of one station. -/
def update (f : Floor) (d : DispatcherId) (change : Station → Station) : Floor :=
  { f with stations := f.stations.modify d.index change }

/-- The dispatcher that a key stands for, if the exchange holds it. -/
def find? (f : Floor) (key : String) : Option DispatcherId :=
  (f.stations.findIdx? fun s => s.key == key && s.held).map DispatcherId.mk

/-- The answer of a dispatcher to the question for its name. -/
def nameOf (d : DispatcherId) (f : Floor) : Except Panic String :=
  match f.station? d with
  | none => .ok ""
  | some s => if s.armed then .error ⟨"name of `" ++ s.label ++ "`"⟩ else .ok s.name

/-- How many lists of tasks some stations are still to perform. -/
def pendingIn : List Station → Nat
  | [] => 0
  | s :: rest => s.script.length + pendingIn rest

/-- How many lists of tasks are still to be performed. -/
def pending (f : Floor) : Nat := pendingIn f.stations

/-- Stations of which the last with each key is held. -/
def holdLast : List Station → List Station
  | [] => []
  | s :: rest => { s with held := !rest.any fun t => t.key == s.key } :: holdLast rest

def ofStations (stations : List Station) : Floor := { stations := holdLast stations }

end Floor

end Switchboard.Exchange
