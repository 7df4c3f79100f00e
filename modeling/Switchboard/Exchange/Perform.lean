import Switchboard.Bus.Describe
import Switchboard.Bus.Posting
import Switchboard.Exchange.Station

/-!
# Performing steps

An exchange is a bus, or a bare registry, with stations on its floor.
`perform` does one step.  A handler may perform steps of its own while it
handles an envelope, so `perform` takes as an argument how inner tasks are
performed.  `performWithin` ties the knot: it allows for so many levels of
handlers inside handlers.  Each level takes a list of tasks out of a script, so
the number of lists that are left is enough.

A step that names a dispatcher or subscription that is not there is malformed,
and so is a step that needs a bus when there is only a registry.  Nothing changes
then.

A station lives as long as somebody holds it: the exchange, the registry, or a
delivery under way.  When nobody does, its subscriptions are disconnected.
-/

namespace Switchboard

open Bus

/-- A bus or a bare registry, apart from its state. -/
structure Exchange where
  bare : Bool := false
  family : Family
  config : Config
  added : List Filter := []
  /-- Whether the bus passes its filters by. -/
  unfiltered : Bool := false
  storage : Storage := {}
  reportsDead : Bool := false
  /-- What becomes of an envelope without a dispatcher. -/
  deadLetters : DeadLetters := .byPolicy
  /-- What the surroundings give to an envelope. -/
  stamp : Stamp := default
  traced : Bool := false

namespace Exchange

/-- The filters that the bus has. -/
def sieves (x : Exchange) : List (Sieve Floor) :=
  x.family.sieves x.config (x.added.map Filter.sieve)

/-- The bus, with a way to handle envelopes. -/
def bus (x : Exchange)
    (handle : DispatcherId → Envelope → Act Floor (Except DispatchError Targets)) : Bus Floor :=
  { Bus.ofFamily x.family x.config (x.added.map Filter.sieve) handle Floor.nameOf with
    sieves := if x.unfiltered then [] else x.sieves
    storage := x.storage
    reportsDead := x.reportsDead
    deadLetters := x.deadLetters
    stamp := fun _ => x.stamp
    traced := x.traced }

/-! ## Handling -/

/-- An action on the forwarder of a station. -/
def onForwarder {α : Type} (d : DispatcherId) (default : α) (act : EStateM Panic Forwarder α) :
    Act Floor α :=
  Act.onOutside fun f =>
    match f.station? d with
    | none => .ok default f
    | some s =>
        match act s.forwarder with
        | .ok a w => .ok a (f.update d fun s => { s with forwarder := w })
        | .error p w => .error p (f.update d fun s => { s with forwarder := w })

/-- Takes the next tasks out of the script of a station. -/
def nextTasks (d : DispatcherId) : Act Floor (List Task) :=
  Act.onOutside fun f =>
    let tasks := match f.station? d with
      | some s => s.script.headD []
      | none => []
    .ok tasks (f.update d fun s => { s with script := s.script.tail })

/-- Performs tasks on behalf of a station, and writes that down. -/
def performAll (inner : Task → Act Floor Reply) (d : DispatcherId) : List Task → Act Floor Unit
  | [] => pure ()
  | t :: ts => do
      Act.note (.started d t.operation)
      let reply ← inner t
      Act.note (.finished d reply)
      performAll inner d ts

/-- What a station does with an envelope. -/
def handle (inner : Task → Act Floor Reply) (d : DispatcherId) (e : Envelope) :
    Act Floor (Except DispatchError Targets) := do
  match (← get).outside.station? d with
  | none => pure (.ok (.ofList []))
  | some s =>
      match s.kind with
      | .forwarder => onForwarder d (.ok (.ofList [])) (Forwarder.dispatch e)
      | _ =>
          performAll inner d (← nextTasks d)
          match s.react e with
          | .panics p => throw p
          | .fails err => pure (.error err)
          | .reaches ts => pure (.ok ts)

/-! ## Subscriptions -/

/-- Whether anybody holds a dispatcher. -/
def isHeld (d : DispatcherId) (s : State Floor) : Bool :=
  (match s.outside.station? d with
    | some t => t.held
    | none => false)
  || s.registry.holds d || s.inFlight.contains d

/-- A change of what is on the floor. -/
def onFloor (change : Floor → Floor) : Act Floor Unit :=
  modify fun s => { s with outside := change s.outside }

/-- The subscription of a name. -/
def subscription? (name : String) (f : Floor) : Option Subscription :=
  f.subscriptions.find? fun s => s.name == name

/-- Drops the subscription of a name, and says whether there was one. -/
def dropSubscription (name : String) : Act Floor Bool := do
  match subscription? name (← get).outside with
  | none => pure false
  | some sub =>
      onForwarder sub.dispatcher () fun w => .ok () (w.drop sub.id)
      onFloor fun f => { f with subscriptions := f.subscriptions.filter fun s => s.name ≠ name }
      pure true

/-- Subscribes to a forwarder under a name, which then means the new subscription
only. -/
def subscribe (d : DispatcherId) (name : String) : Act Floor Unit := do
  let id ← onForwarder d ⟨0⟩ fun w => let (i, w) := w.subscribe; .ok i w
  let _ ← dropSubscription name
  onFloor fun f => { f with subscriptions := ⟨name, d, id⟩ :: f.subscriptions }

/-- Takes an envelope out of a subscription. -/
def receiveFrom (sub : Subscription) : Act Floor Receipt := do
  let held := isHeld sub.dispatcher (← get)
  onForwarder sub.dispatcher .disconnected fun w => let (r, w) := w.receive sub.id held; .ok r w

/-! ## Steps -/

/-- Goes on with the dispatcher that a key stands for. -/
def withDispatcher (key : String) (act : DispatcherId → Station → Act Floor Reply) :
    Act Floor Reply := do
  let f := (← get).outside
  match f.find? key with
  | none => pure .malformed
  | some d =>
      match f.station? d with
      | none => pure .malformed
      | some s => act d s

/-- Goes on with a dispatcher of the given kind. -/
def withKind (kind : Kind) (key : String) (act : DispatcherId → Station → Act Floor Reply) :
    Act Floor Reply :=
  withDispatcher key fun d s => if s.kind = kind then act d s else pure .malformed

/-- The observer of a posting. -/
def observer (shared : Bool) : Act Floor ObserverId := do
  if shared then pure ⟨0⟩
  else
    let n := (← get).outside.observers
    onFloor fun f => { f with observers := n + 1 }
    pure ⟨n⟩

/-- What an observer remembers. -/
def memo (o : ObserverId) : Act Floor Reply := do
  pure (.posted (.of (acksFor o (← get).journal)))

/-- The reply to a registration. -/
def registered (brief : Bool) : Except RegistrationError Unit → Reply
  | .ok () => .done
  | .error e => .refused e brief

/-- The reply to a dispatch. -/
def dispatched : Except DispatchError Targets → Reply
  | .ok ts => .reached ts
  | .error e => .failed e

/-- Posts with an observer, and answers with what it remembers. -/
def observed (shared : Bool) (act : ObserverId → Act Floor Unit) : Act Floor Reply := do
  let o ← observer shared
  act o
  memo o

/-- Takes an envelope out of the subscription of a name. -/
def receive (name : String) (patient : Bool) : Act Floor Reply := do
  match subscription? name (← get).outside with
  | none => pure .malformed
  | some sub => (fun r => .received r patient) <$> receiveFrom sub

/-- Lets go of the dispatcher of a key, and says whether there was one. -/
def release (key : String) : Act Floor Reply := do
  match (← get).outside.find? key with
  | none => pure (.flag false)
  | some d => do
      onFloor fun f => f.update d fun s => { s with held := false }
      pure (.flag true)

def inOrder (names : List String) : List String := names.mergeSort fun a b => a ≤ b

/-- The description of the bus, or of the registry if that is all there is. -/
def describe (x : Exchange) (r : Registry) : String :=
  if x.bare then r.describe else x.family.describe r x.sieves.length x.config

/-- Performs a step that needs no more than a registry. -/
def performBare (x : Exchange) (b : Bus Floor) : Step → Act Floor Reply
  | .register key brief =>
      withDispatcher key fun d s => registered brief <$> b.register d s.classes
  | .unregister key => withDispatcher key fun d _ => .flag <$> b.unregister d
  | .close => (fun _ => .done) <$> (if x.bare then Bus.clear else b.close)
  | .mode => (fun s => .text s.registry.mode.title) <$> get
  | .isRegistered c => (fun s => .flag (s.registry.isRegistered c)) <$> get
  | .classes =>
      (fun s => .texts (inOrder (s.registry.registeredClasses.map MessageClass.name))) <$> get
  | .dispatchersFor c => .texts <$> (b.lookup c >>= fun ds => ds.mapM b.name)
  | .nameOf key => withDispatcher key fun d _ => .text <$> b.name d
  | .dispatch key m =>
      withDispatcher key fun d _ => dispatched <$> b.invoke d (Envelope.wrap x.stamp m)
  | .subscribe key name => withKind .forwarder key fun d _ => do
      subscribe d name
      .count <$> onForwarder d 0 fun w => .ok w.subscriberCount w
  | .unsubscribe name => .flag <$> dropSubscription name
  | .subscriberCount key =>
      withKind .forwarder key fun _ s => pure (.count s.forwarder.subscriberCount)
  | .receive name patient => receive name patient
  | .release key => release key
  | .arm key armed => withKind .custom key fun d _ => do
      onFloor fun f => f.update d fun s => { s with armed := armed }
      pure .done
  | .describe => (fun s => .text (describe x s.registry)) <$> get
  | .describeDispatcher key =>
      withKind .function key fun _ s => pure (.text (describeFunction s.name s.classes))
  | _ => pure .malformed

/-- Performs a step.  `inner` is how the tasks of handlers are performed. -/
def perform (x : Exchange) (inner : Task → Act Floor Reply) (step : Step) : Act Floor Reply :=
  let b := x.bus (handle inner)
  if x.bare then performBare x b step
  else match step with
    | .post m shared => observed shared fun o => b.post o m
    | .postAll batch shared => observed shared fun o => b.postAll o batch
    | .stored => (fun s => .stored s.store.messages) <$> get
    | .config => pure (.config x.config)
    | step => performBare x b step

/-- Performs a task, with so many levels of handlers inside handlers. -/
def performWithin (x : Exchange) : Nat → Task → Act Floor Reply
  | 0, t => perform x (fun _ => pure .malformed) t.step
  | n + 1, t => perform x (performWithin x n) t.step

/-! ## Runs -/

/-- What became of one task. -/
structure Result where
  /-- The answer, or the panic that took its place. -/
  answer : Except Panic Reply
  entries : List Entry

/-- Performs a task to its end.  A panic lets go of every delivery under way. -/
def performTask (x : Exchange) (t : Task) (s : State Floor) : Result × State Floor :=
  match performWithin x s.outside.pending t s with
  | .ok reply s' => (⟨.ok reply, s'.journal.drop s.journal.length⟩, s')
  | .error p s' =>
      (⟨.error p, s'.journal.drop s.journal.length⟩, { s' with inFlight := [] })

/-- Performs tasks one after the other.  There are no results if one of them is
malformed, and then the run ends there. -/
def run (x : Exchange) : List Task → State Floor → Option (List Result) × State Floor
  | [], s => (some [], s)
  | t :: ts, s =>
      let (r, s) := performTask x t s
      match r.answer with
      | .ok .malformed => (none, s)
      | _ =>
          let (rs, s) := run x ts s
          (rs.map (r :: ·), s)

/-- The state in which a run starts. -/
def start (mode : Mode) (stations : List Station) (log : List LogEntry) : State Floor where
  registry := .empty mode
  outside := .ofStations stations
  log := log

end Exchange

end Switchboard
