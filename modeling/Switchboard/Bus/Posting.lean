import Switchboard.Bus.Family
import Switchboard.Bus.State

/-!
# Posting

`postAll` takes a batch of messages and an observer.

1. Each message is put before the filters.  The first rejection is
   acknowledged, and the message goes no further.
2. The accepted messages are offered to the store, all at once.  If that fails,
   each of them is acknowledged as failed, and nothing is dispatched.
3. The accepted messages are wrapped, all of them before the first is delivered.
   Every envelope gets a stamp of its own.
4. Each envelope is delivered: the registry is asked once, and every dispatcher
   listed at that moment gets the envelope, in order.  A dispatcher that fails is
   told first, then the observer, and then the next dispatcher gets its turn.  An
   envelope without a dispatcher goes to the dead-letter policy.
5. A message that caused no failure is acknowledged as handled.
6. A batch that caused no failure is acknowledged as completed.

The outcome of an action that reports failures is their number.

Handlers and names are user code that may panic.  They are called through
`Bus.handle` and `Bus.nameOf`.  A handler is an action on the whole state, so it
may use the bus that calls it.  The log is only written, and the names it
mentions are only asked for, when the bus is `traced`.

Other user code is taken to return and to leave the bus alone: the filters, the
gate of a store, the failures that a bus reports for a dead letter, the observer,
and a dispatcher that is told of its failure.  Filters may change what user code
keeps.  Of a call on the last two there is an entry in the journal, and nothing
else comes of it.
-/

namespace Switchboard.Bus

variable {ω : Type}

/-- What a bus does with an envelope that has no dispatcher. -/
inductive DeadLetters where
  | byPolicy
  /-- It reports failures of its own choice. -/
  | reporting (failures : Envelope → List PostError)

namespace DeadLetters

def silent : DeadLetters := .reporting fun _ => []

/-- Two failures are reported for each envelope. -/
def twice : DeadLetters := .reporting fun e =>
  [.noDispatcherFound e.messageId e.messageClass,
   .invalidMessage e.messageId e.messageClass "dead"]

end DeadLetters

end Switchboard.Bus

namespace Switchboard

/-- A bus, with the user code that it calls.  Of what buses may do in their own way, only the
treatment of dead letters is left to them here: all of them put messages before their filters,
in order, and wrap them with a new stamp. -/
structure Bus (ω : Type) where
  config : Bus.Config
  sieves : List (Bus.Sieve ω)
  storage : Bus.Storage := {}
  reportsDead : Bool := false
  /-- What becomes of an envelope without a dispatcher. -/
  deadLetters : Bus.DeadLetters := .byPolicy
  /-- What the surroundings give to an envelope, by the number of those made before. -/
  stamp : Nat → Stamp := fun _ => default
  traced : Bool := false
  handle : Bus.DispatcherId → Envelope → Bus.Act ω (Except Bus.DispatchError Bus.Targets)
  nameOf : Bus.DispatcherId → ω → Except Panic String

namespace Bus

variable {ω : Type}

open Act

/-- The bus of a family, with filters added. -/
def ofFamily (f : Family) (c : Config) (added : List (Sieve ω))
    (handle : DispatcherId → Envelope → Act ω (Except DispatchError Targets))
    (nameOf : DispatcherId → ω → Except Panic String) : Bus ω where
  config := c
  sieves := f.sieves c added
  handle := handle
  nameOf := nameOf

def name (b : Bus ω) (d : DispatcherId) : Act ω String := fun s =>
  match b.nameOf d s.outside with
  | .ok n => .ok n s
  | .error p => .error p s

/-- Adds to the log, if the bus is traced. -/
def trace (b : Bus ω) (level : Level) (message : String) (fields : List (String × LogValue)) :
    Act ω Unit :=
  if b.traced then report ⟨level, message, fields⟩ else pure ()

/-- Adds to the log, if the bus is traced, naming a dispatcher. -/
def traceNamed (b : Bus ω) (d : DispatcherId) (level : Level) (message : String)
    (fields : List (String × LogValue)) : Act ω Unit :=
  if b.traced then do
    let n ← b.name d
    report ⟨level, message, ("dispatcher", .text n) :: fields⟩
  else pure ()

/-- The values by which the log names a message. -/
def messageFields (c : MessageClass) (i : MessageId) : List (String × LogValue) :=
  [("message_class", .text c.name), ("message_id", .text i.text)]

/-! ## Filtering -/

/-- Notes that a filter is asked, if it was added. -/
def noteAsked (f : Sieve ω) (m : Message) : Act ω Unit :=
  match f.label? with
  | some label => note (.asked label m.id)
  | none => pure ()

def ask (f : Sieve ω) (m : Message) : Act ω (Option PostError) := do
  noteAsked f m
  onOutside fun w => .ok (f.verdict m w).1 (f.verdict m w).2

/-- The first rejection of a message by some filters. -/
def judge (m : Message) : List (Sieve ω) → Act ω (Option PostError)
  | [] => pure none
  | f :: fs => do
      match ← ask f m with
      | some e => pure (some e)
      | none => judge m fs

/-- Puts a batch before the filters.  The outcome is the accepted messages, in
order, and the number of rejections. -/
def sift (b : Bus ω) (o : ObserverId) : List Message → Act ω (List Message × Nat)
  | [] => pure ([], 0)
  | m :: ms => do
      match ← judge m b.sieves with
      | none =>
          let (accepted, rejected) ← sift b o ms
          pure (m :: accepted, rejected)
      | some e =>
          b.trace .debug "message filtered out"
            (("error", .text e.message) :: messageFields m.messageClass m.id)
          acknowledge o (.error e)
          let (accepted, rejected) ← sift b o ms
          pure (accepted, rejected + 1)

/-! ## Storing -/

def offer (b : Bus ω) (batch : List Message) : Act ω (Except StoreError Unit) := do
  noteWhen b.storage.reported (.offered batch)
  onStore (b.storage.offer batch)

/-- Acknowledges every message of a batch that could not be stored. -/
def acknowledgeUnstored (o : ObserverId) (e : StoreError) : List Message → Act ω Unit
  | [] => pure ()
  | m :: ms => do
      acknowledge o (.error (.notStored m e))
      acknowledgeUnstored o e ms

/-! ## Wrapping -/

/-- The envelopes of some messages, where so many were made before. -/
def envelopes (b : Bus ω) : Nat → List Message → List Envelope
  | _, [] => []
  | n, m :: ms => .wrap (b.stamp n) m :: envelopes b (n + 1) ms

def wrapAll (b : Bus ω) (ms : List Message) : Act ω (List Envelope) := fun s =>
  let es := b.envelopes s.made.length ms
  .ok es { s with made := s.made ++ es }

/-! ## Delivering -/

/-- Hands an envelope to a dispatcher, and writes that down. -/
def invoke (b : Bus ω) (d : DispatcherId) (e : Envelope) :
    Act ω (Except DispatchError Targets) := do
  note (.dispatched d e)
  b.handle d e

/-- Hands an envelope to one dispatcher of a delivery.  The outcome is the number
of failures. -/
def deliverTo (b : Bus ω) (o : ObserverId) (e : Envelope) (d : DispatcherId) : Act ω Nat := do
  match ← b.invoke d e with
  | .ok targets =>
      b.traceNamed d .debug "envelope dispatched"
        (("targets", .number targets.size) :: messageFields e.messageClass e.messageId)
      pure 0
  | .error reason =>
      b.traceNamed d .warn "dispatch failed"
        (("error", .text reason.reason) :: messageFields e.messageClass e.messageId)
      note (.notified d e reason)
      let n ← b.name d
      acknowledge o (.error (.dispatch e.messageId e.messageClass n reason.reason))
      pure 1

/-- Hands an envelope to every dispatcher of a delivery, in order. -/
def deliverToAll (b : Bus ω) (o : ObserverId) (e : Envelope) : List DispatcherId → Act ω Nat
  | [] => pure 0
  | d :: ds => do
      let failed ← b.deliverTo o e d
      letGo
      let more ← deliverToAll b o e ds
      pure (failed + more)

/-- Acknowledges failures, in order.  The outcome is their number. -/
def acknowledgeAll (o : ObserverId) : List PostError → Act ω Nat
  | [] => pure 0
  | e :: es => do
      acknowledge o (.error e)
      let more ← acknowledgeAll o es
      pure (more + 1)

/-- What becomes of an envelope without a dispatcher. -/
def bury (b : Bus ω) (o : ObserverId) (e : Envelope) : Act ω Nat := do
  noteWhen b.reportsDead (.undeliverable e)
  match b.deadLetters with
  | .reporting failures => acknowledgeAll o (failures e)
  | .byPolicy =>
      match b.config.deadLetter with
      | .reject =>
          b.trace .warn "no dispatcher found; message rejected"
            (messageFields e.messageClass e.messageId)
          acknowledge o (.error (.noDispatcherFound e.messageId e.messageClass))
          pure 1
      | .drop =>
          b.trace .warn "no dispatcher found; message dropped"
            (messageFields e.messageClass e.messageId)
          pure 0

/-- The dispatchers listed for a class. -/
def lookup (b : Bus ω) (c : MessageClass) : Act ω (List DispatcherId) := do
  let r := (← get).registry
  if r.listing.poisoned then
    b.trace .warn "registry lock poisoned; no dispatchers returned"
      [("message_class", .text c.name)]
  pure (r.dispatchersFor c)

/-- Delivers an envelope to the dispatchers that are listed for its class now.
The outcome is the number of failures. -/
def deliver (b : Bus ω) (o : ObserverId) (e : Envelope) : Act ω Nat := do
  let ds ← b.lookup e.messageClass
  if ds.isEmpty then b.bury o e
  else
    hold ds
    b.deliverToAll o e ds

/-- Delivers envelopes one after the other, and acknowledges each that caused no
failure.  The outcome is the number of failures. -/
def deliverEach (b : Bus ω) (o : ObserverId) : List Envelope → Act ω Nat
  | [] => pure 0
  | e :: es => do
      let failed ← b.deliver o e
      if failed = 0 then acknowledge o (.next e.message)
      let more ← deliverEach b o es
      pure (failed + more)

/-! ## Posting -/

/-- Stores the accepted messages of a batch, wraps and delivers them.  The outcome
is the number of failures. -/
def dispatchBatch (b : Bus ω) (o : ObserverId) (accepted : List Message) : Act ω Nat := do
  if accepted.isEmpty then pure 0
  else
    match ← b.offer accepted with
    | .error e =>
        b.trace .warn "storing batch failed; batch not dispatched"
          [("error", .text e.message), ("messages", .number accepted.length)]
        acknowledgeUnstored o e accepted
        pure accepted.length
    | .ok () =>
        let es ← b.wrapAll accepted
        b.deliverEach o es

/-- Acknowledges a batch as completed, if there were no failures. -/
def conclude (b : Bus ω) (o : ObserverId) (messages errors : Nat) : Act ω Unit := do
  noteWhen (errors == 0) (.acknowledged o .completed)
  b.trace .debug "batch posted" [("messages", .number messages), ("errors", .number errors)]

def postAll (b : Bus ω) (o : ObserverId) (batch : List Message) : Act ω Unit := do
  let (accepted, rejected) ← b.sift o batch
  let failed ← b.dispatchBatch o accepted
  b.conclude o batch.length (rejected + failed)

/-- Posts one message.  An empty message fails at once. -/
def post (b : Bus ω) (o : ObserverId) (m : Message) : Act ω Unit := do
  if m.empty then
    b.trace .debug "empty message rejected" (messageFields m.messageClass m.id)
    acknowledge o (.error (.invalid m "message is empty"))
  else b.postAll o [m]

/-! ## Registration -/

/-- User code that runs under the lock of the registry.  If it panics, the lock is
poisoned. -/
def underLock {α : Type} (act : Act ω α) : Act ω α := fun s =>
  match act s with
  | .ok a s => .ok a s
  | .error p s => .error p { s with registry := s.registry.poison }

/-- Registers a dispatcher under the classes that it advertises. -/
def register (b : Bus ω) (d : DispatcherId) (advertised : List MessageClass) :
    Act ω (Except RegistrationError Unit) := do
  let names := fun outside d => b.nameOf d outside
  match ← onRegistry (Registry.register (names (← get).outside) d advertised) with
  | .error e => pure (.error e)
  | .ok () =>
      underLock (b.traceNamed d .debug "dispatcher registered" [])
      pure (.ok ())

/-- Removes a dispatcher from every class, and says whether it was listed. -/
def unregister (b : Bus ω) (d : DispatcherId) : Act ω Bool := do
  if (← get).registry.listing.poisoned then
    b.traceNamed d .warn "registry lock poisoned; unregister skipped" []
    pure false
  else
    let removed ← onRegistry fun r => .ok (r.unregister d).1 (r.unregister d).2
    if removed then underLock (b.traceNamed d .debug "dispatcher unregistered" [])
    pure removed

def clear : Act ω Unit := modify fun s => { s with registry := s.registry.clear }

/-- Shuts the bus down: every registration is forgotten. -/
def close (b : Bus ω) : Act ω Unit := do
  clear
  b.trace .debug "bus closed" []

end Bus

end Switchboard
