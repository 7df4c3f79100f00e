import Switchboard.Bus.Error
import Switchboard.Bus.Targets
import Switchboard.Envelope

/-!
# Forwarding

A forwarder is a dispatcher that hands a copy of each envelope to its
subscriptions.  Whoever holds a subscription takes the envelopes out in the
order in which they were put in.

The forwarder keeps one *sender* for each subscription, oldest first.  A
subscription that was dropped has no inbox any more.  Its sender stays until the
next dispatch, which *prunes* it.  So `subscriberCount` may count subscriptions
that are gone.

The copies are made under the lock of the senders.  A fragile message panics at
the first sender, before anybody has received anything, and poisons the lock.
After that the forwarder fails, counts nobody and gives new subscriptions no
sender.  What was queued before can still be received.
-/

namespace Switchboard.Bus

/-- The identity of a subscription to one forwarder. -/
structure SubscriptionId where
  index : Nat
deriving DecidableEq, Inhabited

/-- A dispatcher that broadcasts to subscriptions. -/
structure Forwarder where
  name : String
  /-- The subscriptions it sends to, oldest first. -/
  senders : Guarded (List SubscriptionId) := ⟨[], false⟩
  /-- The queues of the subscriptions that were not dropped. -/
  inboxes : List (SubscriptionId × List Envelope) := []
  made : Nat := 0

/-- What taking an envelope out of a subscription gives. -/
inductive Receipt where
  | envelope (e : Envelope)
  | empty
  /-- Nothing is queued, and nothing will be. -/
  | disconnected
deriving DecidableEq

namespace Forwarder

def isLive (f : Forwarder) (i : SubscriptionId) : Bool := f.inboxes.any fun b => b.1 == i

def queue (f : Forwarder) (i : SubscriptionId) : List Envelope := (List.lookup i f.inboxes).getD []

/-- A new subscription.  It gets no sender if the lock is poisoned. -/
def subscribe (f : Forwarder) : SubscriptionId × Forwarder :=
  let i := ⟨f.made⟩
  let senders := if f.senders.poisoned then f.senders else f.senders.write (f.senders.value ++ [i])
  (i, { f with senders := senders, inboxes := f.inboxes ++ [(i, [])], made := f.made + 1 })

def drop (i : SubscriptionId) (f : Forwarder) : Forwarder :=
  { f with inboxes := f.inboxes.filter fun b => b.1 ≠ i }

def subscriberCount (f : Forwarder) : Nat := (f.senders.read?.getD []).length

/-- An envelope put into the queues of some subscriptions. -/
def push (e : Envelope) (receivers : List SubscriptionId)
    (boxes : List (SubscriptionId × List Envelope)) : List (SubscriptionId × List Envelope) :=
  boxes.map fun b => if b.1 ∈ receivers then (b.1, b.2 ++ [e]) else b

/-- The targets of a dispatch that reached so many subscriptions. -/
def targets (name : String) (n : Nat) : Targets :=
  .ofList ((List.range n).map fun k => name ++ "#" ++ toString k)

/-- Hands a copy of an envelope to every live subscription and prunes the
others. -/
def dispatch (e : Envelope) : EStateM Panic Forwarder (Except DispatchError Targets) := fun f =>
  if f.senders.poisoned then .ok (.error ⟨"subscriber list lock poisoned"⟩) f
  else match f.senders.value, e.message.copy with
    | _ :: _, .error p => .error p { f with senders := f.senders.poison f.senders.value }
    | senders, _ =>
        let live := senders.filter f.isLive
        let next := { f with senders := f.senders.write live, inboxes := push e live f.inboxes }
        if live.isEmpty then .ok (.error ⟨"`" ++ f.name ++ "` has no live subscribers"⟩) next
        else .ok (.ok (targets f.name live.length)) next

/-- Takes the oldest envelope out of a subscription.  `held` says whether
anybody still holds the forwarder. -/
def receive (i : SubscriptionId) (held : Bool) (f : Forwarder) : Receipt × Forwarder :=
  match f.queue i with
  | e :: rest =>
      (.envelope e, { f with inboxes := f.inboxes.map fun b => if b.1 = i then (i, rest) else b })
  | [] => (if held && f.senders.value.contains i then .empty else .disconnected, f)

end Forwarder

end Switchboard.Bus
