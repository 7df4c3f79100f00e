import Switchboard.Bus.Acknowledgment
import Switchboard.Bus.Config
import Switchboard.Bus.Filter
import Switchboard.Bus.Forwarder
import Switchboard.Bus.MessageStore
import Switchboard.Bus.Registry

/-!
# The journal

Everything that happens on a bus is written down in the order in which it
happens: the batches offered to the store, the filters that were asked, the
envelopes handed to dispatchers, the failures that dispatchers were told of, the
acknowledgments, and the operations that handlers perform while they handle an
envelope.

What an observer received is read off the journal (`acksFor`), and so is the
sequence of dispatches (`dispatches`).

A `Reply` is what one operation on a bus answers.
-/

namespace Switchboard.Bus

inductive Reply where
  | done
  | flag (value : Bool)
  | count (value : Nat)
  | text (value : String)
  | texts (values : List String)
  /-- A registration was refused.  A brief answer leaves out the text. -/
  | refused (error : RegistrationError) (brief : Bool)
  | posted (memo : Memo)
  | stored (messages : List Message)
  | config (value : Config)
  | reached (targets : Targets)
  | failed (error : DispatchError)
  | received (receipt : Receipt) (patient : Bool)
  | malformed
deriving DecidableEq

inductive Entry where
  | offered (batch : List Message)
  | asked (filter : String) (id : MessageId)
  | dispatched (dispatcher : DispatcherId) (envelope : Envelope)
  /-- A dispatcher was told of its failure. -/
  | notified (dispatcher : DispatcherId) (envelope : Envelope) (error : DispatchError)
  | acknowledged (observer : ObserverId) (ack : Ack)
  | undeliverable (envelope : Envelope)
  | started (dispatcher : DispatcherId) (operation : Option String)
  | finished (dispatcher : DispatcherId) (reply : Reply)
deriving DecidableEq

namespace Entry

def ackFor? (o : ObserverId) : Entry → Option Ack
  | acknowledged observer ack => if observer = o then some ack else none
  | _ => none

def dispatch? : Entry → Option (DispatcherId × Envelope)
  | dispatched d e => some (d, e)
  | _ => none

end Entry

/-- What an observer received, in order. -/
def acksFor (o : ObserverId) (journal : List Entry) : List Ack :=
  journal.filterMap (Entry.ackFor? o)

@[simp] theorem acksFor_nil (o : ObserverId) : acksFor o [] = [] := rfl

@[simp] theorem acksFor_append (o : ObserverId) (es es' : List Entry) :
    acksFor o (es ++ es') = acksFor o es ++ acksFor o es' :=
  List.filterMap_append

theorem acksFor_flatMap {α : Type} (o : ObserverId) (f : α → List Entry)
    (l : List α) :
    acksFor o (l.flatMap f) = l.flatMap fun a => acksFor o (f a) :=
  List.filterMap_flatMap

@[simp] theorem acksFor_acknowledged_cons (o : ObserverId) (a : Ack) (es : List Entry) :
    acksFor o (.acknowledged o a :: es) = a :: acksFor o es :=
  List.filterMap_cons_some (if_pos rfl)

theorem acksFor_concat {o : ObserverId} {e : Entry} (h : e.ackFor? o = none) (es : List Entry) :
    acksFor o (es ++ [e]) = acksFor o es := by
  rw [acksFor_append, acksFor, acksFor, List.filterMap_cons_none h, List.filterMap_nil,
    List.append_nil]

/-- The dispatches that took place, in order. -/
def dispatches (journal : List Entry) : List (DispatcherId × Envelope) :=
  journal.filterMap Entry.dispatch?

end Switchboard.Bus
