import Switchboard.Bus.Error

/-!
# Acknowledgments

Whoever posts names an observer.  The observer hears of every message that was
handled without a failure (`next`), of every failure (`error`), and of every
batch without any failure (`completed`).

A `Memo` is what an observer remembers of the acknowledgments it received.
-/

namespace Switchboard.Bus

structure ObserverId where
  index : Nat
deriving DecidableEq, Inhabited

inductive Ack where
  /-- A message was handled without a failure. -/
  | next (m : Message)
  | error (e : PostError)
  | completed
deriving DecidableEq

namespace Ack

def next? : Ack → Option Message
  | next m => some m
  | _ => none

def error? : Ack → Option PostError
  | error e => some e
  | _ => none

def isCompleted : Ack → Bool
  | completed => true
  | _ => false

end Ack

/-- What an observer remembers. -/
structure Memo where
  /-- The messages that were handled, in the order of arrival. -/
  acknowledged : List Message
  /-- The failures, in the order of arrival. -/
  errors : List PostError
  /-- How many batches were free of failures. -/
  completions : Nat
deriving DecidableEq

/-- What an observer remembers of some acknowledgments. -/
def Memo.of (acks : List Ack) : Memo where
  acknowledged := acks.filterMap Ack.next?
  errors := acks.filterMap Ack.error?
  completions := acks.countP Ack.isCompleted

end Switchboard.Bus
