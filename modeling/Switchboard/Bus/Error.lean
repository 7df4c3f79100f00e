import Switchboard.Message

/-!
# Failures of a bus

* A `PostError` is acknowledged to the poster for one message.  Posting itself
  never fails.
* A `RegistrationError` is the answer of a registration.
* A `StoreError` is the answer of a message store that could not keep a batch.
* A `DispatchError` is the answer of a dispatcher that could not handle an
  envelope.  It is a reason and no more.

Each has one text, `message`.
-/

namespace Switchboard.Bus

inductive StoreError where
  | poisoned
  | unavailable (reason : String)
deriving DecidableEq

def StoreError.message : StoreError → String
  | .poisoned => "message store lock poisoned"
  | .unavailable reason => "message store unavailable: " ++ reason

/-- Why a dispatcher could not handle an envelope. -/
structure DispatchError where
  reason : String
deriving DecidableEq

/-- Why a dispatcher could not be registered. -/
inductive RegistrationError where
  | noClasses (dispatcher : String)
  /-- One of its classes has another dispatcher, in a registry that allows one. -/
  | alreadyHandled (messageClass : MessageClass) (holder : String)
  /-- The lock of the registry is poisoned. -/
  | poisoned
deriving DecidableEq

def RegistrationError.message : RegistrationError → String
  | .noClasses d => "dispatcher `" ++ d ++ "` exposes no message classes"
  | .alreadyHandled c holder => c.name ++ " is already handled by dispatcher `" ++ holder ++ "`"
  | .poisoned => "dispatcher registry lock poisoned"

inductive PostError where
  /-- It is empty, or a filter rejected it. -/
  | invalidMessage (id : MessageId) (messageClass : MessageClass) (reason : String)
  | dispatch (id : MessageId) (messageClass : MessageClass) (dispatcher reason : String)
  | noDispatcherFound (id : MessageId) (messageClass : MessageClass)
  | store (id : MessageId) (messageClass : MessageClass) (reason : String)
deriving DecidableEq

namespace PostError

def invalid (m : Message) (reason : String) : PostError :=
  .invalidMessage m.id m.messageClass reason

def notStored (m : Message) (e : StoreError) : PostError := .store m.id m.messageClass e.message

def messageId : PostError → MessageId
  | invalidMessage i _ _ | dispatch i _ _ _ | noDispatcherFound i _ | store i _ _ => i

def messageClass : PostError → MessageClass
  | invalidMessage _ c _ | dispatch _ c _ _ | noDispatcherFound _ c | store _ c _ => c

def reason? : PostError → Option String
  | invalidMessage _ _ r | dispatch _ _ _ r | store _ _ r => some r
  | noDispatcherFound _ _ => none

def message : PostError → String
  | invalidMessage i c r => "invalid message " ++ c.name ++ " (" ++ i.text ++ "): " ++ r
  | dispatch i c d r =>
      "dispatcher `" ++ d ++ "` failed on " ++ c.name ++ " (" ++ i.text ++ "): " ++ r
  | noDispatcherFound i c => "no dispatcher found for " ++ c.name ++ " (" ++ i.text ++ ")"
  | store i c r => "failed to store " ++ c.name ++ " (" ++ i.text ++ "): " ++ r

end PostError

end Switchboard.Bus
