import Switchboard.Message
import Switchboard.Panic
import Switchboard.Timestamp

/-!
# Envelopes

An envelope is a message with what routing needs to know of it, copied when the
envelope is made (`wrap`), so that nobody has to look inside.  It also has an
identity of its own and the time at which the bus took the message.  Both come
from outside, as a `Stamp`.

An envelope that is read from JSON is taken as it stands: nothing checks it
against the message.
-/

namespace Switchboard

/-- What the surroundings give to an envelope. -/
structure Stamp where
  envelopeId : Uuid
  postedAt : Timestamp
deriving DecidableEq, Inhabited

/-- A message with its routing data.  It is a message of a bus unless another type is given. -/
structure Envelope (μ : Type := Message) where
  envelopeId : Uuid
  messageId : MessageId
  messageClass : MessageClass
  kind : MessageKind
  origin : Option Origin
  postedAt : Timestamp
  message : μ
deriving DecidableEq, Inhabited

namespace Envelope

/-- Wraps a message. -/
def wrap (stamp : Stamp) (m : Message) : Envelope where
  envelopeId := stamp.envelopeId
  messageId := m.id
  messageClass := m.messageClass
  kind := m.kind
  origin := m.origin
  postedAt := stamp.postedAt
  message := m

instance {μ : Type} [Form μ] : Form (Envelope μ) where
  encode e := .object
    [("envelope_id", encode e.envelopeId), ("kind", encode e.kind), ("message", encode e.message),
     ("message_class", encode e.messageClass), ("message_id", encode e.messageId),
     ("origin", encode e.origin), ("posted_at", encode e.postedAt)]
  decode j := do
    match ← j.record? ["envelope_id", "message_id", "message_class", "kind", "origin",
        "posted_at", "message"] with
    | [some e, some i, some c, some k, origin, some p, some m] =>
        return {
          envelopeId := ← decode e
          messageId := ← decode i
          messageClass := ← decode c
          kind := ← decode k
          origin := ← Json.optional? origin
          postedAt := ← decode p
          message := ← decode m }
    | _ => none

end Envelope

/-! ## Copies -/

/-- A copy of a message.  A fragile one panics. -/
def Message.copy (m : Message) : Except Panic Message :=
  if m.fragile then .error ⟨"clone of `" ++ m.body ++ "`"⟩ else .ok m

end Switchboard
