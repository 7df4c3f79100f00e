import Switchboard.Text.Blank
import Switchboard.Uuid

/-!
# Messages

A message is what a poster hands to a bus: an identity, a class that decides who
handles it, a kind, the message that caused it if any, and a body.  It may be
*empty*, which its poster declares and which does not depend on the body.

Two classes are the same exactly when their names are.  A class may have any
name, but `MessageClass.parse` only accepts one that is not blank.

A *fragile* message cannot be copied: the attempt panics.
-/

namespace Switchboard

/-! ## Identities -/

/-- The identity of a message. -/
structure MessageId where
  uuid : Uuid
deriving DecidableEq, Inhabited

/-- The identity of an entity. -/
structure EntityId where
  uuid : Uuid
deriving DecidableEq, Inhabited

/-- Why a primitive could not be built. -/
inductive DomainError where
  | validation (reason : String)
  | invalidId (reason : String)
deriving DecidableEq

/-- The error as text. -/
def DomainError.message : DomainError → String
  | .validation reason => "validation failed: " ++ reason
  | .invalidId reason => "invalid identifier: " ++ reason

namespace MessageId

def text (i : MessageId) : String := i.uuid.text

/-- The identity that a text writes.  The error names the kind of identity. -/
def parse (s : String) : Except DomainError MessageId :=
  match Uuid.ofText? s with
  | some u => .ok ⟨u⟩
  | none => .error (.invalidId "MessageId: ")

instance : Form MessageId where
  encode i := encode i.uuid
  decode j := (decode j).map MessageId.mk

end MessageId

namespace EntityId

def text (i : EntityId) : String := i.uuid.text

/-- The identity that a text writes.  The error names the kind of identity. -/
def parse (s : String) : Except DomainError EntityId :=
  match Uuid.ofText? s with
  | some u => .ok ⟨u⟩
  | none => .error (.invalidId "EntityId: ")

instance : Form EntityId where
  encode i := encode i.uuid
  decode j := (decode j).map EntityId.mk

end EntityId

/-! ## Classes -/

/-- The key by which a message finds its dispatchers. -/
structure MessageClass where
  name : String
deriving DecidableEq, Inhabited

namespace MessageClass

/-- The class of a name, which must not be blank. -/
def parse (name : String) : Except DomainError MessageClass :=
  if (Text.trim name).isEmpty then .error (.validation "message class name must not be empty")
  else .ok ⟨name⟩

instance : Form MessageClass where
  encode c := .text c.name
  decode j := j.text?.map MessageClass.mk

end MessageClass

/-! ## Kinds -/

/-- The declared kind of a message. -/
inductive MessageKind where
  | command
  | event
  | rejection
  | record
deriving DecidableEq, Inhabited

namespace MessageKind

/-- The kinds, each with the name it is written with. -/
def names : List (String × MessageKind) :=
  [("command", command), ("event", event), ("rejection", rejection), ("record", record)]

/-- The name a kind is written with. -/
def name : MessageKind → String
  | command => "command"
  | event => "event"
  | rejection => "rejection"
  | record => "record"

/-- The name a kind has in a sentence. -/
def title : MessageKind → String
  | command => "Command"
  | event => "Event"
  | rejection => "Rejection"
  | record => "Record"

instance : Form MessageKind where
  encode k := .text k.name
  decode j := j.choice?.bind fun s => List.lookup s names

end MessageKind

/-! ## Messages -/

/-- A reference to the message that caused another. -/
structure Origin where
  id : MessageId
  messageClass : MessageClass
deriving DecidableEq, Inhabited

instance : Form Origin where
  encode o := .object [("message_class", encode o.messageClass), ("message_id", encode o.id)]
  decode j := do
    match ← j.record? ["message_id", "message_class"] with
    | [some i, some c] => return ⟨← decode i, ← decode c⟩
    | _ => none

/-- A message of a bus. -/
structure Message where
  id : MessageId
  messageClass : MessageClass
  kind : MessageKind := .record
  origin : Option Origin := none
  empty : Bool := false
  body : String := ""
  fragile : Bool := false
deriving DecidableEq, Inhabited

def Origin.of (m : Message) : Origin := ⟨m.id, m.messageClass⟩

namespace Message

/-- A written message without a kind is a command. -/
instance : Form Message where
  encode m := .object
    [("body", encode m.body), ("class", encode m.messageClass), ("empty", encode m.empty),
     ("id", encode m.id), ("kind", encode m.kind), ("origin", encode m.origin),
     ("poison", encode m.fragile)]
  decode j := do
    match ← j.openRecord? 2 ["id", "class", "kind", "origin", "empty", "body", "poison"] with
    | [some i, some c, kind, origin, empty, body, fragile] =>
        return {
          id := ← decode i
          messageClass := ← decode c
          kind := ← Json.orElse? .command kind
          origin := ← Json.optional? origin
          empty := ← Json.orElse? false empty
          body := ← Json.orElse? "" body
          fragile := ← Json.orElse? false fragile }
    | _ => none

end Message

end Switchboard
