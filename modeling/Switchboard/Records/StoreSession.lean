import Switchboard.Records.Declaration
import Switchboard.Records.Describe
import Switchboard.Records.Listing
import Switchboard.Text.Search

/-!
# Sessions on a record store

A session is a list of requests to one store.  The store keeps snapshots of
entities that have a text as their identity.  A text that starts with `!panic`
has no place in a store: looking for it panics.  The store is used as a
repository, and it makes no difference whether through a handle.

A request that cannot be understood ends the session, and then there are no
replies at all.  What the requests before it did is done.
-/

namespace Switchboard.Records

abbrev SnapshotStore := RecordStore String Slots (Snapshot Slots)

/-- The panic of looking for the place of a text. -/
def placePanic? (i : String) : Option Panic :=
  if Text.startsWith i "!panic" then some ⟨"hash of `" ++ i ++ "`"⟩ else none

/-- Texts and snapshots can be copied. -/
def SnapshotStore.faults : Faults String (Snapshot Slots) := { place := placePanic? }

/-- The store in which a session starts. -/
def SnapshotStore.start (spec : Specification String Slots) : SnapshotStore := .empty spec

inductive StoreRequest where
  | writeSnapshot (e : Entity String Slots)
  /-- Keep the payload of an entity with its columns. -/
  | writeEntity (e : Entity String Slots)
  | write (r : Record String (Snapshot Slots))
  | read (i : String)
  | delete (i : String)
  | length
  | isEmpty
  | recordType
  | query (q : Query)
  | describe
  | malformed

inductive StoreReply where
  | done
  | record (r : Option (Record String (Snapshot Slots)))
  | flag (value : Bool)
  | count (value : Nat)
  | text (value : String)
  | listing (value : Listing)
  | failed (e : StoreError)
  | malformed

/-- The reply to an operation that may fail. -/
def StoreReply.of {α : Type} (answer : α → StoreReply) : Except StoreError α → StoreReply
  | .ok a => answer a
  | .error e => .failed e

namespace SnapshotStore

abbrev Use : Type := Repository SnapshotStore String Slots (Snapshot Slots)

/-- The store used directly, or through a handle. -/
def use (throughHandle : Bool) : Use :=
  if throughHandle then (RecordStore.repository faults).through .whole
  else RecordStore.repository faults

def answer (u : Use) : StoreRequest → EStateM Panic SnapshotStore StoreReply
  | .writeSnapshot e => .of (fun _ => .done) <$> u.writeSnapshot e
  | .writeEntity e => .of (fun _ => .done) <$> u.writeEntity e e.snapshot
  | .write r => .of (fun _ => .done) <$> u.write r
  | .read i => .of .record <$> u.read i
  | .delete i => .of .flag <$> u.delete i
  | .length => .of .count <$> u.length
  | .isEmpty => .of .flag <$> u.isEmpty
  | .recordType => (fun s => .text (u.specification s).recordType) <$> get
  | .query q => .of (fun rs => .listing (.ofRecords q rs)) <$> u.query q
  | .describe => (fun s => .text s.describe) <$> get
  | .malformed => pure .malformed

/-- Answers requests one after the other.  A panic takes the place of a reply.
There are no replies if one of the requests is malformed, and then the session
ends there. -/
def session (u : Use) : List StoreRequest → SnapshotStore →
    Option (List (Except Panic StoreReply)) × SnapshotStore
  | [], s => (some [], s)
  | r :: rs, s =>
      match answer u r s with
      | .ok .malformed s => (none, s)
      | .ok reply s =>
          let (replies, s) := session u rs s
          (replies.map (.ok reply :: ·), s)
      | .error p s =>
          let (replies, s) := session u rs s
          (replies.map (.error p :: ·), s)

end SnapshotStore

end Switchboard.Records
