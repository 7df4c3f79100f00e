import Switchboard.Records.Declaration
import Switchboard.Records.Outline
import Switchboard.Records.SpecificationCache

/-!
# Sessions on a cache of specifications

A session is a list of requests to one cache.  There are numbered entity types,
whose columns are whatever was declared last, and counters, whose columns are
fixed.

A request that cannot be understood ends the session, and then there are no
replies at all.  To ask for the specification of an entity type without a
declaration is such a request.
-/

namespace Switchboard.Records

/-- An entity type. -/
inductive EntityType where
  /-- A numbered type, whose columns are declared. -/
  | declared (n : Nat)
  | counter
deriving DecidableEq

namespace EntityType

/-- What identifies the entities of a type. -/
def Id : EntityType → Type
  | declared _ => String
  | counter => EntityId

/-- The states of the entities of a type. -/
def State : EntityType → Type
  | declared _ => Slots
  | counter => Int64

end EntityType

/-- A request to a cache. -/
inductive CacheRequest where
  /-- Declare the columns of a numbered type. -/
  | define (n : Nat) (d : Declaration)
  | get (k : EntityType)
  | contains (k : EntityType)
  | size
  | isEmpty
  | describe
  | malformed

inductive CacheReply where
  | done
  /-- What a specification declares, whether asking again gives the same one, and
  whether the entity type always had that outline. -/
  | found (outline : Outline) (sameAgain sameAsFirst : Bool)
  | flag (value : Bool)
  | count (value : Nat)
  | text (value : String)
  | failed (e : SpecificationError)
  | malformed

/-- A cache, with the declarations and with what was handed out first. -/
structure CacheSession where
  cache : SpecificationCache EntityType EntityType.Id EntityType.State := {}
  declarations : List (Nat × Declaration) := []
  /-- The outline that was handed out first for each entity type. -/
  firsts : List (EntityType × Outline) := []

namespace CacheSession

/-- What an entity type declares now. -/
def columns? (s : CacheSession) : (k : EntityType) → Option (EntityColumns k.Id k.State)
  | .declared n => (List.lookup n s.declarations).map Declaration.columns
  | .counter => some counterColumns

/-- Asks for a specification twice. -/
def find (s : CacheSession) (k : EntityType) : CacheReply × CacheSession :=
  match s.columns? k with
  | none => (.malformed, s)
  | some declared =>
      let (found, cache) := s.cache.get k declared
      match found with
      | .error e => (.failed e, { s with cache := cache })
      | .ok shared =>
          let (again, cache) := cache.get k declared
          let sameAgain := match again with
            | .ok other => other.serial == shared.serial
            | .error _ => false
          let outline := shared.value.outline
          match s.firsts.find? fun f => f.1 = k with
          | some first => (.found outline sameAgain (first.2 = outline), { s with cache := cache })
          | none =>
              (.found outline sameAgain true,
                { s with cache := cache, firsts := s.firsts ++ [(k, outline)] })

def answer (s : CacheSession) : CacheRequest → CacheReply × CacheSession
  | .define n d => (.done, { s with declarations := (n, d) :: s.declarations })
  | .get k => s.find k
  | .contains k => (.flag (s.cache.contains k), s)
  | .size => (.count s.cache.size, s)
  | .isEmpty => (.flag s.cache.isEmpty, s)
  | .describe => (.text s.cache.describe, s)
  | .malformed => (.malformed, s)

/-- Answers requests one after the other.  There are no replies if one of the
requests is malformed, and then the session ends there. -/
def run : List CacheRequest → CacheSession → Option (List CacheReply) × CacheSession
  | [], s => (some [], s)
  | r :: rs, s =>
      match s.answer r with
      | (.malformed, s) => (none, s)
      | (reply, s) =>
          let (replies, s) := run rs s
          (replies.map (reply :: ·), s)

end CacheSession

end Switchboard.Records
