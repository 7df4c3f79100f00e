import Switchboard.Json.Form

/-!
# Lifecycle

Every stored entity may be archived and may be deleted.  It is active when it is
neither.
-/

namespace Switchboard

/-- The lifecycle of a stored entity. -/
structure LifecycleFlags where
  archived : Bool := false
  deleted : Bool := false
deriving DecidableEq, Inhabited

namespace LifecycleFlags

/-- The flags of an entity that is archived only. -/
def onlyArchived : LifecycleFlags := { archived := true }

/-- The flags of an entity that is deleted only. -/
def onlyDeleted : LifecycleFlags := { deleted := true }

def isActive (f : LifecycleFlags) : Bool := !f.archived && !f.deleted

instance : Form LifecycleFlags where
  encode f := .object [("archived", encode f.archived), ("deleted", encode f.deleted)]
  decode j := do
    match ← j.record? ["archived", "deleted"] with
    | [some a, some d] => return ⟨← decode a, ← decode d⟩
    | _ => none

end LifecycleFlags

end Switchboard
