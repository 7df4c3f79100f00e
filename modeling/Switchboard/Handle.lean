/-!
# Handles

A handle points to a part of a larger state.  An action on the part becomes an
action on the whole, and it leaves the rest alone (`Handle.lift`).
-/

namespace Switchboard

/-- A pointer to a part of a larger state. -/
structure Handle (ω τ : Type) where
  get : ω → τ
  set : τ → ω → ω
  get_set : ∀ t w, get (set t w) = t
  /-- To set what is there changes nothing. -/
  set_get : ∀ w, set (get w) w = w

namespace Handle

variable {ω τ ε α : Type}

def whole : Handle τ τ := ⟨id, fun t _ => t, fun _ _ => rfl, fun _ => rfl⟩

/-- An action on the part that a handle points to. -/
def lift (h : Handle ω τ) (act : EStateM ε τ α) : EStateM ε ω α := fun w =>
  match act (h.get w) with
  | .ok a t => .ok a (h.set t w)
  | .error e t => .error e (h.set t w)

end Handle

end Switchboard
