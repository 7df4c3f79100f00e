/-!
# Panics

User code may *panic*: it breaks off, and everything that called it breaks off
too.  What was changed before stays changed.

A value behind a lock is `Guarded`.  When an update of it breaks off half-way,
the lock is *poisoned*, and it stays poisoned.  A poisoned value can be reached
only by an operation that does not mind (`Guarded.override`).
-/

namespace Switchboard

/-- A break-off of user code. -/
structure Panic where
  text : String
deriving DecidableEq, Inhabited

/-- The state in which an action ends, whether or not it breaks off. -/
def endState {σ α : Type} (act : EStateM Panic σ α) (s : σ) : σ :=
  match act s with
  | .ok _ s' | .error _ s' => s'

theorem endState_of_ok {σ α : Type} {act : EStateM Panic σ α} {s s' : σ} {a : α}
    (h : act s = .ok a s') : endState act s = s' := by
  rw [endState, h]

theorem endState_map {σ α β : Type} (f : α → β) (act : EStateM Panic σ α) (s : σ) :
    endState (f <$> act) s = endState act s := by
  simp only [endState, Functor.map, EStateM.map]
  cases act s with
  | ok a s' => rfl
  | error p s' => rfl

theorem endState_bind {σ α β : Type} (act : EStateM Panic σ α) (f : α → EStateM Panic σ β) (s : σ) :
    endState (act >>= f) s =
      match act s with
      | .ok a s' => endState (f a) s'
      | .error _ s' => s' := by
  simp only [endState, bind, EStateM.bind]
  cases act s with
  | ok a s' => rfl
  | error p s' => rfl

/-- Whoever recovers from a panic goes on where the panic left off. -/
theorem endState_tryCatch {σ α : Type} (act : EStateM Panic σ α) (f : Panic → EStateM Panic σ α)
    (s : σ) :
    endState (tryCatch act f) s =
      match act s with
      | .ok _ s' => s'
      | .error p s' => endState (f p) s' := by
  change (match EStateM.tryCatch act f s with | .ok _ s' | .error _ s' => s') = _
  delta EStateM.tryCatch
  cases act s with
  | ok a s' => rfl
  | error p s' => rfl

theorem map_of_error {σ α β : Type} {act : EStateM Panic σ α} {s s' : σ} {p : Panic} (f : α → β)
    (h : act s = .error p s') : (f <$> act) s = .error p s' := by
  simp only [Functor.map, EStateM.map, h]

theorem endState_of_error {σ α : Type} {act : EStateM Panic σ α} {s s' : σ} {p : Panic}
    (h : act s = .error p s') : endState act s = s' := by
  rw [endState, h]

theorem endState_congr {σ α : Type} {act act' : EStateM Panic σ α} {s : σ} (h : act s = act' s) :
    endState act s = endState act' s := by
  rw [endState, endState, h]

/-- A value behind a lock. -/
structure Guarded (α : Type) where
  value : α
  /-- Whether an update broke off half-way. -/
  poisoned : Bool := false
deriving DecidableEq, Inhabited

namespace Guarded

variable {α : Type}

def read? (g : Guarded α) : Option α := if g.poisoned then none else some g.value

theorem read?_of_whole {g : Guarded α} (h : g.poisoned = false) : g.read? = some g.value :=
  if_neg (by simp [h])

theorem read?_of_poisoned {g : Guarded α} (h : g.poisoned = true) : g.read? = none := if_pos h

def write (g : Guarded α) (a : α) : Guarded α := { g with value := a }

/-- The lock after an update that broke off, leaving a value behind. -/
def poison (_ : Guarded α) (a : α) : Guarded α := ⟨a, true⟩

/-- The value replaced without asking whether the lock is poisoned. -/
def override (g : Guarded α) (a : α) : Guarded α := { g with value := a }

end Guarded

end Switchboard
