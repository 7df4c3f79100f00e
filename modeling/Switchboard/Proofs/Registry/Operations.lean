import Switchboard.Proofs.Registry.Listing

/-!
# What registering does

A registration ends in one of six ways (`Registry.Outcome`), and only one of them
changes the listing.  Everything that is proved of registering goes through this
list of ways.

A registry is `Sound` if its listing is well-formed and, in a unicast registry,
lists at most one dispatcher under each class.  No operation takes that away,
whether it succeeds, is refused, or breaks off.  So nothing is ever registered
behind the back of a unicast registry.
-/

namespace Switchboard.Bus.Registry

variable {r : Registry} {d : DispatcherId} {cs : List MessageClass}
  {nameOf : DispatcherId → Except Panic String}

/-! ## The ways in which a registration ends -/

/-- The registry with a dispatcher entered under some classes. -/
def enroll (r : Registry) (d : DispatcherId) (cs : List MessageClass) : Registry :=
  { r with listing := r.listing.write (r.listing.value.addAll d cs) }

/-- The ways in which the registration of a dispatcher ends. -/
inductive Outcome (nameOf : DispatcherId → Except Panic String) (d : DispatcherId)
    (cs : List MessageClass) (r : Registry) :
    EStateM.Result Panic Registry (Except RegistrationError Unit) → Prop where
  | noClasses {name : String} :
    cs = [] → nameOf d = .ok name → Outcome nameOf d cs r (.ok (.error (.noClasses name)) r)
  /-- It advertises nothing and cannot say its name. -/
  | nameless {p : Panic} :
    cs = [] → nameOf d = .error p → Outcome nameOf d cs r (.error p r)
  | poisoned :
    cs ≠ [] → r.listing.poisoned = true → Outcome nameOf d cs r (.ok (.error .poisoned) r)
  /-- Another dispatcher stands in the way. -/
  | taken {c : MessageClass} {holder : DispatcherId} {name : String} :
    cs ≠ [] → r.listing.poisoned = false → r.obstacle? d cs = some (c, holder) →
    nameOf holder = .ok name →
    Outcome nameOf d cs r (.ok (.error (.alreadyHandled c name)) r)
  /-- Another dispatcher stands in the way and cannot say its name. -/
  | broken {c : MessageClass} {holder : DispatcherId} {p : Panic} :
    cs ≠ [] → r.listing.poisoned = false → r.obstacle? d cs = some (c, holder) →
    nameOf holder = .error p → Outcome nameOf d cs r (.error p r.poison)
  | enrolled :
    cs ≠ [] → r.listing.poisoned = false → r.obstacle? d cs = none →
    Outcome nameOf d cs r (.ok (.ok ()) (r.enroll d cs))

/-- A registration ends in one of these ways. -/
theorem register_outcome (nameOf : DispatcherId → Except Panic String) (d : DispatcherId)
    (cs : List MessageClass) (r : Registry) :
    Outcome nameOf d cs r (register nameOf d cs r) := by
  rw [register]
  cases cs with
  | nil =>
      cases hn : nameOf d with
      | ok name => exact .noClasses rfl hn
      | error p => exact .nameless rfl hn
  | cons c cs =>
      have hne : c :: cs ≠ [] := List.cons_ne_nil c cs
      cases hp : r.listing.poisoned with
      | true => exact .poisoned hne hp
      | false =>
          cases ho : r.obstacle? d (c :: cs) with
          | none => exact .enrolled hne hp ho
          | some o =>
              obtain ⟨c', holder⟩ := o
              cases hn : nameOf holder with
              | ok name => simpa [hn] using Outcome.taken hne hp ho hn
              | error p => simpa [hn, poison] using Outcome.broken hne hp ho hn

/-- A registration leaves the registry as it was, poisons it, or enters the
dispatcher, and then nobody stood in the way. -/
theorem endState_register (nameOf : DispatcherId → Except Panic String) (d : DispatcherId)
    (cs : List MessageClass) (r : Registry) :
    endState (register nameOf d cs) r = r ∨ endState (register nameOf d cs) r = r.poison ∨
      endState (register nameOf d cs) r = r.enroll d cs ∧ r.obstacle? d cs = none := by
  have h := register_outcome nameOf d cs r
  rw [endState]
  generalize register nameOf d cs r = res at h
  cases h with
  | noClasses | nameless | poisoned | taken => exact .inl rfl
  | broken => exact .inr (.inl rfl)
  | enrolled _ _ ho => exact .inr (.inr ⟨rfl, ho⟩)

/-! ## Poisoned locks -/

@[simp] theorem poisoned_poison (r : Registry) : r.poison.listing.poisoned = true := rfl

theorem unregister_of_poisoned (h : r.listing.poisoned = true) (d : DispatcherId) :
    r.unregister d = (false, r) := by
  rw [unregister, if_pos h]

theorem unregister_of_not_poisoned (h : r.listing.poisoned = false) (d : DispatcherId) :
    r.unregister d = (r.listing.value.lists d,
      { r with listing := r.listing.write (r.listing.value.remove d) }) := by
  rw [unregister, if_neg (by simp [h])]

@[simp] theorem poisoned_unregister (r : Registry) (d : DispatcherId) :
    (r.unregister d).2.listing.poisoned = r.listing.poisoned := by
  cases h : r.listing.poisoned with
  | true => rw [unregister_of_poisoned h, h]
  | false =>
      rw [unregister_of_not_poisoned h]
      exact h

@[simp] theorem mode_unregister (r : Registry) (d : DispatcherId) :
    (r.unregister d).2.mode = r.mode := by
  cases h : r.listing.poisoned with
  | true => rw [unregister_of_poisoned h]
  | false => rw [unregister_of_not_poisoned h]

/-! ## Looking up -/

theorem dispatchersFor_of_not_poisoned (h : r.listing.poisoned = false) (c : MessageClass) :
    r.dispatchersFor c = r.listing.value.holders c := by
  simp [dispatchersFor, Guarded.read?, h]

theorem isRegistered_of_not_poisoned (h : r.listing.poisoned = false) (c : MessageClass) :
    r.isRegistered c = true ↔ c ∈ r.listing.value.classes := by
  simp [isRegistered, Guarded.read?, h]

theorem registeredClasses_of_not_poisoned (h : r.listing.poisoned = false) :
    r.registeredClasses = r.listing.value.classes := by
  simp [registeredClasses, Guarded.read?, h]

theorem dispatchersFor_of_poisoned (h : r.listing.poisoned = true) (c : MessageClass) :
    r.dispatchersFor c = [] := by
  simp [dispatchersFor, Guarded.read?, h]

theorem isRegistered_of_poisoned (h : r.listing.poisoned = true) (c : MessageClass) :
    r.isRegistered c = false := by
  simp [isRegistered, Guarded.read?, h]

theorem registeredClasses_of_poisoned (h : r.listing.poisoned = true) :
    r.registeredClasses = [] := by
  simp [registeredClasses, Guarded.read?, h]

/-! ## Sound registries -/

/-- What no operation takes away from a registry. -/
structure Sound (r : Registry) : Prop where
  wellFormed : r.listing.value.WellFormed
  /-- A class of a unicast registry has at most one dispatcher. -/
  single : r.mode = .unicast → r.listing.value.Single

theorem sound_empty (mode : Mode) : (empty mode).Sound where
  wellFormed := Listing.wellFormed_nil
  single := fun _ => Listing.single_nil

theorem Sound.poison (h : r.Sound) : r.poison.Sound := ⟨h.wellFormed, h.single⟩

theorem Sound.clear (_ : r.Sound) : r.clear.Sound where
  wellFormed := Listing.wellFormed_nil
  single := fun _ => Listing.single_nil

theorem Sound.enroll (h : r.Sound) (hfree : r.obstacle? d cs = none) : (r.enroll d cs).Sound where
  wellFormed := h.wellFormed.addAll d cs
  single := by
    intro hm
    have hmode : r.mode = .unicast := hm
    rw [obstacle?, hmode] at hfree
    exact (h.single hmode).addAll hfree

theorem Sound.register (h : r.Sound) (nameOf : DispatcherId → Except Panic String)
    (d : DispatcherId) (cs : List MessageClass) : (endState (register nameOf d cs) r).Sound := by
  rcases endState_register nameOf d cs r with he | he | ⟨he, ho⟩
  · rwa [he]
  · rw [he]
    exact h.poison
  · rw [he]
    exact h.enroll ho

theorem Sound.unregister (h : r.Sound) (d : DispatcherId) : (r.unregister d).2.Sound := by
  cases hp : r.listing.poisoned with
  | true => rwa [unregister_of_poisoned hp]
  | false =>
      rw [unregister_of_not_poisoned hp]
      exact ⟨h.wellFormed.remove d, fun hm => (h.single hm).remove h.wellFormed d⟩

/-- A sound registry answers with no dispatcher twice. -/
theorem Sound.nodup_dispatchersFor (h : r.Sound) (c : MessageClass) :
    (r.dispatchersFor c).Nodup := by
  cases hp : r.listing.poisoned with
  | true =>
      rw [dispatchersFor_of_poisoned hp]
      exact .nil
  | false =>
      rw [dispatchersFor_of_not_poisoned hp]
      exact h.wellFormed.nodup_holders c

/-- A sound unicast registry answers with at most one dispatcher. -/
theorem Sound.length_dispatchersFor_le_one (h : r.Sound) (hm : r.mode = .unicast)
    (c : MessageClass) : (r.dispatchersFor c).length ≤ 1 := by
  cases hp : r.listing.poisoned with
  | true => simp [dispatchersFor_of_poisoned hp]
  | false =>
      rw [dispatchersFor_of_not_poisoned hp]
      exact h.single hm c

end Switchboard.Bus.Registry
