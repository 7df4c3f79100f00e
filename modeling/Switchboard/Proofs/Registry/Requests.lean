import Switchboard.Proofs.Posting.Reentry

/-!
# What a registry can come to list

A registry is called by buses.  A `Request` is such a call together with the bus that it
comes from, so what user code answers may change from one request to the next.  User code
may also panic, when the dispatcher that stands in the way is asked for its name or when
the log asks for one, and then the lock is poisoned.

None of this shows in the listing (`listed_requestAll`).  A class that is listed has a
dispatcher, no dispatcher is listed twice under a class, and a unicast registry lists one
dispatcher under a class at most.  A request ends in a listing that was changed as a whole
or not at all, so one step is enough (`Steady.keeps_request`), and it does not matter which
requests were refused or broke off.
-/

namespace Switchboard.Bus

variable {ω : Type}

/-! ## Requests -/

/-- A call of a registry, with the bus that it comes from. -/
inductive Request (ω : Type) where
  | register (b : Bus ω) (d : DispatcherId) (advertised : List MessageClass)
  | unregister (b : Bus ω) (d : DispatcherId)
  | clear

namespace Request

def act : Request ω → Act ω Unit
  | register b d cs => (fun _ => ()) <$> b.register d cs
  | unregister b d => (fun _ => ()) <$> b.unregister d
  | clear => Bus.clear

end Request

/-- The state after some requests.  One that panics is followed by the next. -/
def requestAll : List (Request ω) → State ω → State ω
  | [], s => s
  | q :: qs, s => requestAll qs (endState q.act s)

theorem Steady.keeps_request {free : ObserverId → Prop} {P : State ω → Prop} (hP : Steady free P)
    (q : Request ω) : Keeps P q.act := by
  cases q with
  | register b d cs => exact .map _ (hP.keeps_register b d cs)
  | unregister b d => exact .map _ (hP.keeps_unregister b d)
  | clear => exact fun _ hs => hP.clear hs

theorem Steady.requestAll {free : ObserverId → Prop} {P : State ω → Prop} (hP : Steady free P)
    (qs : List (Request ω)) {s : State ω} (hs : P s) : P (requestAll qs s) := by
  induction qs generalizing s with
  | nil => exact hs
  | cons q qs ih => exact ih (hP.keeps_request q s hs)

/-! ## What is listed -/

/-- In a sound registry, a class is registered exactly if it has a dispatcher. -/
theorem Registry.Sound.isRegistered_iff {r : Registry} (h : r.Sound) (c : MessageClass) :
    r.isRegistered c = true ↔ r.dispatchersFor c ≠ [] := by
  cases hp : r.listing.poisoned with
  | true => simp [isRegistered, Guarded.read?, hp, dispatchersFor_of_poisoned hp]
  | false =>
      rw [isRegistered_of_not_poisoned hp, dispatchersFor_of_not_poisoned hp]
      exact h.wellFormed.mem_classes_iff

/-- Whatever was requested, and however it ended: no class is listed twice or without a
dispatcher, no dispatcher is listed twice under a class, and under a class of a unicast
registry there is one at most.  A class is registered exactly if it has a dispatcher. -/
theorem listed_requestAll (mode : Mode) (w : ω) (qs : List (Request ω)) :
    let r := (requestAll qs { registry := .empty mode, outside := w }).registry
    r.mode = mode ∧ r.listing.value.classes.Nodup ∧
      (∀ e ∈ r.listing.value, e.2 ≠ [] ∧ e.2.Nodup ∧ (mode = .unicast → e.2.length ≤ 1)) ∧
      ∀ c, r.isRegistered c = true ↔ r.dispatchersFor c ≠ [] := by
  intro r
  have hstart : (Registry.empty mode).Sound ∧ (Registry.empty mode).mode = mode :=
    ⟨Registry.sound_empty mode, rfl⟩
  obtain ⟨hsound, hmode⟩ : r.Sound ∧ r.mode = mode :=
    (lasting_sound (fun _ => True) mode).requestAll qs
      (s := { registry := .empty mode, outside := w }) hstart
  have hwf := hsound.wellFormed
  refine ⟨hmode, hwf.classes_nodup, fun e he => ?_, hsound.isRegistered_iff⟩
  refine ⟨hwf.inhabited e he, hwf.holders_nodup e he, fun hm => ?_⟩
  have hholders := Listing.holders_of_mem hwf.classes_nodup he
  rw [← hholders]
  exact hsound.single (hmode.trans hm) e.1

end Switchboard.Bus
