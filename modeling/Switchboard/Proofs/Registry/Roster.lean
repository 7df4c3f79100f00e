import Switchboard.Proofs.Registry.Operations

/-!
# The registry as a roster

A *roster* is an ordered list of pairs of a class and a dispatcher, each pair once.
It is the plainest account of who is registered:

* a registration that succeeds puts a pair for each advertised class at the end,
  unless the pair is there,
* a registration that does not succeed changes nothing,
* to unregister a dispatcher deletes its pairs,
* to clear deletes all pairs.

`track` performs a history of calls on a registry and keeps a roster beside it.  As
long as the lock is not poisoned, every look-up is read off the roster
(`lookups_track`).  One call keeps the two in step (`Mirrors.perform`), and so does
a history.
-/

namespace Switchboard.Bus

/-! ## Rosters -/

/-- Who is registered for what, in the order of registration. -/
abbrev Roster := List (MessageClass × DispatcherId)

namespace Roster

/-- One more pair, unless it is there. -/
def enter (d : DispatcherId) (l : Roster) (c : MessageClass) : Roster :=
  if (c, d) ∈ l then l else l ++ [(c, d)]

/-- One more pair for each of some classes. -/
def enterAll (d : DispatcherId) (cs : List MessageClass) (l : Roster) : Roster :=
  cs.foldl (enter d) l

def strike (d : DispatcherId) (l : Roster) : Roster := l.filter fun p => p.2 ≠ d

/-- The dispatchers paired with a class, in order. -/
def dispatchersOf (c : MessageClass) (l : Roster) : List DispatcherId :=
  (l.filter fun p => p.1 = c).map Prod.snd

def Covers (l : Roster) (c : MessageClass) : Prop := ∃ d, (c, d) ∈ l

theorem mem_dispatchersOf {c : MessageClass} {d : DispatcherId} {l : Roster} :
    d ∈ dispatchersOf c l ↔ (c, d) ∈ l := by
  simp only [dispatchersOf, List.mem_map, List.mem_filter, decide_eq_true_eq]
  constructor
  · rintro ⟨⟨c', d'⟩, ⟨hp, rfl⟩, rfl⟩
    exact hp
  · intro hp
    exact ⟨(c, d), ⟨hp, rfl⟩, rfl⟩

theorem covers_iff {c : MessageClass} {l : Roster} : l.Covers c ↔ dispatchersOf c l ≠ [] := by
  constructor
  · rintro ⟨d, hd⟩
    exact List.ne_nil_of_mem (mem_dispatchersOf.2 hd)
  · intro hne
    obtain ⟨d, hd⟩ := List.exists_mem_of_ne_nil _ hne
    exact ⟨d, mem_dispatchersOf.1 hd⟩

theorem dispatchersOf_enter (d : DispatcherId) (c c' : MessageClass) (l : Roster) :
    dispatchersOf c' (enter d l c) =
      if c' = c then Bus.enter d (dispatchersOf c' l) else dispatchersOf c' l := by
  rw [enter]
  by_cases hp : (c, d) ∈ l
  · rw [if_pos hp]
    split
    · next hc => rw [hc, enter_of_mem (mem_dispatchersOf.2 hp)]
    · rfl
  · rw [if_neg hp]
    by_cases hc : c' = c
    · subst hc
      rw [if_pos rfl, enter_of_not_mem fun h => hp (mem_dispatchersOf.1 h)]
      simp [dispatchersOf]
    · rw [if_neg hc]
      simp [dispatchersOf, Ne.symm hc]

theorem dispatchersOf_enterAll (d : DispatcherId) (c : MessageClass) (cs : List MessageClass)
    (l : Roster) :
    dispatchersOf c (enterAll d cs l) =
      if c ∈ cs then Bus.enter d (dispatchersOf c l) else dispatchersOf c l := by
  induction cs generalizing l with
  | nil => rfl
  | cons x cs ih =>
      have h : enterAll d (x :: cs) l = enterAll d cs (enter d l x) := rfl
      rw [h, ih, dispatchersOf_enter]
      by_cases hx : c = x
      · subst hx
        simp [enter_enter]
      · simp [hx]

theorem dispatchersOf_strike (d : DispatcherId) (c : MessageClass) (l : Roster) :
    dispatchersOf c (strike d l) = (dispatchersOf c l).filter fun x => x ≠ d := by
  unfold dispatchersOf strike
  rw [List.filter_map, List.filter_filter, List.filter_filter]
  congr 1
  apply List.filter_congr
  intro p _
  simp [Bool.and_comm]

end Roster

/-! ## Histories -/

/-- A call of a registry.  A registration comes with what user code answers during
it: the classes that the dispatcher advertises, and the names. -/
inductive Call where
  | register (nameOf : DispatcherId → Except Panic String) (d : DispatcherId)
    (advertised : List MessageClass)
  | unregister (d : DispatcherId)
  | clear

namespace Call

/-- Whether a call is a registration that succeeds. -/
def succeeds (k : Call) (r : Registry) : Bool :=
  match k with
  | .register nameOf d cs =>
      match Registry.register nameOf d cs r with
      | .ok (.ok ()) _ => true
      | _ => false
  | _ => false

/-- The registry after a call. -/
def perform (k : Call) (r : Registry) : Registry :=
  match k with
  | .register nameOf d cs => endState (Registry.register nameOf d cs) r
  | .unregister d => (r.unregister d).2
  | .clear => r.clear

/-- The roster after a call, given whether a registration succeeded. -/
def record (k : Call) (succeeded : Bool) (l : Roster) : Roster :=
  match k with
  | .register _ d cs => if succeeded then l.enterAll d cs else l
  | .unregister d => l.strike d
  | .clear => []

end Call

/-- A history of calls on a registry, with a roster beside it. -/
def track : List Call → Registry → Roster → Registry × Roster
  | [], r, l => (r, l)
  | k :: ks, r, l => track ks (k.perform r) (k.record (k.succeeds r) l)

/-! ## One call -/

/-- A poisoned lock is never mended. -/
theorem Call.poisoned_perform (k : Call) {r : Registry} (h : r.listing.poisoned = true) :
    (k.perform r).listing.poisoned = true := by
  cases k with
  | register nameOf d cs =>
      rw [Call.perform]
      rcases Registry.endState_register nameOf d cs r with he | he | ⟨he, _⟩ <;> rw [he]
      · exact h
      · exact Registry.poisoned_poison r
      · exact h
  | unregister d => exact (Registry.poisoned_unregister r d).trans h
  | clear => exact h

/-- The registry lists what the roster says. -/
structure Mirrors (r : Registry) (l : Roster) : Prop where
  wellFormed : r.listing.value.WellFormed
  /-- A class lists the dispatchers that are paired with it. -/
  holders_eq : ∀ c, r.listing.value.holders c = l.dispatchersOf c

namespace Mirrors

variable {r : Registry} {l : Roster}

theorem empty (mode : Mode) : Mirrors (.empty mode) [] where
  wellFormed := Listing.wellFormed_nil
  holders_eq := fun _ => rfl

theorem enroll (h : Mirrors r l) (d : DispatcherId) (cs : List MessageClass) :
    Mirrors (r.enroll d cs) (l.enterAll d cs) where
  wellFormed := h.wellFormed.addAll d cs
  holders_eq := by
    intro c
    rw [Roster.dispatchersOf_enterAll, ← h.holders_eq c]
    exact Listing.holders_addAll d c cs r.listing.value

theorem register (h : Mirrors r l) (nameOf : DispatcherId → Except Panic String)
    (d : DispatcherId) (cs : List MessageClass) :
    Mirrors ((Call.register nameOf d cs).perform r)
      ((Call.register nameOf d cs).record ((Call.register nameOf d cs).succeeds r) l) := by
  obtain ⟨res, hres⟩ : ∃ res, Registry.register nameOf d cs r = res := ⟨_, rfl⟩
  have ho := hres ▸ Registry.register_outcome nameOf d cs r
  simp only [Call.perform, Call.record, Call.succeeds, endState, hres]
  cases ho with
  | noClasses | nameless | poisoned | taken => exact h
  | broken => exact ⟨h.wellFormed, h.holders_eq⟩
  | enrolled => exact h.enroll d cs

theorem unregister (h : Mirrors r l) (hp : r.listing.poisoned = false) (d : DispatcherId) :
    Mirrors (r.unregister d).2 (l.strike d) := by
  rw [Registry.unregister_of_not_poisoned hp]
  refine ⟨h.wellFormed.remove d, fun c => ?_⟩
  rw [Roster.dispatchersOf_strike, ← h.holders_eq c]
  exact Listing.holders_remove d c h.wellFormed.classes_nodup

/-- One call keeps the registry and the roster in step. -/
theorem perform (h : Mirrors r l) (hp : r.listing.poisoned = false) (k : Call) :
    Mirrors (k.perform r) (k.record (k.succeeds r) l) := by
  cases k with
  | register nameOf d cs => exact h.register nameOf d cs
  | unregister d => exact h.unregister hp d
  | clear => exact ⟨Listing.wellFormed_nil, fun _ => rfl⟩

end Mirrors

/-! ## A history -/

theorem poisoned_track {r : Registry} (h : r.listing.poisoned = true) (ks : List Call)
    (l : Roster) : (track ks r l).1.listing.poisoned = true := by
  induction ks generalizing r l with
  | nil => exact h
  | cons k ks ih => exact ih (k.poisoned_perform h) _

theorem Mirrors.track {r : Registry} {l : Roster} (h : Mirrors r l) (ks : List Call)
    (hp : (track ks r l).1.listing.poisoned = false) :
    Mirrors (track ks r l).1 (track ks r l).2 := by
  induction ks generalizing r l with
  | nil => exact h
  | cons k ks ih =>
      -- The lock is whole at the end, so it was whole before the call.
      have hr : r.listing.poisoned = false := by
        cases hr : r.listing.poisoned with
        | false => rfl
        | true => rw [poisoned_track hr] at hp; cases hp
      exact ih (h.perform hr k) hp

/-- After any history that leaves the lock whole, the roster answers every look-up:
a class has the dispatchers paired with it, in order, a class is registered exactly
if it has a pair, and the registered classes are those of the pairs, each once. -/
theorem lookups_track (mode : Mode) (ks : List Call)
    (hp : (track ks (.empty mode) []).1.listing.poisoned = false) :
    let r := (track ks (.empty mode) []).1
    let l := (track ks (.empty mode) []).2
    (∀ c, r.dispatchersFor c = l.dispatchersOf c) ∧
    (∀ c, r.isRegistered c = true ↔ l.Covers c) ∧
    (∀ c, c ∈ r.registeredClasses ↔ l.Covers c) ∧ r.registeredClasses.Nodup := by
  intro r l
  have h : Mirrors r l := (Mirrors.empty mode).track ks hp
  have hclasses : ∀ c, c ∈ r.listing.value.classes ↔ l.Covers c := by
    intro c
    rw [h.wellFormed.mem_classes_iff, h.holders_eq, Roster.covers_iff]
  refine ⟨fun c => ?_, fun c => ?_, fun c => ?_, ?_⟩
  · rw [Registry.dispatchersFor_of_not_poisoned hp, h.holders_eq]
  · rw [Registry.isRegistered_of_not_poisoned hp, hclasses]
  · rw [Registry.registeredClasses_of_not_poisoned hp, hclasses]
  · rw [Registry.registeredClasses_of_not_poisoned hp]
    exact h.wellFormed.classes_nodup

/-- A dispatcher is refused because of one of its two classes, then takes the place
of the one that stood in its way, which comes back under a third class. -/
def handover : List Call :=
  let names := fun _ => .ok "clerk"
  [.register names ⟨0⟩ [⟨"open"⟩, ⟨"close"⟩], .register names ⟨1⟩ [⟨"close"⟩, ⟨"audit"⟩],
    .unregister ⟨0⟩, .register names ⟨1⟩ [⟨"close"⟩, ⟨"audit"⟩],
    .register names ⟨0⟩ [⟨"open"⟩], .register names ⟨1⟩ [⟨"audit"⟩, ⟨"count"⟩]]

theorem lookups_track_handover :
    (track handover (.empty .unicast) []).1.listing.poisoned = false ∧
    (track handover (.empty .unicast) []).1.dispatchersFor ⟨"close"⟩ = [⟨1⟩] ∧
    (track handover (.empty .unicast) []).1.dispatchersFor ⟨"open"⟩ = [⟨0⟩] ∧
    (track handover (.empty .unicast) []).1.isRegistered ⟨"count"⟩ = true := by
  have hp : (track handover (.empty .unicast) []).1.listing.poisoned = false := by decide
  have h := lookups_track .unicast handover hp
  refine ⟨hp, (h.1 _).trans (by decide), (h.1 _).trans (by decide), (h.2.1 _).2 ⟨⟨1⟩, by decide⟩⟩

end Switchboard.Bus
