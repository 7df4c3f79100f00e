import Switchboard.Proofs.Posting.Routing
import Switchboard.Proofs.Registry.Requests

/-!
# Registering and unregistering on a bus

A dispatcher is registered under all the classes that it advertises, or it is refused and
nothing changes at all.  It is refused if it advertises nothing, or if a *rival* stands in its
way: a dispatcher that holds one of the classes on a bus where each class has one dispatcher
(`register_settled`).  To register adds the dispatcher behind those that are there already.  To
unregister takes it out of every class and leaves the others as they are, and so it takes a
registration back exactly (`unregister_settled`).

A refusal names the dispatcher or its rival, and the log names whoever is registered or
unregistered.  If the answer to the question for a name is a panic, the call breaks off with it.
All but two of these questions are asked under the lock of the registry, which is poisoned then.

How a call ends is said once, by `Registered` and `Unregistered`.
-/

namespace Switchboard.Bus

variable {ω : Type} {b : Bus ω} {d : DispatcherId} {cs : List MessageClass} {s : State ω}

open Act

/-! ## Names in the log -/

/-- The log asks for the name of a dispatcher, and the answer is a panic. -/
structure Unlogged (b : Bus ω) (d : DispatcherId) (s : State ω) (p : Panic) : Prop where
  traced_eq : b.traced = true
  nameOf_eq : b.nameOf d s.outside = .error p

/-- To name a dispatcher in the log under the lock disturbs nothing, or it poisons the lock. -/
theorem underLock_traceNamed (b : Bus ω) (d : DispatcherId) (level : Level) (message : String)
    (fields : List (String × LogValue)) (s : State ω) :
    (∃ s', underLock (b.traceNamed d level message fields) s = .ok () s' ∧ Undisturbed s s') ∨
    ∃ p, b.Unlogged d s p ∧ underLock (b.traceNamed d level message fields) s =
      .error p { s with registry := s.registry.poison } := by
  rcases b.traceNamed_undisturbed d level message fields s with ⟨s', h, hs'⟩ | ⟨p, ht, hn, h⟩
  · exact .inl ⟨s', underLock_of_ok h, hs'⟩
  · exact .inr ⟨p, ⟨ht, hn⟩, underLock_of_error h⟩

/-! ## Rivals -/

namespace Registry

variable {r r' : Registry} {nameOf : DispatcherId → Except Panic String}

/-- A dispatcher stands in the way of another one, which advertises a class that it holds. -/
structure Rival (r : Registry) (d : DispatcherId) (cs : List MessageClass) (c : MessageClass)
    (x : DispatcherId) : Prop where
  unicast : r.mode = .unicast
  advertised : c ∈ cs
  listed : x ∈ r.dispatchersFor c
  other : x ≠ d

theorem rival_of_obstacle? (hr : r.listing.poisoned = false) {c : MessageClass} {x : DispatcherId}
    (h : r.obstacle? d cs = some (c, x)) : r.Rival d cs c x := by
  rw [obstacle?] at h
  cases hm : r.mode with
  | multicast => simp [hm] at h
  | unicast =>
      rw [hm] at h
      obtain ⟨hc, hx, hother⟩ := Listing.of_conflict?_eq_some h
      exact ⟨hm, hc, by rwa [dispatchersFor_of_not_poisoned hr], hother⟩

theorem not_rival_of_obstacle? (hr : r.listing.poisoned = false) (h : r.obstacle? d cs = none) :
    ¬ ∃ c x, r.Rival d cs c x := by
  rintro ⟨c, x, hx⟩
  rw [obstacle?, hx.unicast] at h
  have hlisted := hx.listed
  rw [dispatchersFor_of_not_poisoned hr] at hlisted
  exact hx.other (Listing.only_of_conflict?_eq_none h hx.advertised x hlisted)

/-- Why a dispatcher is refused. -/
inductive Refusal (nameOf : DispatcherId → Except Panic String) (r : Registry) (d : DispatcherId)
    (cs : List MessageClass) : RegistrationError → Prop where
  | noClasses {name : String} :
    cs = [] → nameOf d = .ok name → Refusal nameOf r d cs (.noClasses name)
  | alreadyHandled {c : MessageClass} {x : DispatcherId} {name : String} :
    r.Rival d cs c x → nameOf x = .ok name → Refusal nameOf r d cs (.alreadyHandled c name)

/-- A dispatcher would be refused, but whoever has to be named cannot be.  The registry is left
as it was, or poisoned if a rival was asked for its name. -/
inductive Unspoken (nameOf : DispatcherId → Except Panic String) (r : Registry) (d : DispatcherId)
    (cs : List MessageClass) (p : Panic) : Registry → Prop where
  | noClasses : cs = [] → nameOf d = .error p → Unspoken nameOf r d cs p r
  | alreadyHandled {c : MessageClass} {x : DispatcherId} :
    r.Rival d cs c x → nameOf x = .error p → Unspoken nameOf r d cs p r.poison

/-! ## What a registration changes -/

/-- A registry before and after a dispatcher was registered under some classes. -/
structure Enrolled (d : DispatcherId) (cs : List MessageClass) (r r' : Registry) : Prop where
  mode_eq : r'.mode = r.mode
  listed : ∀ c ∈ cs, d ∈ r'.dispatchersFor c
  /-- It comes last where it is new. -/
  last_eq : ∀ c ∈ cs, d ∉ r.dispatchersFor c → r'.dispatchersFor c = r.dispatchersFor c ++ [d]
  /-- It keeps the place that it has. -/
  again_eq : ∀ c, d ∈ r.dispatchersFor c → r'.dispatchersFor c = r.dispatchersFor c
  /-- The others are listed as before, in the same order. -/
  others_eq : ∀ c,
    (r'.dispatchersFor c).filter (fun x => x ≠ d) = (r.dispatchersFor c).filter fun x => x ≠ d
  elsewhere_eq : ∀ c, c ∉ cs → r'.dispatchersFor c = r.dispatchersFor c
  isRegistered_iff : ∀ c, r'.isRegistered c = true ↔ c ∈ cs ∨ r.isRegistered c = true

theorem dispatchersFor_enroll (hr : r.listing.poisoned = false) (d : DispatcherId)
    (cs : List MessageClass) (c : MessageClass) :
    (r.enroll d cs).dispatchersFor c =
      if c ∈ cs then enter d (r.dispatchersFor c) else r.dispatchersFor c := by
  rw [dispatchersFor_of_not_poisoned (r := r.enroll d cs) hr, dispatchersFor_of_not_poisoned hr]
  exact Listing.holders_addAll d c cs r.listing.value

theorem enrolled_enroll (hr : r.listing.poisoned = false) (d : DispatcherId)
    (cs : List MessageClass) : Enrolled d cs r (r.enroll d cs) where
  mode_eq := rfl
  listed := fun c hc => by
    rw [dispatchersFor_enroll hr, if_pos hc]
    exact mem_enter.2 (.inr rfl)
  last_eq := fun c hc hd => by rw [dispatchersFor_enroll hr, if_pos hc, enter_of_not_mem hd]
  again_eq := fun c hd => by rw [dispatchersFor_enroll hr, enter_of_mem hd, ite_self]
  others_eq := by
    intro c
    rw [dispatchersFor_enroll hr]
    split
    · exact filter_enter d _
    · rfl
  elsewhere_eq := fun c hc => by rw [dispatchersFor_enroll hr, if_neg hc]
  isRegistered_iff := by
    intro c
    rw [isRegistered_of_not_poisoned (r := r.enroll d cs) hr, isRegistered_of_not_poisoned hr]
    exact Listing.mem_classes_addAll

/-! ## What a removal changes -/

/-- A registry before and after a dispatcher was removed, and whether it was there. -/
structure Dismissed (d : DispatcherId) (r : Registry) (removed : Bool) (r' : Registry) : Prop where
  removed_iff : removed = true ↔ ∃ c, d ∈ r.dispatchersFor c
  /-- The others are listed as before, in the same order. -/
  dispatchersFor_eq : ∀ c, r'.dispatchersFor c = (r.dispatchersFor c).filter fun x => x ≠ d
  isRegistered_iff : ∀ c, r'.isRegistered c = true ↔ ∃ x ∈ r.dispatchersFor c, x ≠ d

theorem Sound.lists_iff (h : r.Sound) (hr : r.listing.poisoned = false) :
    r.listing.value.lists d = true ↔ ∃ c, d ∈ r.dispatchersFor c := by
  simp only [dispatchersFor_of_not_poisoned hr]
  exact h.wellFormed.lists_iff

theorem Sound.dispatchersFor_unregister (h : r.Sound) (d : DispatcherId) (c : MessageClass) :
    (r.unregister d).2.dispatchersFor c = (r.dispatchersFor c).filter fun x => x ≠ d := by
  cases hr : r.listing.poisoned with
  | true => rw [unregister_of_poisoned hr, dispatchersFor_of_poisoned hr, List.filter_nil]
  | false =>
      have hr' := (poisoned_unregister r d).trans hr
      rw [dispatchersFor_of_not_poisoned hr', dispatchersFor_of_not_poisoned hr,
        unregister_of_not_poisoned hr]
      exact Listing.holders_remove d c h.wellFormed.classes_nodup

theorem Sound.dismissed (h : r.Sound) {removed : Bool}
    (hremoved : removed = true ↔ ∃ c, d ∈ r.dispatchersFor c) :
    Dismissed d r removed (r.unregister d).2 where
  removed_iff := hremoved
  dispatchersFor_eq := h.dispatchersFor_unregister d
  isRegistered_iff := by
    intro c
    rw [(h.unregister d).isRegistered_iff, h.dispatchersFor_unregister]
    simp [List.filter_eq_nil_iff]

/-- To unregister a dispatcher that is not listed changes nothing. -/
theorem Sound.unregister_eq_self (h : r.Sound) (hd : r.listing.value.lists d = false) :
    (r.unregister d).2 = r := by
  cases hr : r.listing.poisoned with
  | true => rw [unregister_of_poisoned hr]
  | false =>
      rw [unregister_of_not_poisoned hr, h.wellFormed.remove_eq_self hd]
      rfl

/-- To unregister takes a registration back. -/
theorem Sound.unregister_enroll (h : r.Sound) (hr : r.listing.poisoned = false)
    (hd : r.listing.value.lists d = false) (cs : List MessageClass) :
    ((r.enroll d cs).unregister d).2 = r := by
  have hremoved : (r.listing.value.addAll d cs).remove d = r.listing.value := by
    rw [Listing.remove_addAll, h.wellFormed.remove_eq_self hd]
  rw [unregister_of_not_poisoned (r := r.enroll d cs) hr]
  exact congrArg (fun l => { r with listing := r.listing.write l }) hremoved

end Registry

/-! ## Registering -/

/-- The ways in which the registration of a dispatcher on a bus ends. -/
inductive Registered (b : Bus ω) (d : DispatcherId) (cs : List MessageClass) (s : State ω) :
    EStateM.Result Panic (State ω) (Except RegistrationError Unit) → Prop where
  | refused {e : RegistrationError} {r : Registry} :
    Registry.Outcome (fun x => b.nameOf x s.outside) d cs s.registry (.ok (.error e) r) →
    Registered b d cs s (.ok (.error e) { s with registry := r })
  /-- The registry broke off. -/
  | broken {p : Panic} {r : Registry} :
    Registry.Outcome (fun x => b.nameOf x s.outside) d cs s.registry (.error p r) →
    Registered b d cs s (.error p { s with registry := r })
  | enrolled {r : Registry} {s' : State ω} :
    Registry.Outcome (fun x => b.nameOf x s.outside) d cs s.registry (.ok (.ok ()) r) →
    Undisturbed { s with registry := r } s' → Registered b d cs s (.ok (.ok ()) s')
  /-- The dispatcher was registered, but the log could not name it. -/
  | unlogged {r : Registry} {p : Panic} :
    Registry.Outcome (fun x => b.nameOf x s.outside) d cs s.registry (.ok (.ok ()) r) →
    b.Unlogged d s p → Registered b d cs s (.error p { s with registry := r.poison })

/-- A registration ends in one of these ways. -/
theorem register_registered (b : Bus ω) (d : DispatcherId) (cs : List MessageClass)
    (s : State ω) : Registered b d cs s (b.register d cs s) := by
  have houtcome := Registry.register_outcome (fun x => b.nameOf x s.outside) d cs s.registry
  rw [register, bind_of_ok (get_eq s)]
  cases hr : Registry.register (fun x => b.nameOf x s.outside) d cs s.registry with
  | error p r =>
      have h : onRegistry (Registry.register (fun x => b.nameOf x s.outside) d cs) s =
          .error p { s with registry := r } := by rw [onRegistry, hr]
      rw [bind_of_error h]
      exact .broken (hr ▸ houtcome)
  | ok answer r =>
      have h : onRegistry (Registry.register (fun x => b.nameOf x s.outside) d cs) s =
          .ok answer { s with registry := r } := by rw [onRegistry, hr]
      rw [bind_of_ok h]
      rw [hr] at houtcome
      cases answer with
      | error e => exact .refused houtcome
      | ok =>
          dsimp only
          rcases b.underLock_traceNamed d .debug "dispatcher registered" []
            { s with registry := r } with ⟨s', hlog, hs'⟩ | ⟨p, hp, hlog⟩
          · rw [bind_of_ok hlog]
            exact .enrolled houtcome hs'
          · rw [bind_of_error hlog]
            exact .unlogged houtcome ⟨hp.traced_eq, hp.nameOf_eq⟩

/-- A registration that succeeds enters the dispatcher, and nobody stood in the way. -/
theorem register_ok {s' : State ω} (h : b.register d cs s = .ok (.ok ()) s') :
    s.registry.listing.poisoned = false ∧ cs ≠ [] ∧ s.registry.obstacle? d cs = none ∧
      s'.registry = s.registry.enroll d cs := by
  have hregistered := register_registered b d cs s
  rw [h] at hregistered
  cases hregistered with
  | enrolled houtcome hs' =>
      cases houtcome with
      | enrolled hcs hwhole hobstacle => exact ⟨hwhole, hcs, hobstacle, hs'.registry_eq⟩

/-- While the lock is whole, a dispatcher is refused just if it advertises nothing or has a rival,
and then nothing changes.  Otherwise it is registered under all its classes, and the others stay
where they are.  Only a panic in place of a name breaks this off. -/
theorem register_settled (b : Bus ω) (d : DispatcherId) (cs : List MessageClass) {s : State ω}
    (hs : s.registry.listing.poisoned = false) :
    let names : DispatcherId → Except Panic String := fun x => b.nameOf x s.outside
    let refused := cs = [] ∨ ∃ c x, s.registry.Rival d cs c x
    (refused →
      (∃ e, b.register d cs s = .ok (.error e) s ∧ s.registry.Refusal names d cs e) ∨
      ∃ p r, b.register d cs s = .error p { s with registry := r } ∧
        s.registry.Unspoken names d cs p r) ∧
    (¬ refused →
      (∃ s', b.register d cs s = .ok (.ok ()) s' ∧ s.registry.Enrolled d cs s'.registry) ∨
      ∃ p r, b.register d cs s = .error p { s with registry := r.poison } ∧ b.Unlogged d s p ∧
        s.registry.Enrolled d cs r) := by
  intro names refused
  have hregistered := register_registered b d cs s
  generalize b.register d cs s = result at hregistered
  -- each way to end belongs to one of the two sides, and the other side is out of the question
  cases hregistered with
  | refused houtcome =>
      cases houtcome with
      | noClasses hcs hn =>
          exact ⟨fun _ => .inl ⟨_, rfl, .noClasses hcs hn⟩, fun h => absurd (.inl hcs) h⟩
      | poisoned _ hp => cases hs.symm.trans hp
      | taken _ _ hobstacle hn =>
          have hrival := Registry.rival_of_obstacle? hs hobstacle
          exact ⟨fun _ => .inl ⟨_, rfl, .alreadyHandled hrival hn⟩,
            fun h => absurd (.inr ⟨_, _, hrival⟩) h⟩
  | broken houtcome =>
      cases houtcome with
      | nameless hcs hn =>
          exact ⟨fun _ => .inr ⟨_, _, rfl, .noClasses hcs hn⟩, fun h => absurd (.inl hcs) h⟩
      | broken _ _ hobstacle hn =>
          have hrival := Registry.rival_of_obstacle? hs hobstacle
          exact ⟨fun _ => .inr ⟨_, _, rfl, .alreadyHandled hrival hn⟩,
            fun h => absurd (.inr ⟨_, _, hrival⟩) h⟩
  | enrolled houtcome hs' =>
      cases houtcome with
      | enrolled hcs _ hobstacle =>
          refine ⟨fun h => absurd h ?_, fun _ => .inl ⟨_, rfl, ?_⟩⟩
          · exact not_or.2 ⟨hcs, Registry.not_rival_of_obstacle? hs hobstacle⟩
          · rw [hs'.registry_eq]
            exact Registry.enrolled_enroll hs d cs
  | unlogged houtcome hp =>
      cases houtcome with
      | enrolled hcs _ hobstacle =>
          refine ⟨fun h => absurd h ?_,
            fun _ => .inr ⟨_, _, rfl, hp, Registry.enrolled_enroll hs d cs⟩⟩
          exact not_or.2 ⟨hcs, Registry.not_rival_of_obstacle? hs hobstacle⟩

/-- A bus for commands whose dispatcher 0 cannot say its name. -/
def desk (traced : Bool) : Bus Unit :=
  { ofFamily .commands .forCommands [] (fun _ _ => pure (.ok ⟨[]⟩))
      (fun d _ => if d = ⟨0⟩ then .error ⟨"name"⟩ else .ok "clerk") with
    traced := traced }

/-- A dispatcher is registered for opening and closing. -/
def deskOf (d : DispatcherId) : State Unit :=
  endState ((desk false).register d [⟨"open"⟩, ⟨"close"⟩])
    { registry := .empty .unicast, outside := () }

theorem reached_deskOf (d : DispatcherId) : Reached .unicast (deskOf d) :=
  .next (.start {} ()) (.register (desk false) d _)

/-- A second dispatcher is refused for one of its two classes.  The first one is registered for
the other class, too, beside one that it holds already. -/
theorem register_settled_deskOf :
    let r := (deskOf ⟨1⟩).registry
    r.listing.poisoned = false ∧
      (desk true).register ⟨2⟩ [⟨"audit"⟩, ⟨"close"⟩] (deskOf ⟨1⟩) =
        .ok (.error (.alreadyHandled ⟨"close"⟩ "clerk")) (deskOf ⟨1⟩) ∧
      r.Refusal (fun x => (desk true).nameOf x ()) ⟨2⟩ [⟨"audit"⟩, ⟨"close"⟩]
        (.alreadyHandled ⟨"close"⟩ "clerk") ∧
      ∃ s, (desk true).register ⟨1⟩ [⟨"close"⟩, ⟨"audit"⟩] (deskOf ⟨1⟩) = .ok (.ok ()) s ∧
        r.Enrolled ⟨1⟩ [⟨"close"⟩, ⟨"audit"⟩] s.registry := by
  intro r
  have hwhole : r.listing.poisoned = false := by decide +kernel
  have hrival : r.Rival ⟨2⟩ [⟨"audit"⟩, ⟨"close"⟩] ⟨"close"⟩ ⟨1⟩ :=
    ⟨rfl, by simp, by decide +kernel, by decide⟩
  have halone : ¬ (([⟨"close"⟩, ⟨"audit"⟩] : List MessageClass) = [] ∨
      ∃ c x, r.Rival ⟨1⟩ [⟨"close"⟩, ⟨"audit"⟩] c x) := by
    have honly : ∀ c ∈ ([⟨"close"⟩, ⟨"audit"⟩] : List MessageClass), ∀ x ∈ r.dispatchersFor c,
        x = ⟨1⟩ := by decide +kernel
    rintro (h | ⟨c, x, hx⟩)
    · cases h
    · exact hx.other (honly c hx.advertised x hx.listed)
  have hanswer : (desk true).register ⟨2⟩ [⟨"audit"⟩, ⟨"close"⟩] (deskOf ⟨1⟩) =
      .ok (.error (.alreadyHandled ⟨"close"⟩ "clerk")) (deskOf ⟨1⟩) := rfl
  refine ⟨hwhole, hanswer, ?_, ?_⟩
  · obtain ⟨e, he, hrefusal⟩ | ⟨p, r', he, -⟩ :=
      (register_settled (desk true) ⟨2⟩ [⟨"audit"⟩, ⟨"close"⟩] hwhole).1 (.inr ⟨_, _, hrival⟩)
    · cases hanswer.symm.trans he
      exact hrefusal
    · cases hanswer.symm.trans he
  · obtain h | ⟨p, s', -, hp, -⟩ :=
      (register_settled (desk true) ⟨1⟩ [⟨"close"⟩, ⟨"audit"⟩] hwhole).2 halone
    · exact h
    · cases hp.nameOf_eq

/-- Where a rival cannot say its name, a dispatcher is not refused. -/
theorem not_refused_by_nameless_rival :
    ¬ ∀ (s : State Unit) (d : DispatcherId) (cs : List MessageClass), Reached .unicast s →
      s.registry.listing.poisoned = false → (∃ c x, s.registry.Rival d cs c x) →
      ∃ e, (desk false).register d cs s = .ok (.error e) s := by
  intro h
  have hrival : (deskOf ⟨0⟩).registry.Rival ⟨2⟩ [⟨"close"⟩] ⟨"close"⟩ ⟨0⟩ :=
    ⟨rfl, by simp, by decide +kernel, by decide⟩
  obtain ⟨e, he⟩ := h _ ⟨2⟩ [⟨"close"⟩] (reached_deskOf ⟨0⟩) (by decide +kernel) ⟨_, _, hrival⟩
  cases he

/-! ## Unregistering -/

/-- The ways in which unregistering a dispatcher on a bus ends. -/
inductive Unregistered (b : Bus ω) (d : DispatcherId) (s : State ω) :
    EStateM.Result Panic (State ω) Bool → Prop where
  | skipped {s' : State ω} :
    s.Poisoned → Undisturbed s s' → Unregistered b d s (.ok false s')
  /-- It was skipped, but the log could not name the dispatcher. -/
  | breaksOff {p : Panic} : s.Poisoned → b.Unlogged d s p → Unregistered b d s (.error p s)
  | absent :
    s.registry.listing.poisoned = false → s.registry.listing.value.lists d = false →
    Unregistered b d s (.ok false { s with registry := (s.registry.unregister d).2 })
  | removed {s' : State ω} :
    s.registry.listing.poisoned = false → s.registry.listing.value.lists d = true →
    Undisturbed { s with registry := (s.registry.unregister d).2 } s' →
    Unregistered b d s (.ok true s')
  /-- The dispatcher was removed, but the log could not name it. -/
  | unlogged {p : Panic} :
    s.registry.listing.poisoned = false → s.registry.listing.value.lists d = true →
    b.Unlogged d s p →
    Unregistered b d s (.error p { s with registry := (s.registry.unregister d).2.poison })

/-- Unregistering ends in one of these ways. -/
theorem unregister_unregistered (b : Bus ω) (d : DispatcherId) (s : State ω) :
    Unregistered b d s (b.unregister d s) := by
  rw [unregister, bind_of_ok (get_eq s)]
  cases hs : s.registry.listing.poisoned with
  | true =>
      rw [if_pos rfl]
      rcases b.traceNamed_undisturbed d .warn "registry lock poisoned; unregister skipped" [] s with
        ⟨s', hlog, hs'⟩ | ⟨p, ht, hn, hlog⟩
      · rw [bind_of_ok hlog]
        exact .skipped hs hs'
      · rw [bind_of_error hlog]
        exact .breaksOff hs ⟨ht, hn⟩
  | false =>
      have hremove : onRegistry (fun r => .ok (r.unregister d).1 (r.unregister d).2) s =
          .ok (s.registry.listing.value.lists d)
            { s with registry := (s.registry.unregister d).2 } := by
        simp only [onRegistry, Registry.unregister_of_not_poisoned hs]
      rw [if_neg Bool.false_ne_true, bind_of_ok hremove]
      cases hd : s.registry.listing.value.lists d with
      | false => exact .absent hs hd
      | true =>
          rw [if_pos rfl]
          rcases b.underLock_traceNamed d .debug "dispatcher unregistered" []
            { s with registry := (s.registry.unregister d).2 } with ⟨s', hlog, hs'⟩ | ⟨p, hp, hlog⟩
          · rw [bind_of_ok hlog]
            exact .removed hs hd hs'
          · rw [bind_of_error hlog]
            exact .unlogged hs hd ⟨hp.traced_eq, hp.nameOf_eq⟩

/-- To unregister a dispatcher that is not listed changes nothing. -/
theorem unregister_unlisted (hs : s.registry.Sound) (hd : ∀ c, d ∉ s.registry.dispatchersFor c)
    (b : Bus ω) :
    (∃ s', b.unregister d s = .ok false s' ∧ Undisturbed s s') ∨
    ∃ p, b.unregister d s = .error p s ∧ b.Unlogged d s p ∧ s.Poisoned := by
  have hunregistered := unregister_unregistered b d s
  generalize b.unregister d s = result at hunregistered
  cases hunregistered with
  | skipped _ hs' => exact .inl ⟨_, rfl, hs'⟩
  | breaksOff hp hlog => exact .inr ⟨_, rfl, hlog, hp⟩
  | absent _ hlists =>
      rw [hs.unregister_eq_self hlists]
      exact .inl ⟨_, rfl, .refl s⟩
  | removed hr hlists =>
      obtain ⟨c, hc⟩ := (hs.lists_iff hr).1 hlists
      exact absurd hc (hd c)
  | unlogged hr hlists =>
      obtain ⟨c, hc⟩ := (hs.lists_iff hr).1 hlists
      exact absurd hc (hd c)

/-- To unregister a dispatcher that was registered when it was not listed restores the registry. -/
theorem unregister_registered (hs : s.registry.Sound) (hd : ∀ c, d ∉ s.registry.dispatchersFor c)
    {s₁ : State ω} (h : b.register d cs s = .ok (.ok ()) s₁) (b' : Bus ω) :
    (∃ s₂, b'.unregister d s₁ = .ok true s₂ ∧ s₂.registry = s.registry) ∨
    ∃ p s₂, b'.unregister d s₁ = .error p s₂ ∧ b'.Unlogged d s₁ p ∧
      s₂.registry = s.registry.poison := by
  obtain ⟨hwhole, hcs, hobstacle, henrolled⟩ := register_ok h
  have hwhole₁ : s₁.registry.listing.poisoned = false := by rwa [henrolled]
  have hrestored : (s₁.registry.unregister d).2 = s.registry := by
    rw [henrolled]
    refine hs.unregister_enroll hwhole (Bool.eq_false_iff.2 fun hlists => ?_) cs
    obtain ⟨c, hc⟩ := (hs.lists_iff hwhole).1 hlists
    exact hd c hc
  have hlisted : s₁.registry.listing.value.lists d = true := by
    obtain ⟨c, hc⟩ := List.exists_mem_of_ne_nil cs hcs
    have hs₁ : s₁.registry.Sound := henrolled ▸ hs.enroll hobstacle
    refine (hs₁.lists_iff hwhole₁).2 ⟨c, ?_⟩
    rw [henrolled]
    exact (Registry.enrolled_enroll hwhole d cs).listed c hc
  have hunregistered := unregister_unregistered b' d s₁
  generalize b'.unregister d s₁ = result at hunregistered
  cases hunregistered with
  | skipped hp => cases hwhole₁.symm.trans hp
  | breaksOff hp => cases hwhole₁.symm.trans hp
  | absent _ hlists => cases hlists.symm.trans hlisted
  | removed _ _ hs₂ => exact .inl ⟨_, rfl, hs₂.registry_eq.trans hrestored⟩
  | unlogged _ _ hlog => exact .inr ⟨_, _, rfl, hlog, congrArg Registry.poison hrestored⟩

/-- Whatever user code did before, to unregister a dispatcher says whether it was listed.  It
takes the dispatcher out of every class and leaves the others where they are, and there is
nothing left to do for a second time.  So it restores the registry as it was before a dispatcher
that was not listed was registered.  Only a panic in place of a name in the log breaks this off.
It comes after the removal, and poisons the lock. -/
theorem unregister_settled {mode : Mode} {s : State ω} (hs : Reached mode s) (b b' : Bus ω)
    (d : DispatcherId) :
    (∀ cs s₁, (∀ c, d ∉ s.registry.dispatchersFor c) → b.register d cs s = .ok (.ok ()) s₁ →
      (∃ s₂, b'.unregister d s₁ = .ok true s₂ ∧ s₂.registry = s.registry) ∨
      ∃ p s₂, b'.unregister d s₁ = .error p s₂ ∧ b'.Unlogged d s₁ p ∧
        s₂.registry = s.registry.poison) ∧
    ((∃ removed s₁, b.unregister d s = .ok removed s₁ ∧
        s.registry.Dismissed d removed s₁.registry ∧
        ((∃ s₂, b'.unregister d s₁ = .ok false s₂ ∧ Undisturbed s₁ s₂) ∨
          ∃ p, b'.unregister d s₁ = .error p s₁ ∧ b'.Unlogged d s₁ p ∧ s₁.Poisoned)) ∨
      ∃ p s₁, b.unregister d s = .error p s₁ ∧ b.Unlogged d s p ∧
        (s.Poisoned ∧ s₁ = s ∨
          ∃ r, s.registry.Dismissed d true r ∧ s₁.registry = r.poison)) := by
  have hsound := hs.sound.1
  refine ⟨fun cs s₁ hd h => unregister_registered hsound hd h b', ?_⟩
  -- nobody is left to be removed for a second time
  have hagain {s₁ : State ω} (h₁ : s₁.registry = (s.registry.unregister d).2) :
      (∃ s₂, b'.unregister d s₁ = .ok false s₂ ∧ Undisturbed s₁ s₂) ∨
      ∃ p, b'.unregister d s₁ = .error p s₁ ∧ b'.Unlogged d s₁ p ∧ s₁.Poisoned := by
    refine unregister_unlisted (h₁ ▸ hsound.unregister d) (fun c hc => ?_) b'
    rw [h₁, hsound.dispatchersFor_unregister] at hc
    simp at hc
  have hunregistered := unregister_unregistered b d s
  generalize b.unregister d s = result at hunregistered
  cases hunregistered with
  | skipped hp hs₁ =>
      have hsame : (s.registry.unregister d).2 = s.registry := by
        rw [Registry.unregister_of_poisoned hp]
      have hnobody (c : MessageClass) : d ∉ s.registry.dispatchersFor c := by
        simp [Registry.dispatchersFor_of_poisoned hp]
      have h₁ := hs₁.registry_eq.trans hsame.symm
      refine .inl ⟨_, _, rfl, ?_, hagain h₁⟩
      rw [h₁]
      exact hsound.dismissed (iff_of_false nofun fun ⟨c, hc⟩ => hnobody c hc)
  | breaksOff hp hlog => exact .inr ⟨_, _, rfl, hlog, .inl ⟨hp, rfl⟩⟩
  | absent hr hlists =>
      have hnobody : ¬ ∃ c, d ∈ s.registry.dispatchersFor c := by
        rw [← hsound.lists_iff hr, hlists]
        exact Bool.false_ne_true
      exact .inl ⟨_, _, rfl, hsound.dismissed (iff_of_false nofun hnobody), hagain rfl⟩
  | removed hr hlists hs₁ =>
      have h₁ := hs₁.registry_eq
      refine .inl ⟨_, _, rfl, ?_, hagain h₁⟩
      rw [h₁]
      exact hsound.dismissed (iff_of_true rfl ((hsound.lists_iff hr).1 hlists))
  | unlogged hr hlists hlog =>
      have hlisted := (hsound.lists_iff hr).1 hlists
      exact .inr ⟨_, _, rfl, hlog, .inr ⟨_, hsound.dismissed (iff_of_true rfl hlisted), rfl⟩⟩

/-- A dispatcher is registered for a class that nobody has and unregistered again.  Then the one
that has two classes is unregistered, too, twice. -/
theorem unregister_settled_deskOf :
    Reached .unicast (deskOf ⟨1⟩) ∧
      (∃ s₁ s₂, (desk true).register ⟨2⟩ [⟨"audit"⟩] (deskOf ⟨1⟩) = .ok (.ok ()) s₁ ∧
        (desk true).unregister ⟨2⟩ s₁ = .ok true s₂ ∧ s₂.registry = (deskOf ⟨1⟩).registry) ∧
      ∃ s₁ s₂, (desk true).unregister ⟨1⟩ (deskOf ⟨1⟩) = .ok true s₁ ∧
        (deskOf ⟨1⟩).registry.Dismissed ⟨1⟩ true s₁.registry ∧
        (desk true).unregister ⟨1⟩ s₁ = .ok false s₂ ∧ Undisturbed s₁ s₂ := by
  have hreached := reached_deskOf ⟨1⟩
  refine ⟨hreached, ?_, ?_⟩
  · have hnew (c : MessageClass) : ⟨2⟩ ∉ (deskOf ⟨1⟩).registry.dispatchersFor c := fun hc =>
      absurd ((hreached.sound.1.lists_iff (by decide +kernel)).2 ⟨c, hc⟩) (by decide +kernel)
    obtain ⟨s₂, h, hs₂⟩ | ⟨p, s₂, -, hp, -⟩ :=
      (unregister_settled hreached (desk true) (desk true) ⟨2⟩).1 [⟨"audit"⟩] _ hnew rfl
    · exact ⟨_, s₂, rfl, h, hs₂⟩
    · cases hp.nameOf_eq
  · obtain ⟨removed, s₁, h, hdismissed, hagain⟩ | ⟨p, s₁, -, hp, -⟩ :=
      (unregister_settled hreached (desk true) (desk true) ⟨1⟩).2
    · obtain rfl : removed = true := hdismissed.removed_iff.2 ⟨⟨"open"⟩, by decide +kernel⟩
      obtain ⟨s₂, h', hs₂⟩ | ⟨p, -, hp, -⟩ := hagain
      · exact ⟨s₁, s₂, h, hdismissed, h', hs₂⟩
      · cases hp.nameOf_eq
    · cases hp.nameOf_eq

/-- A dispatcher that is listed is not removed with success if the log cannot name it. -/
theorem not_unregistered_if_unlogged :
    ¬ ∀ (s : State Unit) (d : DispatcherId), Reached .unicast s →
      (∃ c, d ∈ s.registry.dispatchersFor c) →
      ∃ s', (desk true).unregister d s = .ok true s' := by
  intro h
  obtain ⟨s', hs'⟩ := h _ ⟨0⟩ (reached_deskOf ⟨0⟩) ⟨⟨"open"⟩, by decide +kernel⟩
  cases hs'

end Switchboard.Bus
