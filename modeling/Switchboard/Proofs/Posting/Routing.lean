import Switchboard.Proofs.Posting.Invocations
import Switchboard.Proofs.Posting.Reentry

/-!
# Routing while the registry changes

A handler may register and unregister dispatchers on the bus that calls it, and it may close
that bus.  The registry then changes between two deliveries, and in the middle of one.

A delivery asks the registry once, when it begins.  It then goes through the dispatchers that
were listed (`Round`), in order, whatever becomes of the registry meanwhile.  The next envelope
finds the registry as the handlers left it (`Routed`).  Between the handlers the bus itself
changes nothing that a delivery depends on (`Undisturbed`).

Both relations hold of a delivery whatever the handlers do (`deliverToAll_round`,
`deliverEach_routed`), and they follow the recursions that deliver.  What was dispatched can be
read off them if handlers post nothing (`Routed.dispatches_eq`).
-/

namespace Switchboard.Bus

variable {ω : Type}

open Act

/-! ## States that deliveries cannot tell apart -/

/-- Two states with the same registry and store in which user code keeps the same, and between
which no envelope was made and nothing was dispatched. -/
structure Undisturbed (s s' : State ω) : Prop where
  registry_eq : s'.registry = s.registry
  store_eq : s'.store = s.store
  made_eq : s'.made = s.made
  outside_eq : s'.outside = s.outside
  dispatches_eq : dispatches s'.journal = dispatches s.journal

namespace Undisturbed

theorem refl (s : State ω) : Undisturbed s s := ⟨rfl, rfl, rfl, rfl, rfl⟩

theorem trans {s s₁ s₂ : State ω} (h : Undisturbed s s₁) (h' : Undisturbed s₁ s₂) :
    Undisturbed s s₂ where
  registry_eq := h'.registry_eq.trans h.registry_eq
  store_eq := h'.store_eq.trans h.store_eq
  made_eq := h'.made_eq.trans h.made_eq
  outside_eq := h'.outside_eq.trans h.outside_eq
  dispatches_eq := h'.dispatches_eq.trans h.dispatches_eq

theorem extend {es : List Entry} (h : dispatches es = []) (s : State ω) (ls : List LogEntry) :
    Undisturbed s (s.extend es ls s.outside) where
  registry_eq := rfl
  store_eq := rfl
  made_eq := rfl
  outside_eq := rfl
  dispatches_eq := by rw [State.journal_extend, dispatches_append, h, List.append_nil]

theorem holding (s : State ω) (ds : List DispatcherId) : Undisturbed s (s.holding ds) :=
  ⟨rfl, rfl, rfl, rfl, rfl⟩

end Undisturbed

/-- A result without the answer. -/
def unanswered {α : Type} : EStateM.Result Panic (State ω) α → EStateM.Result Panic (State ω) Unit
  | .ok _ s => .ok () s
  | .error p s => .error p s

/-- The state that a result leaves. -/
def finalState {α : Type} : EStateM.Result Panic (State ω) α → State ω
  | .ok _ s | .error _ s => s

theorem finalState_eq {α : Type} (x : Act ω α) (s : State ω) : finalState (x s) = endState x s := by
  rw [endState]
  cases x s with
  | ok a s' => rfl
  | error p s' => rfl

theorem unanswered_bind_pure {α β : Type} (x : Act ω α) (f : α → β) (s : State ω) :
    unanswered ((x >>= fun a => pure (f a)) s) = unanswered (x s) := by
  cases hr : x s with
  | ok a s' =>
      rw [bind_of_ok hr]
      rfl
  | error p s' =>
      rw [bind_of_error hr]
      rfl

variable {b : Bus ω} {e : Envelope} {d : DispatcherId} {s : State ω}

/-- To name a dispatcher in the log disturbs nothing, and breaks off only where the dispatcher
cannot be asked for its name. -/
theorem traceNamed_undisturbed (b : Bus ω) (d : DispatcherId) (level : Level) (message : String)
    (fields : List (String × LogValue)) (s : State ω) :
    (∃ s', b.traceNamed d level message fields s = .ok () s' ∧ Undisturbed s s') ∨
    ∃ p, b.traced = true ∧ b.nameOf d s.outside = .error p ∧
      b.traceNamed d level message fields s = .error p s := by
  rw [traceNamed]
  cases b.traced with
  | false => exact .inl ⟨s, rfl, .refl s⟩
  | true =>
      rw [if_pos rfl]
      cases hn : b.nameOf d s.outside with
      | error p =>
          exact .inr ⟨p, rfl, rfl, bind_of_error (name_of_error hn)⟩
      | ok n =>
          exact .inl ⟨_, (bind_of_ok (name_of_ok hn)).trans (report_eq _ s), .extend rfl s _⟩

/-- What was dispatched so far outlasts all that posts nothing. -/
theorem steady_dispatches (js : List (DispatcherId × Envelope)) :
    Steady (fun _ => True) fun s : State ω => dispatches s.journal = js where
  frame := fun hs _ _ hj => hj ▸ hs
  note := fun _ he hs => (dispatches_concat he _).trans hs
  register := fun _ _ _ hs => hs
  unregister := fun _ hs => hs
  clear := fun hs => hs
  poison := fun hs => hs

/-! ## One dispatcher -/

/-- The ways in which handing an envelope to a dispatcher ends. -/
inductive Handed (b : Bus ω) (e : Envelope) (d : DispatcherId) (s : State ω) :
    EStateM.Result Panic (State ω) Unit → Prop where
  | answered {answer : Except DispatchError Targets} {s₁ s' : State ω} :
    b.invoke d e s = .ok answer s₁ → Undisturbed s₁ s' → Handed b e d s (.ok () s')
  /-- The handler broke off. -/
  | broken {p : Panic} {s' : State ω} :
    b.invoke d e s = .error p s' → Handed b e d s (.error p s')
  /-- The handler answered, but the dispatcher could not be asked for its name. -/
  | unnamed {answer : Except DispatchError Targets} {p : Panic} {s₁ s' : State ω} :
    b.invoke d e s = .ok answer s₁ → b.nameOf d s₁.outside = .error p → Undisturbed s₁ s' →
    Handed b e d s (.error p s')

/-- Handing an envelope to a dispatcher ends in one of these ways. -/
theorem deliverTo_handed (b : Bus ω) (o : ObserverId) (e : Envelope) (d : DispatcherId)
    (s : State ω) : Handed b e d s (unanswered (b.deliverTo o e d s)) := by
  rw [deliverTo]
  cases hi : b.invoke d e s with
  | error p s' =>
      rw [bind_of_error hi]
      exact .broken hi
  | ok answer s₁ =>
      rw [bind_of_ok hi]
      cases answer with
      | ok targets =>
          dsimp only
          rcases b.traceNamed_undisturbed d _ _ _ s₁ with ⟨s₂, ht, hs₂⟩ | ⟨p, -, hn, ht⟩
          · rw [bind_of_ok ht]
            exact .answered hi hs₂
          · rw [bind_of_error ht]
            exact .unnamed hi hn (.refl s₁)
      | error reason =>
          dsimp only
          rcases b.traceNamed_undisturbed d _ _ _ s₁ with ⟨s₂, ht, hs₂⟩ | ⟨p, -, hn, ht⟩
          · rw [bind_of_ok ht, bind_of_ok (note_eq _ s₂)]
            have hs₃ : Undisturbed s₁ (s₂.extend [.notified d e reason] [] s₂.outside) :=
              hs₂.trans (.extend rfl s₂ [])
            generalize s₂.extend _ _ _ = s₃ at hs₃ ⊢
            cases hn : b.nameOf d s₃.outside with
            | error p =>
                rw [bind_of_error (name_of_error hn)]
                exact .unnamed hi (hs₃.outside_eq ▸ hn) hs₃
            | ok n =>
                rw [bind_of_ok (name_of_ok hn), bind_of_ok (acknowledge_eq o _ s₃)]
                exact .answered hi (hs₃.trans (.extend rfl s₃ []))
          · rw [bind_of_error ht]
            exact .unnamed hi hn (.refl s₁)

/-! ## One envelope -/

/-- An envelope goes through listed dispatchers, in order.  It has reached some of them when
this is over, or is broken off by the last that it reached. -/
inductive Round (b : Bus ω) (e : Envelope) : List DispatcherId → List DispatcherId → State ω →
    EStateM.Result Panic (State ω) Unit → Prop where
  | done {s s' : State ω} : Undisturbed s s' → Round b e [] [] s (.ok () s')
  | turn {d : DispatcherId} {ds reached : List DispatcherId} {s s₁ s₂ : State ω}
      {r : EStateM.Result Panic (State ω) Unit} :
    Undisturbed s s₁ → Handed b e d s₁ (.ok () s₂) → Round b e ds reached s₂ r →
    Round b e (d :: ds) (d :: reached) s r
  | broken {d : DispatcherId} {ds : List DispatcherId} {s s₁ s' : State ω} {p : Panic} :
    Undisturbed s s₁ → Handed b e d s₁ (.error p s') → Round b e (d :: ds) [d] s (.error p s')

namespace Round

variable {ds reached : List DispatcherId} {s₀ : State ω} {r : EStateM.Result Panic (State ω) Unit}

theorem after (h : Undisturbed s₀ s) (hr : Round b e ds reached s r) :
    Round b e ds reached s₀ r := by
  cases hr with
  | done hs => exact .done (h.trans hs)
  | turn hs hd hr => exact .turn (h.trans hs) hd hr
  | broken hs hd => exact .broken (h.trans hs) hd

/-- A round that is not broken off reaches every listed dispatcher. -/
theorem reached_eq {s' : State ω} (hr : Round b e ds reached s (.ok () s')) : reached = ds := by
  generalize hres : EStateM.Result.ok () s' = r at hr
  induction hr with
  | done => rfl
  | turn _ _ _ ih => rw [ih hres]
  | broken => cases hres

end Round

/-- However a delivery to some dispatchers ends, it went through them. -/
theorem deliverToAll_round (b : Bus ω) (o : ObserverId) (e : Envelope) (ds : List DispatcherId)
    (s : State ω) : ∃ reached, Round b e ds reached s (unanswered (b.deliverToAll o e ds s)) := by
  induction ds generalizing s with
  | nil => exact ⟨[], .done (.refl s)⟩
  | cons d ds ih =>
      have hd := b.deliverTo_handed o e d s
      rw [deliverToAll]
      cases hr : b.deliverTo o e d s with
      | error p s' =>
          rw [hr] at hd
          rw [bind_of_error hr]
          exact ⟨[d], .broken (.refl s) hd⟩
      | ok n s₁ =>
          rw [hr] at hd
          have hlet : letGo s₁ = .ok () (s₁.holding s₁.inFlight.tail) := rfl
          have hs₁ : Undisturbed s₁ (s₁.holding s₁.inFlight.tail) := .holding s₁ _
          rw [bind_of_ok hr, bind_of_ok hlet]
          obtain ⟨reached, hround⟩ := ih (s₁.holding s₁.inFlight.tail)
          refine ⟨d :: reached, .turn (.refl s) hd (.after hs₁ ?_)⟩
          rwa [unanswered_bind_pure]

/-- However a delivery ends, it went through the dispatchers that were listed when it began. -/
theorem deliver_round (b : Bus ω) (o : ObserverId) (e : Envelope) (s : State ω) :
    ∃ reached, Round b e (s.registry.dispatchersFor e.messageClass) reached s
      (unanswered (b.deliver o e s)) := by
  rw [deliver, bind_of_ok (lookup_eq b _ s)]
  have hs₁ : Undisturbed s (s.extend []
      (b.logged (lookupLogs s.registry.listing.poisoned e.messageClass)) s.outside) :=
    .extend rfl s _
  generalize s.extend _ _ _ = s₁ at hs₁ ⊢
  cases s.registry.dispatchersFor e.messageClass with
  | nil =>
      have hbury := bury_eq b o e s₁
      rw [List.isEmpty_nil, if_pos rfl, hbury]
      refine ⟨[], .done (hs₁.trans (.extend ?_ s₁ _))⟩
      rw [dispatches_append, dispatches_when rfl, dispatches_acknowledged]
      rfl
  | cons d ds =>
      rw [List.isEmpty_cons, if_neg Bool.false_ne_true, bind_of_ok (hold_eq (d :: ds) s₁)]
      obtain ⟨reached, hround⟩ :=
        b.deliverToAll_round o e (d :: ds) (s₁.holding (d :: ds ++ s₁.inFlight))
      exact ⟨reached, hround.after (hs₁.trans (.holding s₁ _))⟩

/-! ## One batch -/

/-- Envelopes go, one after the other, through the dispatchers that are listed for their class
when their turn comes, each of them once.  What is dispatched are the envelopes with those that
they reached. -/
inductive Routed (b : Bus ω) : List Envelope → List (DispatcherId × Envelope) → State ω →
    EStateM.Result Panic (State ω) Unit → Prop where
  | done {s s' : State ω} : Undisturbed s s' → Routed b [] [] s (.ok () s')
  | next {e : Envelope} {es : List Envelope} {ds : List DispatcherId}
      {ps : List (DispatcherId × Envelope)} {s s₁ s₂ : State ω}
      {r : EStateM.Result Panic (State ω) Unit} :
    Undisturbed s s₁ → s₁.registry.dispatchersFor e.messageClass = ds → ds.Nodup →
    Round b e ds ds s₁ (.ok () s₂) → Routed b es ps s₂ r →
    Routed b (e :: es) (ds.map (fun d => (d, e)) ++ ps) s r
  /-- The round of an envelope was broken off, and the others have none. -/
  | broken {e : Envelope} {es : List Envelope} {ds reached : List DispatcherId}
      {s s₁ s' : State ω} {p : Panic} :
    Undisturbed s s₁ → s₁.registry.dispatchersFor e.messageClass = ds → ds.Nodup →
    Round b e ds reached s₁ (.error p s') →
    Routed b (e :: es) (reached.map fun d => (d, e)) s (.error p s')

section

variable {es : List Envelope} {ps : List (DispatcherId × Envelope)}
  {r : EStateM.Result Panic (State ω) Unit}

theorem Routed.after {s₀ : State ω} (h : Undisturbed s₀ s) (hr : Routed b es ps s r) :
    Routed b es ps s₀ r := by
  cases hr with
  | done hs => exact .done (h.trans hs)
  | next hs hd hn hround hr => exact .next (h.trans hs) hd hn hround hr
  | broken hs hd hn hround => exact .broken (h.trans hs) hd hn hround

/-- What follows a delivery may disturb nothing, and then it makes no difference. -/
theorem Routed.before {s₁ s₂ : State ω} (hr : Routed b es ps s (.ok () s₁))
    (h : Undisturbed s₁ s₂) : Routed b es ps s (.ok () s₂) := by
  generalize hres : EStateM.Result.ok () s₁ = r at hr
  induction hr with
  | done hs =>
      cases hres
      exact .done (hs.trans h)
  | next hs hd hn hround _ ih => exact .next hs hd hn hround (ih hres)
  | broken => cases hres

end

section

variable {mode : Mode} (hb : ∀ d e, Arranging (b.handle d e))
include hb

/-- However the delivery of some envelopes ends, it went the way that the registry said at each
envelope. -/
theorem deliverEach_routed (o : ObserverId) (es : List Envelope) {s : State ω}
    (hs : s.registry.Sound ∧ s.registry.mode = mode) :
    ∃ ps, Routed b es ps s (unanswered (b.deliverEach o es s)) := by
  induction es generalizing s with
  | nil => exact ⟨[], .done (.refl s)⟩
  | cons e es ih =>
      have hnodup := hs.1.nodup_dispatchersFor e.messageClass
      have hsound := (lasting_sound (fun _ => True) mode).keeps_deliver
        (fun d e => (hb d e).keeps (lasting_sound _ mode).toSteady) (o := o) trivial e s hs
      obtain ⟨reached, hround⟩ := b.deliver_round o e s
      rw [deliverEach]
      cases hr : b.deliver o e s with
      | error p s' =>
          rw [bind_of_error hr]
          exact ⟨_, .broken (.refl s) rfl hnodup (hr ▸ hround)⟩
      | ok n s₁ =>
          rw [hr] at hround
          obtain rfl := hround.reached_eq
          rw [endState_of_ok hr] at hsound
          rw [bind_of_ok hr]
          -- an acknowledgment makes no difference to the next envelope
          by_cases hn : n = 0
          · let s₂ := s₁.extend [.acknowledged o (.next e.message)] [] s₁.outside
            have hs₂ : Undisturbed s₁ s₂ := .extend rfl s₁ []
            obtain ⟨ps, hrouted⟩ := ih (hs₂.registry_eq.symm ▸ hsound)
            rw [if_pos hn, bind_of_ok (acknowledge_eq o _ s₁), unanswered_bind_pure]
            exact ⟨_, .next (.refl s) rfl hnodup hround (hrouted.after hs₂)⟩
          · obtain ⟨ps, hrouted⟩ := ih hsound
            rw [if_neg hn, unanswered_bind_pure]
            exact ⟨_, .next (.refl s) rfl hnodup hround hrouted⟩

/-! ## What was dispatched -/

theorem dispatches_invoke (d : DispatcherId) (e : Envelope) (s : State ω) :
    dispatches (finalState (b.invoke d e s)).journal = dispatches s.journal ++ [(d, e)] := by
  have hkeeps := (hb d e).keeps (steady_dispatches (dispatches s.journal ++ [(d, e)]))
  have hdispatched : dispatches (s.extend [.dispatched d e] [] s.outside).journal =
      dispatches s.journal ++ [(d, e)] := dispatches_append _ _
  rw [invoke, bind_of_ok (note_eq _ s), finalState_eq]
  exact hkeeps _ hdispatched

variable {r : EStateM.Result Panic (State ω) Unit}

theorem Handed.dispatches_eq (h : Handed b e d s r) :
    dispatches (finalState r).journal = dispatches s.journal ++ [(d, e)] := by
  have hinvoke := dispatches_invoke hb d e s
  cases h with
  | answered hi hs =>
      rw [hi] at hinvoke
      exact hs.dispatches_eq.trans hinvoke
  | broken hi =>
      rw [hi] at hinvoke
      exact hinvoke
  | unnamed hi _ hs =>
      rw [hi] at hinvoke
      exact hs.dispatches_eq.trans hinvoke

theorem Round.dispatches_eq {ds reached : List DispatcherId} (h : Round b e ds reached s r) :
    dispatches (finalState r).journal = dispatches s.journal ++ reached.map fun d => (d, e) := by
  induction h with
  | done hs => exact hs.dispatches_eq.trans (List.append_nil _).symm
  | turn hs hd _ ih =>
      have hd := hd.dispatches_eq hb
      rw [ih, List.map_cons, ← List.singleton_append, ← List.append_assoc, ← hs.dispatches_eq]
      exact congrArg (· ++ _) hd
  | broken hs hd =>
      rw [← hs.dispatches_eq]
      exact hd.dispatches_eq hb

theorem Routed.dispatches_eq {es : List Envelope} {ps : List (DispatcherId × Envelope)}
    (h : Routed b es ps s r) : dispatches (finalState r).journal = dispatches s.journal ++ ps := by
  induction h with
  | done hs => exact hs.dispatches_eq.trans (List.append_nil _).symm
  | next hs _ _ hround _ ih =>
      have hround := hround.dispatches_eq hb
      rw [ih, ← List.append_assoc, ← hs.dispatches_eq]
      exact congrArg (· ++ _) hround
  | broken hs _ _ hround =>
      rw [← hs.dispatches_eq]
      exact hround.dispatches_eq hb

end

/-! ## Posting -/

theorem conclude_undisturbed (b : Bus ω) (o : ObserverId) (messages errors : Nat) (s : State ω) :
    ∃ s', b.conclude o messages errors s = .ok () s' ∧ Undisturbed s s' := by
  rw [conclude, bind_of_ok (noteWhen_eq _ _ s), trace_eq, State.extend_extend]
  refine ⟨_, rfl, .extend ?_ s _⟩
  rw [List.append_nil]
  exact dispatches_when rfl _

/-- Posting filters a batch, stores and delivers what is admitted, and concludes. -/
theorem postAll_stages (b : Bus ω) (o : ObserverId) (batch : List Message) (s : State ω) :
    ∃ s₁, Undisturbed { s with outside := (thread (judgement b.sieves) batch s.outside).2 } s₁ ∧
      ((∃ n s₂ s', b.dispatchBatch o (b.admitted batch s.outside) s₁ = .ok n s₂ ∧
          b.postAll o batch s = .ok () s' ∧ Undisturbed s₂ s') ∨
        ∃ p s', b.dispatchBatch o (b.admitted batch s.outside) s₁ = .error p s' ∧
          b.postAll o batch s = .error p s') := by
  rw [postAll, bind_of_ok (sift_eq b o batch s), admitted]
  dsimp only
  generalize thread (judgement b.sieves) batch s.outside = judged
  refine ⟨_, .extend (dispatches_judgements o judged.1) { s with outside := judged.2 }
    (b.logged (judged.1.flatMap Judgement.logs)), ?_⟩
  generalize hs₁ : State.extend _ _ _ _ = s₁
  change s.extend _ _ judged.2 = s₁ at hs₁
  rw [hs₁]
  cases hr : b.dispatchBatch o (accepted judged.1) s₁ with
  | error p s' => exact .inr ⟨p, s', rfl, bind_of_error hr⟩
  | ok n s₂ =>
      obtain ⟨s', hconclude, hs'⟩ := b.conclude_undisturbed o batch.length
        ((rejections judged.1).length + n) s₂
      exact .inl ⟨n, s₂, s', rfl, (bind_of_ok hr).trans hconclude, hs'⟩

/-- Messages that the store did not take are not dispatched. -/
theorem dispatches_unstored (b : Bus ω) (o : ObserverId) {ms : List Message} {s : State ω}
    (h : ms = [] ∨ ∀ st, b.storage.offer ms s.store ≠ .ok (.ok ()) st) :
    dispatches (finalState (b.dispatchBatch o ms s)).journal = dispatches s.journal := by
  cases hms : ms.isEmpty with
  | true =>
      rw [dispatchBatch, hms, if_pos rfl]
      rfl
  | false =>
      rw [dispatchBatch, hms, if_neg Bool.false_ne_true]
      cases hoffer : b.storage.offer ms s.store with
      | error p st =>
          rw [bind_of_error (b.offer_of_error hms hoffer)]
          refine (dispatches_append _ _).trans ?_
          rw [dispatches_offerEntries]
          exact List.append_nil _
      | ok answer st =>
          rw [bind_of_ok (b.offer_of_ok hms hoffer)]
          cases answer with
          | ok =>
              have hne := h.resolve_left (fun h => by simp [h] at hms)
              exact absurd hoffer (hne st)
          | error e =>
              dsimp only
              rw [bind_of_ok (trace_eq b _ _ _ _), bind_of_ok (acknowledgeUnstored_eq o e ms _),
                State.extend_extend, State.extend_extend]
              refine (dispatches_append _ _).trans ?_
              rw [dispatches_append, dispatches_append, dispatches_acknowledged,
                dispatches_offerEntries]
              exact List.append_nil _

/-- A batch that the store did not take is not dispatched. -/
theorem dispatches_postAll_unstored (b : Bus ω) (o : ObserverId) {batch : List Message}
    {s : State ω}
    (h : b.admitted batch s.outside = [] ∨
      ∀ st, b.storage.offer (b.admitted batch s.outside) s.store ≠ .ok (.ok ()) st) :
    dispatches (endState (b.postAll o batch) s).journal = dispatches s.journal := by
  obtain ⟨s₁, hs₁, hstages⟩ := b.postAll_stages o batch s
  have hnone := b.dispatches_unstored o (s := s₁) (hs₁.store_eq.symm ▸ h)
  rw [← finalState_eq]
  rcases hstages with ⟨n, s₂, s', hr, hpost, hs'⟩ | ⟨p, s', hr, hpost⟩
  · rw [hr] at hnone
    rw [hpost]
    exact hs'.dispatches_eq.trans (hnone.trans hs₁.dispatches_eq)
  · rw [hr] at hnone
    rw [hpost]
    exact hnone.trans hs₁.dispatches_eq

section

variable {mode : Mode} (hb : ∀ d e, Arranging (b.handle d e))
include hb

/-- Messages that the store took are routed. -/
theorem dispatchBatch_routed (o : ObserverId) {ms : List Message} {s : State ω} {st : MessageStore}
    (hms : ms.isEmpty = false) (hoffer : b.storage.offer ms s.store = .ok (.ok ()) st)
    (hs : s.registry.Sound ∧ s.registry.mode = mode) :
    ∃ ps, Routed b (b.envelopes s.made.length ms) ps
      ((s.storing st).making (b.envelopes s.made.length ms))
      (unanswered (b.dispatchBatch o ms s)) := by
  let es := b.envelopes s.made.length ms
  let s₁ := (s.storing st).making es
  obtain ⟨ps, hrouted⟩ := deliverEach_routed hb o es
    (s := s₁.extend (b.offerEntries ms) [] s.outside) hs
  rw [dispatchBatch, hms, if_neg Bool.false_ne_true, bind_of_ok (b.offer_of_ok hms hoffer)]
  refine ⟨ps, .after (.extend (b.dispatches_offerEntries ms) s₁ []) ?_⟩
  exact (congrArg (Routed b es ps _ ∘ unanswered) (bind_of_ok (b.wrapAll_eq ms _))).mpr hrouted

/-- A batch is routed once the store has taken it: every envelope goes to the dispatchers that
are listed for its class when its delivery begins, each of them once and in that order, whatever
handlers register and unregister meanwhile.  Only a panic cuts this short. -/
theorem routed_postAll {s : State ω} (hs : Reached mode s) (o : ObserverId)
    (batch : List Message) :
    let admitted := b.admitted batch s.outside
    let envelopes := b.envelopes s.made.length admitted
    let judged := (thread (judgement b.sieves) batch s.outside).2
    ∃ ps, dispatches (endState (b.postAll o batch) s).journal = dispatches s.journal ++ ps ∧
      ((admitted = [] ∨ ∀ st, b.storage.offer admitted s.store ≠ .ok (.ok ()) st) ∧ ps = [] ∨
        ∃ st, admitted ≠ [] ∧ b.storage.offer admitted s.store = .ok (.ok ()) st ∧
          Routed b envelopes ps
            { s with store := st, made := s.made ++ envelopes, outside := judged }
            (b.postAll o batch s)) := by
  intro admitted envelopes judged
  by_cases hstored : admitted ≠ [] ∧ ∃ st, b.storage.offer admitted s.store = .ok (.ok ()) st
  · obtain ⟨hne, st, hoffer⟩ := hstored
    obtain ⟨s₁, hs₁, hstages⟩ := b.postAll_stages o batch s
    obtain ⟨ps, hrouted⟩ := dispatchBatch_routed hb o (s := s₁)
      (List.isEmpty_eq_false_iff.2 hne) (hs₁.store_eq ▸ hoffer) (hs₁.registry_eq ▸ hs.sound)
    rw [hs₁.made_eq] at hrouted
    have hstart : Undisturbed
        { s with store := st, made := s.made ++ envelopes, outside := judged }
        ((s₁.storing st).making envelopes) :=
      ⟨hs₁.registry_eq, rfl, congrArg (· ++ envelopes) hs₁.made_eq, hs₁.outside_eq,
        hs₁.dispatches_eq⟩
    have hwhole : Routed b envelopes ps
        { s with store := st, made := s.made ++ envelopes, outside := judged }
        (b.postAll o batch s) := by
      refine .after hstart ?_
      rcases hstages with ⟨n, s₂, s', hr, hpost, hs'⟩ | ⟨p, s', hr, hpost⟩
      · rw [hr] at hrouted
        rw [hpost]
        exact hrouted.before hs'
      · rw [hr] at hrouted
        rw [hpost]
        exact hrouted
    refine ⟨ps, ?_, .inr ⟨st, hne, hoffer, hwhole⟩⟩
    rw [← finalState_eq]
    exact hwhole.dispatches_eq hb
  · have hunstored : admitted = [] ∨ ∀ st, b.storage.offer admitted s.store ≠ .ok (.ok ()) st := by
      by_cases hne : admitted = []
      · exact .inl hne
      · exact .inr fun st hoffer => hstored ⟨hne, st, hoffer⟩
    refine ⟨[], ?_, .inl ⟨hunstored, rfl⟩⟩
    rw [List.append_nil]
    exact b.dispatches_postAll_unstored o hunstored

end

/-- A bus for events.  Dispatcher 3 has no name, and only the handler of dispatcher 0 does
anything. -/
def lobby (task : Act Unit Unit) : Bus Unit :=
  { ofFamily .events .forEvents []
      (fun d _ => (if d = ⟨0⟩ then task else pure ()) >>= fun _ => pure (.ok ⟨[]⟩))
      (fun d _ => if d = ⟨3⟩ then .error ⟨"name"⟩ else .ok "porter") with
    stamp := daily }

theorem arranging_lobby {task : Act Unit Unit} (h : Arranging task) (d : DispatcherId)
    (e : Envelope) : Arranging ((lobby task).handle d e) := by
  refine .bind ?_ fun _ => .pure _
  by_cases hd : d = ⟨0⟩
  · rwa [if_pos hd]
  · rw [if_neg hd]
    exact .pure ()

/-- Dispatchers 0 and 1 are registered for telegrams. -/
def manned : State Unit where
  registry := ⟨.multicast, ⟨[(⟨"telegram"⟩, [⟨0⟩, ⟨1⟩])], false⟩⟩
  outside := ()

theorem reached_manned : Reached .multicast manned := by
  have h₀ : Reached .multicast (endState ((lobby (pure ())).register ⟨0⟩ [⟨"telegram"⟩])
      { registry := .empty .multicast, outside := () }) :=
    .next (.start {} ()) (.register _ ⟨0⟩ _)
  exact h₀.next (.register (lobby (pure ())) ⟨1⟩ [⟨"telegram"⟩])

/-- Dispatcher 1 is relieved by dispatcher 2. -/
def relief : Act Unit Unit :=
  (lobby (pure ())).unregister ⟨1⟩ >>= fun _ =>
    (lobby (pure ())).register ⟨2⟩ [⟨"telegram"⟩] >>= fun _ => pure ()

def telegram (body : String) : Message :=
  { (default : Message) with messageClass := ⟨"telegram"⟩, kind := .event, body := body }

/-- The first telegram still goes to the dispatcher that is relieved meanwhile.  The second one
goes to the dispatcher that relieved it. -/
theorem routed_postAll_relief :
    let first : Envelope := .wrap (daily 0) (telegram "a")
    let second : Envelope := .wrap (daily 1) (telegram "b")
    Reached .multicast manned ∧ (∀ d e, Arranging ((lobby relief).handle d e)) ∧
      ∃ ps st, ps = [(⟨0⟩, first), (⟨1⟩, first), (⟨0⟩, second), (⟨2⟩, second)] ∧
        dispatches
          (endState ((lobby relief).postAll ⟨7⟩ [telegram "a", telegram "b"]) manned).journal = ps ∧
        Routed (lobby relief) [first, second] ps
          { manned with store := st, made := [first, second] }
          ((lobby relief).postAll ⟨7⟩ [telegram "a", telegram "b"] manned) := by
  intro first second
  have hrelief : ∀ d e, Arranging ((lobby relief).handle d e) :=
    arranging_lobby (.bind (.unregister _ _) fun _ => .bind (.register _ _ _) fun _ => .pure ())
  have hadmitted : (lobby relief).admitted [telegram "a", telegram "b"] () =
      [telegram "a", telegram "b"] := by decide +kernel
  have hdispatched : dispatches
      (endState ((lobby relief).postAll ⟨7⟩ [telegram "a", telegram "b"]) manned).journal =
        [(⟨0⟩, first), (⟨1⟩, first), (⟨0⟩, second), (⟨2⟩, second)] := by
    decide +kernel
  obtain ⟨ps, hps, hcases⟩ :=
    routed_postAll hrelief reached_manned ⟨7⟩ [telegram "a", telegram "b"]
  have hps : ps = _ := hps.symm.trans hdispatched
  rcases hcases with ⟨-, hnone⟩ | ⟨st, -, -, hrouted⟩
  · cases hps.symm.trans hnone
  · rw [hadmitted] at hrouted
    exact ⟨reached_manned, hrelief, ps, st, hps, hdispatched.trans hps.symm, hrouted⟩

/-- Dispatcher 3 is registered for nothing, and this breaks off. -/
def summon : Act Unit Unit :=
  (lobby (pure ())).register ⟨3⟩ [] >>= fun _ => pure ()

/-- Registering can break the handler off that does it, and then the telegram does not go to the
dispatcher that comes next. -/
theorem not_delivered_to_all :
    ¬ ∀ (task : Act Unit Unit) (s : State Unit) (m : Message),
      Reached .multicast s → (∀ d e, Arranging ((lobby task).handle d e)) →
        (lobby task).admitted [m] s.outside = [m] →
        (∃ st, (lobby task).storage.offer [m] s.store = .ok (.ok ()) st) →
        dispatches (endState ((lobby task).postAll ⟨7⟩ [m]) s).journal =
          dispatches s.journal ++
            (s.registry.dispatchersFor m.messageClass).map fun d =>
              (d, .wrap (daily s.made.length) m) := by
  intro h
  have hsummon : ∀ d e, Arranging ((lobby summon).handle d e) :=
    arranging_lobby (.bind (.register _ _ _) fun _ => .pure ())
  have hdispatched :
      dispatches (endState ((lobby summon).postAll ⟨7⟩ [telegram "a"]) manned).journal =
        [(⟨0⟩, .wrap (daily 0) (telegram "a"))] := by decide +kernel
  have hall := h summon manned (telegram "a") reached_manned hsummon (by decide +kernel) ⟨_, rfl⟩
  rw [hdispatched] at hall
  exact absurd hall (by decide +kernel)

end Switchboard.Bus
