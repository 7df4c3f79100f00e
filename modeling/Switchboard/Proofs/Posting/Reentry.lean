import Switchboard.Bus.Posting
import Switchboard.Proofs.Registry.Operations

/-!
# User code that uses the bus

A handler runs in the middle of a delivery, and it may register, unregister, post, and
close.  What it cannot do is reach the registry or the journal in any other way.

* `UserAct` is the closure of the operations of a bus under what user code does by
  itself: it computes, it keeps things, it looks at the state, it panics and recovers
  from panics.  Handlers are user code in turn, so it is an inductive predicate.
* `Steady` says that a property of states outlasts what a bus does besides storing and
  dispatching, and `Lasting` that it outlasts these, too.  A property that lasts is kept by
  all user code (`UserAct.keeps`), however deeply operations are nested and wherever they
  break off.

Three properties are shown to be lasting: that the registry is sound, what an observer in
whose name nobody posts has received, and that the lock of the registry is poisoned.

User code that posts nothing is `Arranging`.  It keeps every steady property.
-/

namespace Switchboard.Bus

variable {ω α β : Type}

open Act

/-! ## Where actions end -/

theorem endState_onOutside (x : EStateM Panic ω α) (s : State ω) :
    endState (onOutside x) s = { s with outside := endState x s.outside } := by
  rw [endState, onOutside, endState]
  cases x s.outside with
  | ok a w => rfl
  | error p w => rfl

theorem endState_onStore (x : EStateM Panic MessageStore α) (s : State ω) :
    endState (onStore x) s = { s with store := endState x s.store } := by
  rw [endState, onStore, endState]
  cases x s.store with
  | ok a st => rfl
  | error p st => rfl

theorem endState_onRegistry (x : EStateM Panic Registry α) (s : State ω) :
    endState (onRegistry x) s = { s with registry := endState x s.registry } := by
  rw [endState, onRegistry, endState]
  cases x s.registry with
  | ok a r => rfl
  | error p r => rfl

theorem endState_name (b : Bus ω) (d : DispatcherId) (s : State ω) :
    endState (b.name d) s = s := by
  rw [endState, name]
  cases b.nameOf d s.outside with
  | ok n => rfl
  | error p => rfl

theorem underLock_of_ok {x : Act ω α} {a : α} {s s' : State ω} (h : x s = .ok a s') :
    underLock x s = .ok a s' := by
  rw [underLock, h]

/-- Whoever breaks off under the lock of the registry poisons it. -/
theorem underLock_of_error {x : Act ω α} {p : Panic} {s s' : State ω} (h : x s = .error p s') :
    underLock x s = .error p { s' with registry := s'.registry.poison } := by
  rw [underLock, h]

/-! ## Actions that keep a property -/

/-- Whether an action keeps a property of states, whether or not it breaks off. -/
def Keeps (P : State ω → Prop) (act : Act ω α) : Prop := ∀ s, P s → P (endState act s)

namespace Keeps

variable {P : State ω → Prop}

theorem pure (a : α) : Keeps P (Pure.pure a : Act ω α) := fun _ h => h

theorem get : Keeps P (MonadState.get : Act ω (State ω)) := fun _ h => h

theorem bind {x : Act ω α} {f : α → Act ω β} (hx : Keeps P x) (hf : ∀ a, Keeps P (f a)) :
    Keeps P (x >>= f) := by
  intro s hs
  have h := hx s hs
  rw [endState_bind]
  cases hr : x s with
  | ok a s' =>
      rw [endState_of_ok hr] at h
      exact hf a s' h
  | error p s' => rwa [endState_of_error hr] at h

theorem recover {x : Act ω α} {f : Panic → Act ω α} (hx : Keeps P x) (hf : ∀ p, Keeps P (f p)) :
    Keeps P (tryCatch x f) := by
  intro s hs
  have h := hx s hs
  rw [endState_tryCatch]
  cases hr : x s with
  | ok a s' => rwa [endState_of_ok hr] at h
  | error p s' =>
      rw [endState_of_error hr] at h
      exact hf p s' h

theorem ite {c : Prop} [Decidable c] {x y : Act ω α} (hx : Keeps P x) (hy : Keeps P y) :
    Keeps P (if c then x else y) := by
  by_cases h : c
  · rwa [if_pos h]
  · rwa [if_neg h]

theorem map {x : Act ω α} (f : α → β) (hx : Keeps P x) : Keeps P (f <$> x) := by
  intro s hs
  rw [endState_map]
  exact hx s hs

end Keeps

/-! ## Properties that last -/

/-- Whether a property of states outlasts the effects of what a bus does besides storing
and dispatching, where the observers that are told of something are free. -/
structure Steady (free : ObserverId → Prop) (P : State ω → Prop) : Prop where
  /-- It depends on the registry, the store and the journal only. -/
  frame : ∀ {s s' : State ω}, P s → s'.registry = s.registry → s'.store = s.store →
    s'.journal = s.journal → P s'
  note : ∀ {s : State ω} {e : Entry}, (∀ o a, e = .acknowledged o a → free o) →
    e.dispatch? = none → P s → P { s with journal := s.journal ++ [e] }
  register : ∀ {s : State ω} nameOf d cs, P s →
    P { s with registry := endState (Registry.register nameOf d cs) s.registry }
  /-- It outlasts the removal of a dispatcher. -/
  unregister : ∀ {s : State ω} d, P s → P { s with registry := (s.registry.unregister d).2 }
  /-- It outlasts the removal of all dispatchers. -/
  clear : ∀ {s : State ω}, P s → P { s with registry := s.registry.clear }
  /-- It outlasts a panic under the lock of the registry. -/
  poison : ∀ {s : State ω}, P s → P { s with registry := s.registry.poison }

/-- Whether a property of states outlasts the effects of the operations of a bus, where
the observers that are told of something are free. -/
structure Lasting (free : ObserverId → Prop) (P : State ω → Prop) : Prop
    extends Steady free P where
  store : ∀ {s : State ω} (st : MessageStore), P s → P { s with store := st }
  dispatch : ∀ {s : State ω} d e, P s → P { s with journal := s.journal ++ [.dispatched d e] }

namespace Steady

variable {free : ObserverId → Prop} {P : State ω → Prop}

theorem keeps_note (hP : Steady free P) {e : Entry} (he : ∀ o a, e = .acknowledged o a → free o)
    (hd : e.dispatch? = none) : Keeps P (Act.note e) :=
  fun _ => hP.note he hd

theorem keeps_noteWhen (hP : Steady free P) {asked : Bool} {e : Entry}
    (he : ∀ o a, e = .acknowledged o a → free o) (hd : e.dispatch? = none) :
    Keeps P (noteWhen asked e) :=
  .ite (hP.keeps_note he hd) (.pure ())

theorem keeps_acknowledge (hP : Steady free P) {o : ObserverId} (ho : free o) (a : Ack) :
    Keeps P (acknowledge o a) :=
  hP.keeps_note (fun o' a' h => by cases h; exact ho) rfl

theorem keeps_report (hP : Steady free P) (e : LogEntry) : Keeps P (report e) :=
  fun _ hs => hP.frame hs rfl rfl rfl

theorem keeps_onOutside (hP : Steady free P) (x : EStateM Panic ω α) : Keeps P (onOutside x) := by
  intro s hs
  rw [endState_onOutside]
  exact hP.frame hs rfl rfl rfl

theorem keeps_onRegistry {f : EStateM Panic Registry α}
    (hf : ∀ s : State ω, P s → P { s with registry := endState f s.registry }) :
    Keeps P (onRegistry f) := by
  intro s hs
  rw [endState_onRegistry]
  exact hf s hs

theorem keeps_underLock (hP : Steady free P) {x : Act ω α} (hx : Keeps P x) :
    Keeps P (underLock x) := by
  intro s hs
  have h := hx s hs
  cases hr : x s with
  | ok a s' =>
      rw [endState_of_ok hr] at h
      rwa [endState_of_ok (underLock_of_ok hr)]
  | error p s' =>
      rw [endState_of_error hr] at h
      rw [endState_of_error (underLock_of_error hr)]
      exact hP.poison h

variable (b : Bus ω)

theorem keeps_name (d : DispatcherId) : Keeps P (b.name d) := by
  intro s hs
  rw [endState_name]
  exact hs

theorem keeps_trace (hP : Steady free P) (level : Level) (message : String)
    (fields : List (String × LogValue)) : Keeps P (b.trace level message fields) :=
  .ite (hP.keeps_report _) (.pure ())

theorem keeps_traceNamed (hP : Steady free P) (d : DispatcherId) (level : Level)
    (message : String) (fields : List (String × LogValue)) :
    Keeps P (b.traceNamed d level message fields) :=
  .ite (.bind (keeps_name b d) fun _ => hP.keeps_report _) (.pure ())

/-! ### Before the store and after the dispatchers -/

theorem keeps_ask (hP : Steady free P) (f : Sieve ω) (m : Message) : Keeps P (ask f m) := by
  refine .bind ?_ fun _ => hP.keeps_onOutside _
  rw [noteAsked]
  cases f.label? with
  | some label => exact hP.keeps_note nofun rfl
  | none => exact .pure ()

theorem keeps_judge (hP : Steady free P) (m : Message) (fs : List (Sieve ω)) :
    Keeps P (judge m fs) := by
  induction fs with
  | nil => exact .pure none
  | cons f fs ih =>
      refine .bind (hP.keeps_ask f m) fun verdict => ?_
      cases verdict with
      | some e => exact .pure (some e)
      | none => exact ih

theorem keeps_sift (hP : Steady free P) {o : ObserverId} (ho : free o) (ms : List Message) :
    Keeps P (b.sift o ms) := by
  induction ms with
  | nil => exact .pure ([], 0)
  | cons m ms ih =>
      refine .bind (hP.keeps_judge m b.sieves) fun verdict => ?_
      cases verdict with
      | some e =>
          refine .bind (hP.keeps_trace b _ _ _) fun _ => ?_
          exact .bind (hP.keeps_acknowledge ho _) fun _ => .bind ih fun _ => .pure _
      | none => exact .bind ih fun _ => .pure _

theorem keeps_acknowledgeUnstored (hP : Steady free P) {o : ObserverId} (ho : free o)
    (e : StoreError) (ms : List Message) : Keeps P (acknowledgeUnstored o e ms) := by
  induction ms with
  | nil => exact .pure ()
  | cons m ms ih => exact .bind (hP.keeps_acknowledge ho _) fun _ => ih

theorem keeps_acknowledgeAll (hP : Steady free P) {o : ObserverId} (ho : free o)
    (es : List PostError) : Keeps P (acknowledgeAll o es) := by
  induction es with
  | nil => exact .pure 0
  | cons e es ih =>
      exact .bind (hP.keeps_acknowledge ho _) fun _ => .bind ih fun _ => .pure _

theorem keeps_bury (hP : Steady free P) {o : ObserverId} (ho : free o) (e : Envelope) :
    Keeps P (b.bury o e) := by
  refine .bind (hP.keeps_noteWhen nofun rfl) fun _ => ?_
  cases b.deadLetters with
  | reporting failures => exact hP.keeps_acknowledgeAll ho _
  | byPolicy =>
      cases b.config.deadLetter with
      | reject =>
          exact .bind (hP.keeps_trace b _ _ _) fun _ =>
            .bind (hP.keeps_acknowledge ho _) fun _ => .pure 1
      | drop => exact .bind (hP.keeps_trace b _ _ _) fun _ => .pure 0

theorem keeps_lookup (hP : Steady free P) (c : MessageClass) : Keeps P (b.lookup c) :=
  .bind .get fun _ => .ite (.bind (hP.keeps_trace b _ _ _) fun _ => .pure _) (.pure _)

theorem keeps_hold (hP : Steady free P) (ds : List DispatcherId) : Keeps P (hold ds) :=
  fun _ hs => hP.frame hs rfl rfl rfl

theorem keeps_letGo (hP : Steady free P) : Keeps P letGo := fun _ hs => hP.frame hs rfl rfl rfl

theorem keeps_wrapAll (hP : Steady free P) (ms : List Message) : Keeps P (b.wrapAll ms) :=
  fun _ hs => hP.frame hs rfl rfl rfl

theorem keeps_conclude (hP : Steady free P) {o : ObserverId} (ho : free o)
    (messages errors : Nat) : Keeps P (b.conclude o messages errors) :=
  .bind (.ite (hP.keeps_acknowledge ho _) (.pure ())) fun _ => hP.keeps_trace b _ _ _

/-! ### Registration -/

theorem keeps_register (hP : Steady free P) (d : DispatcherId) (cs : List MessageClass) :
    Keeps P (b.register d cs) := by
  refine .bind .get fun s₀ => .bind ?_ fun answer => ?_
  · exact keeps_onRegistry fun s hs => hP.register _ d cs hs
  · cases answer with
    | error e => exact .pure _
    | ok => exact .bind (hP.keeps_underLock (hP.keeps_traceNamed b _ _ _ _)) fun _ => .pure _

theorem keeps_unregister (hP : Steady free P) (d : DispatcherId) : Keeps P (b.unregister d) := by
  refine .bind .get fun s₀ => .ite (.bind (hP.keeps_traceNamed b _ _ _ _) fun _ => .pure false) ?_
  refine .bind (keeps_onRegistry fun s hs => hP.unregister d hs) fun removed => ?_
  refine .ite (.bind (hP.keeps_underLock ?_) fun _ => .pure removed) (.pure removed)
  exact hP.keeps_traceNamed b _ _ _ _

theorem keeps_close (hP : Steady free P) : Keeps P b.close :=
  .bind (fun _ => hP.clear) fun _ => hP.keeps_trace b _ _ _

end Steady

namespace Lasting

variable {free : ObserverId → Prop} {P : State ω → Prop} {b : Bus ω}

theorem keeps_entry (hP : Lasting free P) {e : Entry}
    (he : ∀ o a, e = .acknowledged o a → free o) : Keeps P (Act.note e) := by
  cases e with
  | dispatched d e => exact fun _ hs => hP.dispatch d e hs
  | _ => exact hP.keeps_note he rfl

theorem keeps_offer (hP : Lasting free P) (ms : List Message) : Keeps P (b.offer ms) := by
  refine .bind (hP.keeps_noteWhen nofun rfl) fun _ s hs => ?_
  rw [endState_onStore]
  exact hP.store _ hs

variable (hh : ∀ d e, Keeps P (b.handle d e))
include hh

theorem keeps_deliverTo (hP : Lasting free P) {o : ObserverId} (ho : free o) (e : Envelope)
    (d : DispatcherId) : Keeps P (b.deliverTo o e d) := by
  refine .bind (.bind (fun _ hs => hP.dispatch d e hs) fun _ => hh d e) fun answer => ?_
  cases answer with
  | ok targets => exact .bind (hP.keeps_traceNamed b _ _ _ _) fun _ => .pure 0
  | error r =>
      refine .bind (hP.keeps_traceNamed b _ _ _ _) fun _ => ?_
      refine .bind (hP.keeps_note nofun rfl) fun _ => .bind (Steady.keeps_name b d) fun _ => ?_
      exact .bind (hP.keeps_acknowledge ho _) fun _ => .pure 1

theorem keeps_deliverToAll (hP : Lasting free P) {o : ObserverId} (ho : free o) (e : Envelope)
    (ds : List DispatcherId) : Keeps P (b.deliverToAll o e ds) := by
  induction ds with
  | nil => exact .pure 0
  | cons d ds ih =>
      refine .bind (keeps_deliverTo hh hP ho e d) fun _ => .bind hP.keeps_letGo fun _ => ?_
      exact .bind ih fun _ => .pure _

theorem keeps_deliver (hP : Lasting free P) {o : ObserverId} (ho : free o) (e : Envelope) :
    Keeps P (b.deliver o e) := by
  refine .bind (hP.keeps_lookup b e.messageClass) fun ds => .ite (hP.keeps_bury b ho e) ?_
  exact .bind (hP.keeps_hold ds) fun _ => keeps_deliverToAll hh hP ho e ds

theorem keeps_deliverEach (hP : Lasting free P) {o : ObserverId} (ho : free o)
    (es : List Envelope) : Keeps P (b.deliverEach o es) := by
  induction es with
  | nil => exact .pure 0
  | cons e es ih =>
      refine .bind (keeps_deliver hh hP ho e) fun failed => .ite ?_ ?_
      · exact .bind (hP.keeps_acknowledge ho _) fun _ => .bind ih fun _ => .pure _
      · exact .bind ih fun _ => .pure _

theorem keeps_dispatchBatch (hP : Lasting free P) {o : ObserverId} (ho : free o)
    (ms : List Message) : Keeps P (b.dispatchBatch o ms) := by
  refine .ite (.pure 0) (.bind (hP.keeps_offer ms) fun answer => ?_)
  cases answer with
  | ok => exact .bind (hP.keeps_wrapAll b ms) fun es => keeps_deliverEach hh hP ho es
  | error e =>
      exact .bind (hP.keeps_trace b _ _ _) fun _ =>
        .bind (hP.keeps_acknowledgeUnstored ho e ms) fun _ => .pure _

theorem keeps_postAll (hP : Lasting free P) {o : ObserverId} (ho : free o) (batch : List Message) :
    Keeps P (b.postAll o batch) := by
  refine .bind (hP.keeps_sift b ho batch) fun sifted => ?_
  refine .bind (keeps_dispatchBatch hh hP ho sifted.1) fun failed => ?_
  exact hP.keeps_conclude b ho _ _

theorem keeps_post (hP : Lasting free P) {o : ObserverId} (ho : free o) (m : Message) :
    Keeps P (b.post o m) :=
  .ite (.bind (hP.keeps_trace b _ _ _) fun _ => hP.keeps_acknowledge ho _)
    (keeps_postAll hh hP ho [m])

end Lasting

/-! ## User code -/

/-- What user code does, where it posts for free observers only.  Any bus may be used,
since what a bus works on is the state. -/
inductive UserAct (free : ObserverId → Prop) : {α : Type} → Act ω α → Prop where
  | pure {α : Type} (a : α) : UserAct free (Pure.pure a : Act ω α)
  | bind {α β : Type} {x : Act ω α} {f : α → Act ω β} :
    UserAct free x → (∀ a, UserAct free (f a)) → UserAct free (x >>= f)
  | panic {α : Type} (p : Panic) : UserAct free (throw p : Act ω α)
  | recover {α : Type} {x : Act ω α} {f : Panic → Act ω α} :
    UserAct free x → (∀ p, UserAct free (f p)) → UserAct free (tryCatch x f)
  | look : UserAct free (get : Act ω (State ω))
  /-- It changes what it keeps, or breaks off doing so. -/
  | outside {α : Type} (f : EStateM Panic ω α) : UserAct free (onOutside f)
  /-- It writes an entry into the journal, but no acknowledgment. -/
  | note {e : Entry} : (∀ o a, e ≠ .acknowledged o a) → UserAct free (Act.note e)
  | report (e : LogEntry) : UserAct free (Act.report e)
  | register (b : Bus ω) (d : DispatcherId) (cs : List MessageClass) :
    UserAct free (b.register d cs)
  | unregister (b : Bus ω) (d : DispatcherId) : UserAct free (b.unregister d)
  | close (b : Bus ω) : UserAct free b.close
  | post {b : Bus ω} {o : ObserverId} (m : Message) :
    (∀ d e, UserAct free (b.handle d e)) → free o → UserAct free (b.post o m)
  | postAll {b : Bus ω} {o : ObserverId} (batch : List Message) :
    (∀ d e, UserAct free (b.handle d e)) → free o → UserAct free (b.postAll o batch)

/-- User code keeps every property that lasts. -/
theorem UserAct.keeps {free : ObserverId → Prop} {P : State ω → Prop} (hP : Lasting free P)
    {act : Act ω α} (h : UserAct free act) : Keeps P act := by
  induction h with
  | pure a => exact .pure a
  | bind _ _ hx hf => exact .bind hx hf
  | panic p => exact fun _ hs => hs
  | recover _ _ hx hf => exact .recover hx hf
  | look => exact .get
  | outside f => exact hP.keeps_onOutside f
  | note he => exact hP.keeps_entry fun o a h => absurd h (he o a)
  | report e => exact hP.keeps_report e
  | register b d cs => exact hP.keeps_register b d cs
  | unregister b d => exact hP.keeps_unregister b d
  | close b => exact hP.keeps_close b
  | post m _ ho hh => exact Lasting.keeps_post hh hP ho m
  | postAll batch _ ho hh => exact Lasting.keeps_postAll hh hP ho batch

/-- User code that rearranges the registrations as it likes, and posts nothing. -/
inductive Arranging : {α : Type} → Act ω α → Prop where
  | pure {α : Type} (a : α) : Arranging (Pure.pure a : Act ω α)
  | bind {α β : Type} {x : Act ω α} {f : α → Act ω β} :
    Arranging x → (∀ a, Arranging (f a)) → Arranging (x >>= f)
  | panic {α : Type} (p : Panic) : Arranging (throw p : Act ω α)
  | recover {α : Type} {x : Act ω α} {f : Panic → Act ω α} :
    Arranging x → (∀ p, Arranging (f p)) → Arranging (tryCatch x f)
  | look : Arranging (get : Act ω (State ω))
  /-- It changes what it keeps, or breaks off doing so. -/
  | outside {α : Type} (f : EStateM Panic ω α) : Arranging (onOutside f)
  /-- It writes an entry into the journal, but no dispatch. -/
  | note {e : Entry} : e.dispatch? = none → Arranging (Act.note e)
  | report (e : LogEntry) : Arranging (Act.report e)
  | register (b : Bus ω) (d : DispatcherId) (cs : List MessageClass) : Arranging (b.register d cs)
  | unregister (b : Bus ω) (d : DispatcherId) : Arranging (b.unregister d)
  | clear : Arranging clear
  | close (b : Bus ω) : Arranging b.close

/-- User code that posts nothing keeps what outlasts everything but storing and dispatching. -/
theorem Arranging.keeps {P : State ω → Prop} (hP : Steady (fun _ => True) P) {act : Act ω α}
    (h : Arranging act) : Keeps P act := by
  induction h with
  | pure a => exact .pure a
  | bind _ _ hx hf => exact .bind hx hf
  | panic p => exact fun _ hs => hs
  | recover _ _ hx hf => exact .recover hx hf
  | look => exact .get
  | outside f => exact hP.keeps_onOutside f
  | note he => exact hP.keeps_note (fun _ _ _ => trivial) he
  | report e => exact hP.keeps_report e
  | register b d cs => exact hP.keeps_register b d cs
  | unregister b d => exact hP.keeps_unregister b d
  | clear => exact fun _ hs => hP.clear hs
  | close b => exact hP.keeps_close b

/-! ## What lasts -/

/-- A sound registry stays sound, and its mode stays the same. -/
theorem lasting_sound (free : ObserverId → Prop) (mode : Mode) :
    Lasting free fun s : State ω => s.registry.Sound ∧ s.registry.mode = mode where
  frame := fun hs hr _ _ => hr ▸ hs
  note := fun _ _ hs => hs
  store := fun _ hs => hs
  dispatch := fun _ _ hs => hs
  register := by
    intro s nameOf d cs hs
    refine ⟨hs.1.register nameOf d cs, ?_⟩
    rcases Registry.endState_register nameOf d cs s.registry with he | he | ⟨he, -⟩
    · rw [he]
      exact hs.2
    · rw [he]
      exact hs.2
    · rw [he]
      exact hs.2
  unregister := fun d hs => ⟨hs.1.unregister d, (Registry.mode_unregister _ d).trans hs.2⟩
  clear := fun hs => ⟨hs.1.clear, hs.2⟩
  poison := fun hs => ⟨hs.1.poison, hs.2⟩

/-- What an observer received stays the same while nobody posts in its name. -/
theorem lasting_acksFor (o : ObserverId) (acks : List Ack) :
    Lasting (· ≠ o) fun s : State ω => acksFor o s.journal = acks where
  frame := fun hs _ _ hj => hj ▸ hs
  store := fun _ hs => hs
  dispatch := fun _ _ hs => (acksFor_concat rfl _).trans hs
  note := by
    intro s e he _ hs
    have hnone : e.ackFor? o = none := by
      cases e with
      | acknowledged o' a => exact if_neg (he o' a rfl)
      | _ => rfl
    exact (acksFor_concat hnone _).trans hs
  register := fun _ _ _ hs => hs
  unregister := fun _ hs => hs
  clear := fun hs => hs
  poison := fun hs => hs

/-- Whether the lock of the registry is poisoned. -/
def State.Poisoned (s : State ω) : Prop := s.registry.listing.poisoned = true

/-- A poisoned lock stays poisoned. -/
theorem lasting_poisoned : Lasting (fun _ => True) (State.Poisoned : State ω → Prop) where
  frame := fun hs hr _ _ => by rwa [State.Poisoned, hr]
  note := fun _ _ hs => hs
  store := fun _ hs => hs
  dispatch := fun _ _ hs => hs
  register := by
    intro s nameOf d cs hs
    rcases Registry.endState_register nameOf d cs s.registry with he | he | ⟨he, -⟩
    · rwa [State.Poisoned, he]
    · rw [State.Poisoned, he]
      rfl
    · rwa [State.Poisoned, he]
  unregister := fun d hs => (Registry.poisoned_unregister _ d).trans hs
  clear := fun hs => hs
  poison := fun _ => rfl

/-! ## States that can be reached -/

/-- The states that can be reached where the registry starts in a certain mode: any user
code may run next, in whomever's name it posts. -/
inductive Reached (mode : Mode) : State ω → Prop where
  /-- Nobody is registered, and nothing has happened. -/
  | start (st : MessageStore) (w : ω) :
    Reached mode { registry := .empty mode, store := st, outside := w }
  /-- User code ran to its end, or until it panicked. -/
  | next {α : Type} {s : State ω} {act : Act ω α} :
    Reached mode s → UserAct (fun _ => True) act → Reached mode (endState act s)

/-- In a state that can be reached, the registry is sound. -/
theorem Reached.sound {mode : Mode} {s : State ω} (h : Reached mode s) :
    s.registry.Sound ∧ s.registry.mode = mode := by
  induction h with
  | start st w => exact ⟨Registry.sound_empty mode, rfl⟩
  | next _ hact ih => exact hact.keeps (lasting_sound _ mode) _ ih

end Switchboard.Bus
