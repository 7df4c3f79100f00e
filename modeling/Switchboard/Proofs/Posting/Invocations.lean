import Mathlib.Data.List.Basic
import Switchboard.Proofs.Posting.Run

/-!
# Which dispatchers a batch invokes

Once a batch is stored, every accepted message is handed to every dispatcher that is
registered for its class, in the order of registration, and nothing that a dispatcher
answers changes who comes next.  A dispatcher that fails is told so, then the observer is,
and then the next dispatcher has its turn (`dispatches_postAll`).

Both are read off the journal: the invocations (`dispatches`), and all that passes between
the bus, its dispatchers, and an observer who is told of failures (`callsFor`).
-/

namespace Switchboard.Bus

variable {ω : Type}

/-! ## Calls -/

/-- Whether the bus calls a dispatcher, or tells an observer of a failure. -/
def Entry.isCallFor (o : ObserverId) : Entry → Bool
  | dispatched _ _ | notified _ _ _ => true
  | acknowledged observer (.error _) => observer = o
  | _ => false

/-- The calls on dispatchers, and the failures that an observer is told of, in order. -/
def callsFor (o : ObserverId) (journal : List Entry) : List Entry :=
  journal.filter (Entry.isCallFor o)

/-- The calls of a delivery.  Every turn is over before the next one begins. -/
def Delivery.calls (dead : Envelope → List PostError) (o : ObserverId) (d : Delivery) :
    List Entry :=
  if d.turns.isEmpty then (dead d.envelope).map fun e => .acknowledged o (.error e)
  else d.turns.flatMap (Turn.entries o d.envelope)

theorem callsFor_append (o : ObserverId) (es es' : List Entry) :
    callsFor o (es ++ es') = callsFor o es ++ callsFor o es' :=
  List.filter_append es es'

theorem callsFor_flatMap {α : Type} (o : ObserverId) (f : α → List Entry) (l : List α) :
    callsFor o (l.flatMap f) = l.flatMap fun a => callsFor o (f a) :=
  List.filter_flatMap

theorem callsFor_eq_self {o : ObserverId} {es : List Entry} (h : ∀ e ∈ es, e.isCallFor o = true) :
    callsFor o es = es :=
  List.filter_eq_self.2 h

theorem callsFor_when {o : ObserverId} {e : Entry} (h : e.isCallFor o = false) (asked : Bool) :
    callsFor o (if asked then [e] else []) = [] := by
  cases asked with
  | true => exact List.filter_cons_of_neg (Bool.eq_false_iff.1 h)
  | false => rfl

theorem callsFor_errors (o : ObserverId) (errors : List PostError) :
    callsFor o (errors.map fun e => .acknowledged o (.error e)) =
      errors.map fun e => .acknowledged o (.error e) := by
  refine callsFor_eq_self (List.forall_mem_map.2 fun e _ => ?_)
  exact decide_eq_true rfl

theorem callsFor_asked (o : ObserverId) (labels : List String) (i : MessageId) :
    callsFor o (labels.map (.asked · i)) = [] :=
  List.filter_eq_nil_iff.2 (List.forall_mem_map.2 fun _ _ => Bool.false_ne_true)

theorem callsFor_judgements (o : ObserverId) (js : List Judgement) :
    callsFor o (js.flatMap (Judgement.entries o)) =
      (rejections js).map fun e => .acknowledged o (.error e) := by
  rw [callsFor_flatMap, rejections, List.filterMap_eq_flatMap_toList, List.map_flatMap]
  simp only [Judgement.entries, callsFor_append, callsFor_asked, callsFor_errors,
    List.nil_append]

theorem callsFor_turn (o : ObserverId) (e : Envelope) (t : Turn) :
    callsFor o (t.entries o e) = t.entries o e := by
  refine callsFor_eq_self ?_
  rw [Turn.entries]
  cases t.answer with
  | ok targets => simp [Entry.isCallFor]
  | error r => simp [Entry.isCallFor]

theorem callsFor_delivery (b : Bus ω) (o : ObserverId) (d : Delivery) :
    callsFor o (b.deliveryEntries o d) = d.calls b.dead o := by
  rw [deliveryEntries, callsFor_append, callsFor_when rfl, List.append_nil, attemptEntries,
    Delivery.calls]
  cases d.turns.isEmpty with
  | true =>
      rw [if_pos rfl, if_pos rfl, callsFor_append, callsFor_when rfl, callsFor_errors,
        List.nil_append]
  | false =>
      rw [if_neg Bool.false_ne_true, if_neg Bool.false_ne_true, callsFor_flatMap]
      simp only [callsFor_turn]

/-- The calls that some messages come to once they are accepted. -/
theorem callsFor_sequel (b : Bus ω) (u : Conduct ω) (o : ObserverId) (s : State ω)
    (ms : List Message) (w : ω) :
    callsFor o (b.sequelEntries o (b.sequel u s ms w).1) =
      match b.storage.answer ms s.store with
      | .error e => ms.map fun m => .acknowledged o (.error (.notStored m e))
      | .ok () =>
          (thread (u.delivery s.registry) (b.envelopes s.made.length ms) w).1.flatMap
            (Delivery.calls b.dead o) := by
  rw [sequel]
  cases b.storage.answer ms s.store with
  | error e =>
      have h := callsFor_errors o (ms.map (PostError.notStored · e))
      rwa [List.map_map] at h
  | ok =>
      simp only [sequelEntries, callsFor_flatMap, callsFor_delivery]

/-- Before the store has answered, an observer is told of rejections and nothing else. -/
theorem callsFor_entries (b : Bus ω) (o : ObserverId) (t : Transcript) :
    callsFor o (b.entries o t) =
      ((rejections t.judgements).map fun e => .acknowledged o (.error e))
        ++ callsFor o (b.sequelEntries o t.sequel) := by
  rw [entries, offerEntries, callsFor_append, callsFor_append, callsFor_append,
    callsFor_judgements, callsFor_when rfl, callsFor_when rfl, List.append_nil, List.append_nil]

/-! ## Invocations -/

@[simp] theorem dispatches_append (es es' : List Entry) :
    dispatches (es ++ es') = dispatches es ++ dispatches es' :=
  List.filterMap_append

theorem dispatches_flatMap {α : Type} (f : α → List Entry) (l : List α) :
    dispatches (l.flatMap f) = l.flatMap fun a => dispatches (f a) :=
  List.filterMap_flatMap

theorem dispatches_eq_nil {es : List Entry} (h : ∀ e ∈ es, e.dispatch? = none) :
    dispatches es = [] :=
  List.filterMap_eq_nil_iff.2 h

theorem dispatches_concat {e : Entry} (h : e.dispatch? = none) (es : List Entry) :
    dispatches (es ++ [e]) = dispatches es := by
  rw [dispatches_append, dispatches_eq_nil (List.forall_mem_singleton.2 h), List.append_nil]

theorem dispatches_when {e : Entry} (h : e.dispatch? = none) (asked : Bool) :
    dispatches (if asked then [e] else []) = [] := by
  cases asked with
  | true => exact List.filterMap_cons_none h
  | false => rfl

theorem dispatches_acknowledged {α : Type} (o : ObserverId) (f : α → Ack) (l : List α) :
    dispatches (l.map fun a => .acknowledged o (f a)) = [] :=
  dispatches_eq_nil (List.forall_mem_map.2 fun _ _ => rfl)

theorem dispatches_offerEntries (b : Bus ω) (ms : List Message) :
    dispatches (b.offerEntries ms) = [] :=
  dispatches_when rfl _

theorem dispatches_judgements (o : ObserverId) (js : List Judgement) :
    dispatches (js.flatMap (Judgement.entries o)) = [] := by
  refine dispatches_eq_nil fun e he => ?_
  obtain ⟨j, _, he⟩ := List.mem_flatMap.1 he
  rw [Judgement.entries, List.mem_append, List.mem_map, List.mem_map] at he
  rcases he with ⟨label, _, rfl⟩ | ⟨err, _, rfl⟩
  · rfl
  · rfl

/-- A turn is one invocation, whatever the dispatcher answers. -/
theorem dispatches_turn (o : ObserverId) (e : Envelope) (t : Turn) :
    dispatches (t.entries o e) = [(t.dispatcher, e)] := by
  rw [Turn.entries]
  cases t.answer with
  | ok targets => rfl
  | error r => rfl

theorem dispatches_delivery (b : Bus ω) (o : ObserverId) (d : Delivery) :
    dispatches (b.deliveryEntries o d) = d.turns.map fun t => (t.dispatcher, d.envelope) := by
  rw [deliveryEntries, dispatches_append, dispatches_when rfl, List.append_nil, attemptEntries]
  cases hd : d.turns with
  | nil =>
      rw [List.isEmpty_nil, if_pos rfl, dispatches_append, dispatches_when rfl,
        dispatches_acknowledged]
      rfl
  | cons t ts =>
      rw [List.isEmpty_cons, if_neg Bool.false_ne_true, dispatches_flatMap, List.map_eq_flatMap]
      simp only [dispatches_turn]

/-- Every dispatcher that is registered for an envelope is invoked. -/
theorem invocations_delivery (u : Conduct ω) (r : Registry) (e : Envelope) (w : ω) :
    ((u.delivery r e w).1.turns.map fun t => (t.dispatcher, (u.delivery r e w).1.envelope)) =
      (r.dispatchersFor e.messageClass).map fun d => (d, e) := by
  have hturn : ∀ d w, ((u.turn e d w).1.dispatcher, e) = (d, e) := fun _ _ => rfl
  exact map_thread hturn (r.dispatchersFor e.messageClass) w

theorem dispatches_deliveries (b : Bus ω) (u : Conduct ω) (o : ObserverId) (r : Registry)
    (es : List Envelope) (w : ω) :
    dispatches ((thread (u.delivery r) es w).1.flatMap (b.deliveryEntries o)) =
      es.flatMap fun e => (r.dispatchersFor e.messageClass).map fun d => (d, e) := by
  have hdelivery : ∀ e w, dispatches (b.deliveryEntries o (u.delivery r e w).1) =
      (r.dispatchersFor e.messageClass).map fun d => (d, e) := by
    intro e w
    rw [dispatches_delivery, invocations_delivery]
  rw [dispatches_flatMap, List.flatMap_def, map_thread hdelivery, ← List.flatMap_def]

/-- The invocations that some messages come to once they are accepted.  They do not depend
on what dispatchers answer. -/
theorem dispatches_sequel (b : Bus ω) (u : Conduct ω) (o : ObserverId) (s : State ω)
    (ms : List Message) (w : ω) :
    dispatches (b.sequelEntries o (b.sequel u s ms w).1) =
      match b.storage.answer ms s.store with
      | .error _ => []
      | .ok () => (b.envelopes s.made.length ms).flatMap fun e =>
          (s.registry.dispatchersFor e.messageClass).map fun d => (d, e) := by
  rw [sequel]
  cases b.storage.answer ms s.store with
  | error e => exact dispatches_acknowledged o _ ms
  | ok => exact dispatches_deliveries b u o s.registry _ w

/-- Nothing is dispatched before the store has answered, nor after the last delivery. -/
theorem dispatches_entries (b : Bus ω) (o : ObserverId) (t : Transcript) :
    dispatches (b.entries o t) = dispatches (b.sequelEntries o t.sequel) := by
  rw [entries, dispatches_append, dispatches_append, dispatches_append, dispatches_judgements,
    dispatches_offerEntries, dispatches_when rfl, List.append_nil, List.nil_append,
    List.nil_append]

/-! ## A batch -/

/-- What holds of a message and its envelope, whatever the stamp, holds of all of them. -/
theorem forall₂_envelopes {P : Envelope → Message → Prop} (h : ∀ st m, P (.wrap st m) m)
    (b : Bus ω) (n : Nat) (ms : List Message) : List.Forall₂ P (b.envelopes n ms) ms := by
  induction ms generalizing n with
  | nil => exact .nil
  | cons m ms ih => exact .cons (h _ m) (ih (n + 1))

/-- If the store takes the accepted messages, each of them is handed to every dispatcher
that is registered for its class, in order.  A rejected message is handed to nobody, and if
the store fails, no message is.  The dispatchers see the message with its own identity,
class, kind and origin.  A dispatcher that fails is told at once, and then the observer. -/
theorem dispatches_postAll {b : Bus ω} {u : Conduct ω} {batch : List Message} {s : State ω}
    (hu : b.storage.answer (b.admitted batch s.outside) s.store = .ok () →
      b.CalmOn u s (b.admitted batch s.outside)) (o : ObserverId) :
    let judged := thread (judgement b.sieves) batch s.outside
    let stored := b.storage.answer (accepted judged.1) s.store
    let envelopes := b.envelopes s.made.length (accepted judged.1)
    ∃ s', b.postAll o batch s = .ok () s' ∧
      judged.1.map Judgement.message = batch ∧
      dispatches s'.journal = dispatches s.journal ++
        (match stored with
        | .error _ => []
        | .ok () => envelopes.flatMap fun e =>
            (s.registry.dispatchersFor e.messageClass).map fun d => (d, e)) ∧
      List.Forall₂ (fun e m => e.message = m ∧ e.messageId = m.id ∧
        e.messageClass = m.messageClass ∧ e.kind = m.kind ∧ e.origin = m.origin)
        envelopes (accepted judged.1) ∧
      callsFor o s'.journal = callsFor o s.journal ++
        ((rejections judged.1).map fun e => .acknowledged o (.error e)) ++
        match stored with
        | .error e => (accepted judged.1).map fun m => .acknowledged o (.error (.notStored m e))
        | .ok () => (thread (u.delivery s.registry) envelopes judged.2).1.flatMap
            (Delivery.calls b.dead o) := by
  intro judged stored envelopes
  refine ⟨_, postAll_eq hu o, ?_, ?_, ?_, ?_⟩
  · exact (map_thread (message_judgement b.sieves) batch s.outside).trans (List.map_id batch)
  · rw [State.journal_extend, dispatches_append, dispatches_entries, transcript, dispatches_sequel]
    rfl
  · exact forall₂_envelopes (fun _ _ => ⟨rfl, rfl, rfl, rfl, rfl⟩) b _ _
  · rw [State.journal_extend, callsFor_append, callsFor_entries, transcript, callsFor_sequel,
      List.append_assoc]
    rfl

/-- A day passes with every envelope. -/
def daily (n : Nat) : Stamp := ⟨default, { Timestamp.epoch with day := .ofNat n }⟩

/-- Two dispatchers out of three are asleep, and which ones changes with every envelope.
Whoever gets an envelope that cannot be copied panics. -/
def nightDesk : Bus Nat :=
  { ofFamily .events .forEvents []
      (fun d e s =>
        let next := { s with outside := s.outside + 1 }
        if e.message.fragile then .error ⟨"clone"⟩ s
        else .ok (if (d.index + s.outside) % 2 = 0 then .error ⟨"asleep"⟩ else .ok ⟨[]⟩) next)
      (fun _ _ => .ok "guard") with
    stamp := daily }

/-- What the dispatchers say to an envelope that can be copied. -/
def nightConduct : Conduct Nat where
  react d _ w := (if (d.index + w) % 2 = 0 then .error ⟨"asleep"⟩ else .ok ⟨[]⟩, w + 1)
  name _ _ := "guard"

theorem calmAt_nightDesk {m : Message} (hm : m.fragile = false) (r : Registry) (st : MessageStore)
    (stamp : Stamp) (d : DispatcherId) :
    nightDesk.CalmAt nightConduct r st (.wrap stamp m) d :=
  ⟨fun _ _ _ => if_neg (Bool.eq_false_iff.1 hm), fun _ => rfl⟩

theorem calmOn_nightDesk (s : State Nat) {ms : List Message} (hm : ∀ m ∈ ms, m.fragile = false) :
    nightDesk.CalmOn nightConduct s ms where
  copies := fun _ => hm
  calmAt := by
    intro e he d _
    obtain ⟨m, hmem, i, rfl⟩ := exists_of_mem_envelopes he
    exact calmAt_nightDesk (hm m hmem) _ _ _ d

def nightShift : State Nat where
  registry := ⟨.multicast, ⟨[(⟨"alarm"⟩, [⟨1⟩, ⟨0⟩, ⟨2⟩]), (⟨"notice"⟩, [⟨2⟩])], false⟩⟩
  outside := 1

/-- The two dispatchers that are asleep do not keep the third from its turn, nor the second
message from being delivered. -/
theorem dispatches_postAll_nightShift :
    let alarm : Message := { (default : Message) with messageClass := ⟨"alarm"⟩, kind := .event }
    let notice : Message := { alarm with messageClass := ⟨"notice"⟩ }
    let order : Message := { alarm with kind := .command, fragile := true }
    let first : Envelope := .wrap (daily 0) alarm
    let second : Envelope := .wrap (daily 1) notice
    let asleep (m : Message) : Entry :=
      .acknowledged ⟨7⟩ (.error (.dispatch m.id m.messageClass "guard" "asleep"))
    ∃ s', nightDesk.postAll ⟨7⟩ [alarm, order, notice] nightShift = .ok () s' ∧
      dispatches s'.journal = [(⟨1⟩, first), (⟨0⟩, first), (⟨2⟩, first), (⟨2⟩, second)] ∧
      callsFor ⟨7⟩ s'.journal =
        [.acknowledged ⟨7⟩ (.error
            (.invalid order "Command messages are not accepted by this bus")),
          .dispatched ⟨1⟩ first, .notified ⟨1⟩ first ⟨"asleep"⟩, asleep alarm,
          .dispatched ⟨0⟩ first, .notified ⟨0⟩ first ⟨"asleep"⟩, asleep alarm,
          .dispatched ⟨2⟩ first,
          .dispatched ⟨2⟩ second, .notified ⟨2⟩ second ⟨"asleep"⟩, asleep notice] := by
  intro alarm notice order first second asleep
  have hm : ∀ m ∈ nightDesk.admitted [alarm, order, notice] nightShift.outside,
      m.fragile = false := by decide
  obtain ⟨s', hs', _, hdispatches, _, hcalls⟩ :=
    dispatches_postAll (fun _ => calmOn_nightDesk nightShift hm) ⟨7⟩
  exact ⟨s', hs', hdispatches.trans (by decide), hcalls.trans (by decide)⟩

end Switchboard.Bus
