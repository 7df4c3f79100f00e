import Switchboard.Proofs.Posting.Transcript

/-!
# Posting follows the transcript

Every action of posting is shown to return, with an equation for its outcome and for the
state in which it ends.  Most actions do no more than add to the journal and to the log
and change what user code keeps (`State.extend`), so the equations compose.

Filtering needs no assumption.  Storing needs messages that can be copied.  Delivering
needs user code that keeps to itself, but only the user code that the accepted messages
reach (`CalmOn`).  The equation of a whole batch is `postAll_eq`.
-/

namespace Switchboard.Bus

variable {ω α β : Type}

open Act

/-! ## Effects -/

/-- The state with entries added to the journal and to the log, and with something
else kept by user code. -/
def State.extend (s : State ω) (entries : List Entry) (logs : List LogEntry) (w : ω) : State ω :=
  { s with journal := s.journal ++ entries, log := s.log ++ logs, outside := w }

/-- The state in which deliveries under way hold certain dispatchers. -/
def State.holding (s : State ω) (ds : List DispatcherId) : State ω := { s with inFlight := ds }

def State.storing (s : State ω) (st : MessageStore) : State ω := { s with store := st }

/-- The state with more envelopes made. -/
def State.making (s : State ω) (es : List Envelope) : State ω := { s with made := s.made ++ es }

namespace State

variable (s : State ω) (es es' : List Entry) (ls ls' : List LogEntry) (w w' : ω)

@[simp] theorem extend_extend :
    (s.extend es ls w).extend es' ls' w' = s.extend (es ++ es') (ls ++ ls') w' := by
  simp only [extend, List.append_assoc]

@[simp] theorem extend_nil : s.extend [] [] s.outside = s := by
  simp only [extend, List.append_nil]

theorem extend_holding (ds : List DispatcherId) :
    (s.holding ds).extend es ls w = (s.extend es ls w).holding ds := rfl

@[simp] theorem outside_holding (ds : List DispatcherId) : (s.holding ds).outside = s.outside := rfl

theorem storing_store : s.storing s.store = s := rfl

theorem extend_storing (st : MessageStore) :
    (s.extend es ls w).storing st = (s.storing st).extend es ls w := rfl

@[simp] theorem making_nil : s.making [] = s := by
  simp only [making, List.append_nil]

theorem extend_making (xs : List Envelope) :
    (s.extend es ls w).making xs = (s.making xs).extend es ls w := rfl

@[simp] theorem outside_extend : (s.extend es ls w).outside = w := rfl

@[simp] theorem registry_extend : (s.extend es ls w).registry = s.registry := rfl

@[simp] theorem store_extend : (s.extend es ls w).store = s.store := rfl

@[simp] theorem inFlight_extend : (s.extend es ls w).inFlight = s.inFlight := rfl

@[simp] theorem journal_extend : (s.extend es ls w).journal = s.journal ++ es := rfl

end State

theorem bind_of_ok {x : Act ω α} {f : α → Act ω β} {s s' : State ω} {a : α}
    (h : x s = .ok a s') : (x >>= f) s = f a s' := by
  change EStateM.bind x f s = f a s'
  rw [EStateM.bind, h]

theorem bind_of_error {x : Act ω α} {f : α → Act ω β} {s s' : State ω} {p : Panic}
    (h : x s = .error p s') : (x >>= f) s = .error p s' := by
  change EStateM.bind x f s = .error p s'
  rw [EStateM.bind, h]

theorem get_eq (s : State ω) : (get : Act ω (State ω)) s = .ok s s := rfl

theorem note_eq (e : Entry) (s : State ω) : note e s = .ok () (s.extend [e] [] s.outside) := by
  rw [State.extend, List.append_nil]
  rfl

theorem report_eq (e : LogEntry) (s : State ω) :
    report e s = .ok () (s.extend [] [e] s.outside) := by
  rw [State.extend, List.append_nil]
  rfl

theorem noteWhen_eq (asked : Bool) (e : Entry) (s : State ω) :
    noteWhen asked e s = .ok () (s.extend (if asked then [e] else []) [] s.outside) := by
  cases asked with
  | true => exact note_eq e s
  | false => exact congrArg (EStateM.Result.ok ()) s.extend_nil.symm

theorem acknowledge_eq (o : ObserverId) (a : Ack) (s : State ω) :
    acknowledge o a s = .ok () (s.extend [.acknowledged o a] [] s.outside) :=
  note_eq _ s

/-- What a bus adds to the log, which is nothing unless it is traced. -/
def logged (b : Bus ω) (ls : List LogEntry) : List LogEntry := if b.traced then ls else []

@[simp] theorem logged_nil (b : Bus ω) : b.logged [] = [] := by
  rw [logged, ite_self]

@[simp] theorem logged_append (b : Bus ω) (ls ls' : List LogEntry) :
    b.logged (ls ++ ls') = b.logged ls ++ b.logged ls' := by
  unfold logged
  cases b.traced with
  | true => rfl
  | false => rfl

theorem trace_eq (b : Bus ω) (level : Level) (message : String)
    (fields : List (String × LogValue)) (s : State ω) :
    b.trace level message fields s =
      .ok () (s.extend [] (b.logged [⟨level, message, fields⟩]) s.outside) := by
  rw [trace, logged]
  cases b.traced with
  | true => exact report_eq _ s
  | false => exact congrArg (EStateM.Result.ok ()) s.extend_nil.symm

/-! ## Filtering -/

theorem noteAsked_eq (f : Sieve ω) (m : Message) (s : State ω) :
    noteAsked f m s = .ok () (s.extend (f.label?.toList.map (.asked · m.id)) [] s.outside) := by
  rw [noteAsked]
  cases f.label? with
  | some label => exact note_eq _ s
  | none => exact congrArg (EStateM.Result.ok ()) s.extend_nil.symm

theorem ask_eq (f : Sieve ω) (m : Message) (s : State ω) :
    ask f m s = .ok (f.verdict m s.outside).1
      (s.extend (f.label?.toList.map (.asked · m.id)) [] (f.verdict m s.outside).2) := by
  rw [ask, bind_of_ok (noteAsked_eq f m s)]
  simp only [onOutside, State.extend, List.append_nil]

theorem judge_eq (fs : List (Sieve ω)) (m : Message) (s : State ω) :
    judge m fs s = .ok (judgement fs m s.outside).1.failure?
      (s.extend ((judgement fs m s.outside).1.asked.map (.asked · m.id)) []
        (judgement fs m s.outside).2) := by
  induction fs generalizing s with
  | nil => exact congrArg (EStateM.Result.ok none) s.extend_nil.symm
  | cons f fs ih =>
      rw [judge, bind_of_ok (ask_eq f m s), judgement]
      cases (f.verdict m s.outside).1 with
      | some e => rfl
      | none =>
          refine (ih _).trans ?_
          simp [Judgement.after]

theorem sift_eq (b : Bus ω) (o : ObserverId) (ms : List Message) (s : State ω) :
    b.sift o ms s =
      let judged := thread (judgement b.sieves) ms s.outside
      .ok (accepted judged.1, (rejections judged.1).length)
        (s.extend (judged.1.flatMap (Judgement.entries o))
          (b.logged (judged.1.flatMap Judgement.logs)) judged.2) := by
  induction ms generalizing s with
  | nil => exact congrArg (EStateM.Result.ok ([], 0)) (by simp)
  | cons m ms ih =>
      rw [sift, bind_of_ok (judge_eq b.sieves m s)]
      have hm := message_judgement b.sieves m s.outside
      simp only [thread_cons, accepted, rejections, List.flatMap_cons, logged_append]
      cases hj : (judgement b.sieves m s.outside).1.failure? with
      | none =>
          refine (bind_of_ok (ih _)).trans ?_
          rw [Judgement.entries_of_accepted o hj, Judgement.logs_of_accepted hj, hm,
            List.filterMap_cons_some (Judgement.accepted?_of_accepted hj),
            List.filterMap_cons_none hj, State.extend_extend, logged_nil, hm]
          rfl
      | some e =>
          refine (bind_of_ok (trace_eq _ _ _ _ _)).trans ?_
          rw [bind_of_ok (acknowledge_eq _ _ _), bind_of_ok (ih _),
            Judgement.entries_of_rejected o hj, Judgement.logs_of_rejected hj, hm,
            List.filterMap_cons_none (Judgement.accepted?_of_rejected hj),
            List.filterMap_cons_some hj]
          simp only [State.extend_extend, State.outside_extend, List.append_nil, List.nil_append]
          rfl

/-! ## Storing -/

theorem copyPanic?_eq_none_iff {batch : List Message} :
    MessageStore.copyPanic? batch = none ↔ ∀ m ∈ batch, m.fragile = false := by
  rw [MessageStore.copyPanic?, List.findSome?_eq_none_iff]
  refine forall₂_congr fun m _ => ?_
  rw [Message.copy]
  cases m.fragile with
  | true => simp
  | false => simp

theorem exists_of_copyPanic? {batch : List Message} {p : Panic}
    (h : MessageStore.copyPanic? batch = some p) : ∃ m ∈ batch, m.copy = .error p := by
  obtain ⟨m, hm, hcopy⟩ := List.exists_of_findSome?_eq_some h
  refine ⟨m, hm, ?_⟩
  cases hc : m.copy with
  | ok c => simp [hc] at hcopy
  | error p' => simpa [hc] using hcopy

/-- To offer a batch to a store that does not keep it, or turns it away, makes no copies. -/
theorem Storage.offer_eq (g : Storage) {batch : List Message} {st : MessageStore}
    (hm : g.answer batch st = .ok () → g.keeps = true → ∀ m ∈ batch, m.fragile = false) :
    g.offer batch st = .ok (g.answer batch st) (g.after batch st) := by
  rw [Storage.answer] at hm
  rw [Storage.offer, Storage.after, Storage.answer]
  cases hg : g.gate st.offers batch with
  | some e => rfl
  | none =>
      cases hk : g.keeps with
      | false => rfl
      | true =>
          cases hp : st.kept.poisoned with
          | true => simp [MessageStore.keep, hp]
          | false =>
              have hcopies : ∀ m ∈ batch, m.fragile = false := by
                refine hm ?_ hk
                simp [hg, hp]
              simp [MessageStore.keep, hp, copyPanic?_eq_none_iff.2 hcopies]

/-- The ways in which an offer of a batch to a store ends. -/
inductive Storage.Offered (g : Storage) (batch : List Message) (st : MessageStore) :
    EStateM.Result Panic MessageStore (Except StoreError Unit) → Prop where
  | answered :
    (g.answer batch st = .ok () → g.keeps = true → ∀ m ∈ batch, m.fragile = false) →
    Offered g batch st (.ok (g.answer batch st) (g.after batch st))
  /-- A message of the batch cannot be copied. -/
  | broken {p : Panic} {st' : MessageStore} :
    (∃ m ∈ batch, m.copy = .error p) → st'.kept.poisoned = true →
    Offered g batch st (.error p st')

/-- An offer ends in one of these ways. -/
theorem Storage.offer_offered (g : Storage) (batch : List Message) (st : MessageStore) :
    Offered g batch st (g.offer batch st) := by
  cases hc : MessageStore.copyPanic? batch with
  | none =>
      have hcopies := copyPanic?_eq_none_iff.1 hc
      rw [g.offer_eq fun _ _ => hcopies]
      exact .answered fun _ _ => hcopies
  | some p =>
      by_cases hm : g.answer batch st = .ok () → g.keeps = true → ∀ m ∈ batch, m.fragile = false
      · rw [g.offer_eq hm]
        exact .answered hm
      · -- the store goes on to copy the batch
        obtain ⟨hok, hkeeps⟩ := Classical.not_imp.1 hm
        obtain ⟨hk, -⟩ := Classical.not_imp.1 hkeeps
        have hgate : g.gate st.offers batch = none := by
          cases hg : g.gate st.offers batch with
          | none => rfl
          | some e => simp [Storage.answer, hg] at hok
        have hwhole : st.kept.poisoned = false := by
          cases hp : st.kept.poisoned with
          | false => rfl
          | true => simp [Storage.answer, hgate, hk, hp] at hok
        simp only [Storage.offer, hgate, hk, MessageStore.keep, hwhole, hc, if_pos]
        exact .broken (exists_of_copyPanic? hc) rfl

theorem Storage.of_offer_ok {g : Storage} {batch : List Message} {st st' : MessageStore}
    {answer : Except StoreError Unit} (h : g.offer batch st = .ok answer st') :
    g.answer batch st = answer ∧
      (answer = .ok () → g.keeps = true → ∀ m ∈ batch, m.fragile = false) := by
  have hoffered := g.offer_offered batch st
  generalize g.offer batch st = r at h hoffered
  cases hoffered with
  | answered hcopies =>
      cases h
      exact ⟨rfl, hcopies⟩
  | broken => cases h

theorem Storage.of_offer_error {g : Storage} {batch : List Message} {st st' : MessageStore}
    {p : Panic} (h : g.offer batch st = .error p st') :
    (∃ m ∈ batch, m.copy = .error p) ∧ st'.kept.poisoned = true := by
  have hoffered := g.offer_offered batch st
  generalize g.offer batch st = r at h hoffered
  cases hoffered with
  | answered => cases h
  | broken hcopy hpoisoned =>
      cases h
      exact ⟨hcopy, hpoisoned⟩

section

variable {ms : List Message} {s : State ω} {st : MessageStore} (hne : ms.isEmpty = false)
include hne

theorem offer_of_ok (b : Bus ω) {answer : Except StoreError Unit}
    (h : b.storage.offer ms s.store = .ok answer st) :
    b.offer ms s = .ok answer ((s.storing st).extend (b.offerEntries ms) [] s.outside) := by
  rw [offer, bind_of_ok (noteWhen_eq _ _ _), onStore, State.store_extend, h, offerEntries, hne,
    Bool.not_false, Bool.and_true]
  rfl

theorem offer_of_error (b : Bus ω) {p : Panic} (h : b.storage.offer ms s.store = .error p st) :
    b.offer ms s = .error p ((s.storing st).extend (b.offerEntries ms) [] s.outside) := by
  rw [offer, bind_of_ok (noteWhen_eq _ _ _), onStore, State.store_extend, h, offerEntries, hne,
    Bool.not_false, Bool.and_true]
  rfl

end

theorem offer_eq_answer (b : Bus ω) {ms : List Message} (hne : ms.isEmpty = false) {s : State ω}
    (hm : b.storage.answer ms s.store = .ok () →
      b.storage.keeps = true → ∀ m ∈ ms, m.fragile = false) :
    b.offer ms s = .ok (b.storage.answer ms s.store)
      ((s.storing (b.storage.after ms s.store)).extend (b.offerEntries ms) [] s.outside) :=
  b.offer_of_ok hne (b.storage.offer_eq hm)

theorem offer_eq (b : Bus ω) {ms : List Message} (hne : ms.isEmpty = false)
    (hm : b.storage.keeps = true → ∀ m ∈ ms, m.fragile = false) (s : State ω) :
    b.offer ms s = .ok (b.storage.answer ms s.store)
      ((s.storing (b.storage.after ms s.store)).extend (b.offerEntries ms) [] s.outside) :=
  b.offer_eq_answer hne fun _ => hm

theorem acknowledgeUnstored_eq (o : ObserverId) (e : StoreError) (ms : List Message)
    (s : State ω) :
    acknowledgeUnstored o e ms s = .ok ()
      (s.extend (ms.map fun m => .acknowledged o (.error (.notStored m e))) [] s.outside) := by
  induction ms generalizing s with
  | nil => exact congrArg (EStateM.Result.ok ()) s.extend_nil.symm
  | cons m ms ih =>
      rw [acknowledgeUnstored, bind_of_ok (acknowledge_eq _ _ _), ih]
      simp

/-! ## Wrapping -/

section

variable (b : Bus ω) (n : Nat) (ms : List Message)

theorem wrapAll_eq (s : State ω) :
    b.wrapAll ms s =
      .ok (b.envelopes s.made.length ms) (s.making (b.envelopes s.made.length ms)) := rfl

theorem length_envelopes : (b.envelopes n ms).length = ms.length := by
  induction ms generalizing n with
  | nil => rfl
  | cons m ms ih => rw [envelopes, List.length_cons, ih, List.length_cons]

/-- Messages that come later get later stamps. -/
theorem envelopes_append (ms' : List Message) :
    b.envelopes n (ms ++ ms') = b.envelopes n ms ++ b.envelopes (n + ms.length) ms' := by
  induction ms generalizing n with
  | nil => rfl
  | cons m ms ih =>
      rw [List.cons_append, envelopes, ih, envelopes, List.cons_append, List.length_cons,
        Nat.add_right_comm, Nat.add_assoc n]

theorem map_envelopes {α : Type} {f : Envelope → α} {g : Message → α}
    (h : ∀ st m, f (.wrap st m) = g m) : (b.envelopes n ms).map f = ms.map g := by
  induction ms generalizing n with
  | nil => rfl
  | cons m ms ih => rw [envelopes, List.map_cons, ih, h, List.map_cons]

variable {b n ms}

theorem exists_of_mem_envelopes {e : Envelope} (he : e ∈ b.envelopes n ms) :
    ∃ m ∈ ms, ∃ i, e = .wrap (b.stamp i) m := by
  induction ms generalizing n with
  | nil => cases he
  | cons m ms ih =>
      rw [envelopes, List.mem_cons] at he
      rcases he with rfl | he
      · exact ⟨m, List.mem_cons_self, n, rfl⟩
      · obtain ⟨m', hm', i, rfl⟩ := ih he
        exact ⟨m', List.mem_cons_of_mem m hm', i, rfl⟩

end

/-! ## Delivering -/

/-- A dispatcher that keeps to itself when it gets an envelope while there are a certain registry
and store: it leaves the bus alone, and it does not panic. -/
structure CalmAt (b : Bus ω) (u : Conduct ω) (r : Registry) (st : MessageStore) (e : Envelope)
    (d : DispatcherId) : Prop where
  handle_eq : ∀ s, s.registry = r → s.store = st → b.handle d e s =
    .ok (u.react d e s.outside).1 { s with outside := (u.react d e s.outside).2 }
  nameOf_eq : ∀ w, b.nameOf d w = .ok (u.name d w)

/-- User code that keeps to itself while some messages are stored and delivered.  User
code that they do not reach may do anything. -/
structure CalmOn (b : Bus ω) (u : Conduct ω) (s : State ω) (ms : List Message) : Prop where
  /-- The messages can be copied, if the store keeps copies. -/
  copies : b.storage.keeps = true → ∀ m ∈ ms, m.fragile = false
  calmAt : ∀ e ∈ b.envelopes s.made.length ms, ∀ d ∈ s.registry.dispatchersFor e.messageClass,
    b.CalmAt u s.registry (b.storeAfter ms s.store) e d

section

variable {b : Bus ω} {u : Conduct ω}

theorem name_of_ok {d : DispatcherId} {s : State ω} {n : String}
    (h : b.nameOf d s.outside = .ok n) : b.name d s = .ok n s := by
  rw [Bus.name, h]

theorem name_of_error {d : DispatcherId} {s : State ω} {p : Panic}
    (h : b.nameOf d s.outside = .error p) : b.name d s = .error p s := by
  rw [Bus.name, h]

theorem name_eq {d : DispatcherId} {name : ω → String} (hn : ∀ w, b.nameOf d w = .ok (name w))
    (s : State ω) : b.name d s = .ok (name s.outside) s :=
  name_of_ok (hn s.outside)

theorem traceNamed_eq {d : DispatcherId} {name : ω → String}
    (hn : ∀ w, b.nameOf d w = .ok (name w)) (level : Level) (message : String)
    (fields : List (String × LogValue)) (s : State ω) :
    b.traceNamed d level message fields s = .ok () (s.extend []
      (b.logged [⟨level, message, ("dispatcher", .text (name s.outside)) :: fields⟩])
      s.outside) := by
  rw [traceNamed, logged]
  cases b.traced with
  | true => exact (bind_of_ok (name_eq hn s)).trans (report_eq _ s)
  | false => exact congrArg (EStateM.Result.ok ()) s.extend_nil.symm

theorem invoke_eq {d : DispatcherId} {e : Envelope} {s : State ω}
    (hu : b.CalmAt u s.registry s.store e d) :
    b.invoke d e s = .ok (u.react d e s.outside).1
      (s.extend [.dispatched d e] [] (u.react d e s.outside).2) := by
  rw [invoke, bind_of_ok (note_eq _ _)]
  exact hu.handle_eq (s.extend [.dispatched d e] [] s.outside) rfl rfl

theorem deliverTo_eq {e : Envelope} {d : DispatcherId} {s : State ω}
    (hu : b.CalmAt u s.registry s.store e d) (o : ObserverId) :
    b.deliverTo o e d s =
      let turn := u.turn e d s.outside
      .ok (turn.1.failure? e).toList.length
        (s.extend (turn.1.entries o e) (b.logged (turn.1.logs e)) turn.2) := by
  rw [deliverTo, bind_of_ok (invoke_eq hu)]
  simp only [Conduct.turn, Turn.failure?, Turn.entries, Turn.logs]
  cases (u.react d e s.outside).1 with
  | ok targets =>
      refine (bind_of_ok (traceNamed_eq hu.nameOf_eq _ _ _ _)).trans ?_
      rw [State.extend_extend]
      rfl
  | error r =>
      refine (bind_of_ok (traceNamed_eq hu.nameOf_eq _ _ _ _)).trans ?_
      rw [bind_of_ok (note_eq _ _), bind_of_ok (name_eq hu.nameOf_eq _),
        bind_of_ok (acknowledge_eq _ _ _)]
      simp only [State.extend_extend, State.outside_extend, List.append_nil, List.nil_append]
      rfl

theorem letGo_eq (d : DispatcherId) (ds : List DispatcherId) (s : State ω) :
    letGo (s.holding (d :: ds)) = .ok () (s.holding ds) := rfl

/-- Every dispatcher of a delivery has its turn, and is let go of then. -/
theorem deliverToAll_eq {e : Envelope} {ds : List DispatcherId} {s : State ω}
    (hu : ∀ d ∈ ds, b.CalmAt u s.registry s.store e d) (o : ObserverId)
    (held : List DispatcherId) :
    b.deliverToAll o e ds (s.holding (ds ++ held)) =
      let turns := thread (u.turn e) ds s.outside
      .ok (turns.1.filterMap (Turn.failure? e)).length
        ((s.extend (turns.1.flatMap (Turn.entries o e))
          (b.logged (turns.1.flatMap (Turn.logs e))) turns.2).holding held) := by
  induction ds generalizing s with
  | nil => exact congrArg (EStateM.Result.ok 0) (by simp)
  | cons d ds ih =>
      have hd : b.CalmAt u (s.holding (d :: ds ++ held)).registry
          (s.holding (d :: ds ++ held)).store e d := hu d List.mem_cons_self
      have hds : ∀ d' ∈ ds, b.CalmAt u s.registry s.store e d' := fun d' h =>
        hu d' (List.mem_cons_of_mem d h)
      rw [deliverToAll, bind_of_ok (deliverTo_eq hd o),
        State.extend_holding, List.cons_append, bind_of_ok (letGo_eq d _ _)]
      refine (bind_of_ok (ih ?_)).trans ?_
      · exact hds
      simp only [thread_cons, List.filterMap_cons, List.flatMap_cons, logged_append,
        State.outside_extend, State.extend_extend, State.outside_holding]
      cases (u.turn e d s.outside).1.failure? e with
      | none =>
          rw [Option.toList_none, List.length_nil, Nat.zero_add]
          rfl
      | some err =>
          rw [Option.toList_some, List.length_singleton, List.length_cons, Nat.add_comm 1]
          rfl

theorem acknowledgeAll_eq (o : ObserverId) (es : List PostError) (s : State ω) :
    acknowledgeAll o es s =
      .ok es.length (s.extend (es.map fun e => .acknowledged o (.error e)) [] s.outside) := by
  induction es generalizing s with
  | nil => exact congrArg (EStateM.Result.ok 0) s.extend_nil.symm
  | cons e es ih =>
      rw [acknowledgeAll, bind_of_ok (acknowledge_eq _ _ _), bind_of_ok (ih _)]
      simp only [State.extend_extend, State.outside_extend, List.append_nil]
      rfl

theorem bury_eq (b : Bus ω) (o : ObserverId) (e : Envelope) (s : State ω) :
    b.bury o e s = .ok (b.dead e).length
      (s.extend ((if b.reportsDead then [.undeliverable e] else [])
        ++ (b.dead e).map fun e => .acknowledged o (.error e))
        (b.logged (b.deadLogs e)) s.outside) := by
  rw [bury, bind_of_ok (noteWhen_eq _ _ _), dead, deadLogs]
  cases b.deadLetters with
  | reporting failures =>
      refine (acknowledgeAll_eq _ _ _).trans ?_
      rw [State.extend_extend, logged_nil]
      rfl
  | byPolicy =>
      cases b.config.deadLetter with
      | reject =>
          refine (bind_of_ok (trace_eq _ _ _ _ _)).trans ?_
          rw [bind_of_ok (acknowledge_eq _ _ _)]
          simp only [State.extend_extend, State.outside_extend, List.append_nil, List.nil_append]
          rfl
      | drop =>
          refine (bind_of_ok (trace_eq _ _ _ _ _)).trans ?_
          simp only [State.extend_extend, State.outside_extend, List.nil_append, List.map_nil,
            DeadLetterPolicy.failures]
          rfl

theorem lookup_eq (b : Bus ω) (c : MessageClass) (s : State ω) :
    b.lookup c s = .ok (s.registry.dispatchersFor c)
      (s.extend [] (b.logged (lookupLogs s.registry.listing.poisoned c)) s.outside) := by
  rw [lookup, bind_of_ok (get_eq s)]
  cases s.registry.listing.poisoned with
  | true => exact bind_of_ok (trace_eq _ _ _ _ _)
  | false =>
      have hsilent : lookupLogs false c = [] := rfl
      rw [hsilent, logged_nil, State.extend_nil]
      rfl

theorem hold_eq (ds : List DispatcherId) (s : State ω) :
    hold ds s = .ok () (s.holding (ds ++ s.inFlight)) := rfl

theorem isEmpty_turns (u : Conduct ω) (r : Registry) (e : Envelope) (w : ω) :
    (u.delivery r e w).1.turns.isEmpty = (r.dispatchersFor e.messageClass).isEmpty := by
  rw [Conduct.delivery]
  cases r.dispatchersFor e.messageClass with
  | nil => rfl
  | cons d ds => rfl

theorem deliver_eq {e : Envelope} {s : State ω}
    (hu : ∀ d ∈ s.registry.dispatchersFor e.messageClass, b.CalmAt u s.registry s.store e d)
    (o : ObserverId) :
    b.deliver o e s =
      let d := u.delivery s.registry e s.outside
      .ok (d.1.failures b.dead).length
        (s.extend (b.attemptEntries o d.1) (b.logged (b.deliveryLogs d.1)) d.2) := by
  rw [deliver, bind_of_ok (lookup_eq b _ s)]
  simp only [Delivery.failures, attemptEntries, deliveryLogs, logged_append, isEmpty_turns]
  cases hd : s.registry.dispatchersFor e.messageClass with
  | nil =>
      refine (bury_eq _ _ _ _).trans ?_
      simp only [State.extend_extend, State.outside_extend, List.nil_append, Conduct.delivery, hd]
      rfl
  | cons d ds =>
      have hds : ∀ d' ∈ d :: ds, b.CalmAt u s.registry s.store e d' := hd ▸ hu
      refine (bind_of_ok (hold_eq _ _)).trans ?_
      rw [deliverToAll_eq (s := s.extend [] _ s.outside) hds]
      simp only [State.extend_extend, State.outside_extend, State.inFlight_extend,
        List.nil_append, Conduct.delivery, hd]
      rfl

theorem deliverEach_eq {es : List Envelope} {s : State ω}
    (hu : ∀ e ∈ es, ∀ d ∈ s.registry.dispatchersFor e.messageClass,
      b.CalmAt u s.registry s.store e d) (o : ObserverId) :
    b.deliverEach o es s =
      let ds := thread (u.delivery s.registry) es s.outside
      .ok (ds.1.flatMap (Delivery.failures b.dead)).length
        (s.extend (ds.1.flatMap (b.deliveryEntries o)) (b.logged (ds.1.flatMap b.deliveryLogs))
          ds.2) := by
  induction es generalizing s with
  | nil => exact congrArg (EStateM.Result.ok 0) (by simp)
  | cons e es ih =>
      have hes : ∀ e' ∈ es, ∀ d ∈ s.registry.dispatchersFor e'.messageClass,
          b.CalmAt u s.registry s.store e' d := fun e' h => hu e' (List.mem_cons_of_mem e h)
      rw [deliverEach, bind_of_ok (deliver_eq (hu e List.mem_cons_self) o)]
      simp only [thread_cons, List.flatMap_cons, logged_append, deliveryEntries]
      cases hf : (u.delivery s.registry e s.outside).1.failures b.dead with
      | nil =>
          refine (bind_of_ok (acknowledge_eq _ _ _)).trans ((bind_of_ok (ih ?_)).trans ?_)
          · exact hes
          simp only [State.extend_extend, State.outside_extend, State.registry_extend,
            List.append_nil, List.append_assoc, List.length_append]
          rfl
      | cons err errs =>
          refine (bind_of_ok (ih ?_)).trans ?_
          · exact hes
          simp only [State.extend_extend, State.outside_extend, State.registry_extend,
            List.append_assoc, List.length_append]
          rfl

/-- Every envelope is delivered. -/
theorem envelopes_deliveries (u : Conduct ω) (r : Registry) (es : List Envelope) (w : ω) :
    (thread (u.delivery r) es w).1.map Delivery.envelope = es := by
  have henvelope : ∀ e w, (u.delivery r e w).1.envelope = e := fun _ _ => rfl
  exact (map_thread henvelope es w).trans (List.map_id es)

/-! ## Posting -/

theorem CalmOn.extend {s : State ω} {ms : List Message} (hu : b.CalmOn u s ms) (es : List Entry)
    (ls : List LogEntry) (w : ω) : b.CalmOn u (s.extend es ls w) ms :=
  ⟨hu.copies, hu.calmAt⟩

theorem dispatchBatch_eq {ms : List Message} {s : State ω}
    (hu : b.storage.answer ms s.store = .ok () → b.CalmOn u s ms) (o : ObserverId) :
    b.dispatchBatch o ms s =
      let q := b.sequel u s ms s.outside
      .ok (q.1.failures b.dead).length
        (((s.storing (b.storeAfter ms s.store)).making q.1.envelopes).extend
          (b.offerEntries ms ++ b.sequelEntries o q.1) (b.logged (b.sequelLogs q.1)) q.2) := by
  cases ms with
  | nil =>
      have hoffer : b.offerEntries [] = [] := by simp [offerEntries]
      have hstore : b.storeAfter [] s.store = s.store := rfl
      rw [hoffer, hstore, sequel, State.storing_store]
      cases b.storage.answer [] s.store with
      | error e =>
          simp only [sequelEntries, sequelLogs, Sequel.envelopes, List.map_nil, List.append_nil,
            List.isEmpty_nil, if_pos, logged_nil, State.making_nil, State.extend_nil]
          rfl
      | ok =>
          simp only [sequelEntries, sequelLogs, Sequel.envelopes, envelopes, List.map_nil,
            List.append_nil, thread_nil, List.flatMap_nil, logged_nil, State.making_nil,
            State.extend_nil]
          rfl
  | cons m ms =>
      rw [sequel]
      refine (bind_of_ok (b.offer_eq_answer rfl fun ha => (hu ha).copies)).trans ?_
      cases ha : b.storage.answer (m :: ms) s.store with
      | error e =>
          refine (bind_of_ok (trace_eq _ _ _ _ _)).trans ?_
          rw [bind_of_ok (acknowledgeUnstored_eq _ _ _ _)]
          simp only [State.extend_extend, State.outside_extend, List.append_nil, List.nil_append,
            Sequel.failures, Sequel.envelopes, State.making_nil, List.length_map]
          rfl
      | ok =>
          refine (bind_of_ok (b.wrapAll_eq _ _)).trans ((deliverEach_eq (hu ha).calmAt _).trans ?_)
          simp only [State.extend_making, State.extend_extend, State.outside_extend,
            State.registry_extend, List.nil_append, Sequel.envelopes, envelopes_deliveries]
          rfl

theorem conclude_eq (b : Bus ω) (o : ObserverId) (messages : Nat) (errors : List PostError)
    (s : State ω) :
    b.conclude o messages errors.length s = .ok ()
      (s.extend (if errors.isEmpty then [.acknowledged o .completed] else [])
        (b.logged [⟨.debug, "batch posted", [("messages", .number messages),
          ("errors", .number errors.length)]⟩]) s.outside) := by
  rw [conclude, bind_of_ok (noteWhen_eq _ _ _), trace_eq, State.extend_extend]
  cases errors with
  | nil => simp
  | cons e es => simp

/-- The messages of a batch that pass the filters, in order. -/
def admitted (b : Bus ω) (batch : List Message) (w : ω) : List Message :=
  accepted (thread (judgement b.sieves) batch w).1

/-- Posting does what the transcript says.  User code has to keep to itself only if the store
takes the batch. -/
theorem postAll_eq {batch : List Message} {s : State ω}
    (hu : b.storage.answer (b.admitted batch s.outside) s.store = .ok () →
      b.CalmOn u s (b.admitted batch s.outside)) (o : ObserverId) :
    b.postAll o batch s =
      let t := b.transcript u batch s
      .ok () (((s.storing (b.storeAfter t.1.accepted s.store)).making t.1.sequel.envelopes).extend
        (b.entries o t.1) (b.logged (b.logs t.1)) t.2) := by
  have hlength := length_thread (judgement b.sieves) batch s.outside
  rw [admitted] at hu
  rw [postAll, bind_of_ok (sift_eq b o batch s), transcript]
  generalize thread (judgement b.sieves) batch s.outside = judged at hu hlength
  refine (bind_of_ok (dispatchBatch_eq (u := u) ?_ o)).trans ?_
  · exact fun ha => (hu ha).extend _ _ _
  rw [← List.length_append, conclude_eq]
  simp only [entries, logs, logged_append, State.extend_extend, State.extend_storing,
    State.extend_making, State.outside_extend, State.store_extend, Transcript.accepted,
    Transcript.failures, List.append_assoc, hlength]
  rfl

end

end Switchboard.Bus
