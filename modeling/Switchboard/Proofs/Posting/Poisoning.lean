import Switchboard.Proofs.Posting.AuditLog
import Switchboard.Proofs.Posting.Routing
import Switchboard.Proofs.Registry.Registration

/-!
# Poisoned locks

A bus has two locks, that of its store and that of its registry.  A panic under one of them
poisons it, and nothing mends it.  What a bus can still do then is little, and it is the same
whatever happens later.

* Behind a poisoned store nothing is kept and nothing is shown.  Every accepted message fails,
  and nothing is dispatched (`postAll_unkept`).
* Behind a poisoned registry nobody is listed.  Every message that is stored is a dead letter
  (`dead_letters`).

What happens later are operations of the bus, in any order, and between them anything that
leaves the part behind the lock alone (`Later`).  That the lock is still poisoned takes a step
lemma for each operation.  Posting is the one that matters, since it runs user code, but behind
a poisoned lock it reaches none.
-/

namespace Switchboard.Bus

variable {ω : Type}

open Act

/-! ## What happens later -/

/-- The states that come later than a state: operations of a bus end or break off, the registry
is cleared, and between them happens what leaves a part of the state as it is. -/
inductive Later {α : Type} (b : Bus ω) (part : State ω → α) (s : State ω) : State ω → Prop where
  | now : Later b part s s
  | operation (k : Operation) {s' : State ω} :
    Later b part s s' → Later b part s (endState (k.act b) s')
  /-- The registry is cleared by itself. -/
  | cleared {s' : State ω} : Later b part s s' → Later b part s (endState clear s')
  | meanwhile {s' s'' : State ω} :
    Later b part s s' → part s'' = part s' → Later b part s s''

variable {b : Bus ω} {P : State ω → Prop}

/-- An operation keeps what posting keeps, if that is steady. -/
theorem Operation.keeps_act (hP : Steady (fun _ => True) P)
    (hpost : ∀ o batch, Keeps P (b.postAll o batch)) (k : Operation) : Keeps P (k.act b) := by
  cases k with
  | register d cs => exact .map _ (hP.keeps_register b d cs)
  | unregister d => exact .map _ (hP.keeps_unregister b d)
  | close => exact hP.keeps_close b
  | post o m =>
      exact .ite (.bind (hP.keeps_trace b _ _ _) fun _ => hP.keeps_acknowledge trivial _)
        (hpost o [m])
  | postAll o batch => exact hpost o batch

theorem Later.keeps {α : Type} {part : State ω → α} {s s' : State ω}
    (hP : Steady (fun _ => True) P) (hpost : ∀ o batch, Keeps P (b.postAll o batch))
    (hpart : ∀ s₁ s₂, part s₂ = part s₁ → P s₁ → P s₂) (h : Later b part s s') (hs : P s) :
    P s' := by
  induction h with
  | now => exact hs
  | operation k _ ih => exact k.keeps_act hP hpost _ ih
  | cleared _ ih => exact hP.clear ih
  | meanwhile _ hsame ih => exact hpart _ _ hsame ih

/-! ## Posting that reaches no user code -/

/-- Where no user code is reached, it may be taken to do nothing. -/
def idle : Conduct ω where
  react _ _ w := (.ok ⟨[]⟩, w)
  name _ _ := ""

section

variable {batch : List Message} {s : State ω}

/-- If the store panics, posting has filtered the batch and does nothing more. -/
theorem postAll_of_offer_error {p : Panic} {st : MessageStore}
    (h : b.storage.offer (b.admitted batch s.outside) s.store = .error p st) (o : ObserverId) :
    let judged := thread (judgement b.sieves) batch s.outside
    b.postAll o batch s = .error p ((s.storing st).extend
      (judged.1.flatMap (Judgement.entries o) ++ b.offerEntries (b.admitted batch s.outside))
      (b.logged (judged.1.flatMap Judgement.logs)) judged.2) := by
  have hne : (b.admitted batch s.outside).isEmpty = false := by
    obtain ⟨⟨m, hm, -⟩, -⟩ := Storage.of_offer_error h
    exact List.isEmpty_eq_false_iff.2 (List.ne_nil_of_mem hm)
  rw [postAll, bind_of_ok (sift_eq b o batch s)]
  rw [admitted] at h hne ⊢
  dsimp only
  generalize thread (judgement b.sieves) batch s.outside = judged at h hne ⊢
  let s₁ := s.extend (judged.1.flatMap (Judgement.entries o))
    (b.logged (judged.1.flatMap Judgement.logs)) judged.2
  have hoffer := b.offer_of_error (s := s₁) hne h
  have hbatch : b.dispatchBatch o (accepted judged.1) s₁ = .error p
      ((s₁.storing st).extend (b.offerEntries (accepted judged.1)) [] s₁.outside) := by
    rw [dispatchBatch, hne, if_neg Bool.false_ne_true]
    exact bind_of_error hoffer
  rw [State.extend_storing, State.extend_extend, List.append_nil] at hbatch
  exact bind_of_error hbatch

end

/-! ## A poisoned store -/

/-- A store whose lock is poisoned keeps it so, if only operations on the store could mend it. -/
theorem steady_store_poisoned :
    Steady (fun _ => True) fun s : State ω => s.store.kept.poisoned = true where
  frame := fun hs _ hst _ => hst ▸ hs
  note := fun _ _ hs => hs
  register := fun _ _ _ hs => hs
  unregister := fun _ hs => hs
  clear := fun hs => hs
  poison := fun hs => hs

section

variable (hb : b.storage.TakesAll) {s : State ω} (hs : s.store.kept.poisoned = true)
include hb hs

/-- Behind a poisoned store every accepted message fails, and nothing else happens. -/
theorem postAll_unkept (o : ObserverId) (batch : List Message) :
    let judged := (thread (judgement b.sieves) batch s.outside).1
    ∃ s', b.postAll o batch s = .ok () s' ∧ s'.store.kept.poisoned = true ∧
      acksFor o s'.journal = acksFor o s.journal ++ (rejections judged).map .error ++
        (accepted judged).map (fun m => .error (.notStored m .poisoned)) ++
        (if batch.isEmpty then [.completed] else []) ∧
      dispatches s'.journal = dispatches s.journal := by
  intro judged
  have hanswer (ms : List Message) : b.storage.answer ms s.store = .error .poisoned := by
    rw [Storage.answer, hb.gate_eq, hb.keeps_eq, hs]
    rfl
  have hcalm : b.storage.answer (b.admitted batch s.outside) s.store = .ok () →
      b.CalmOn idle s (b.admitted batch s.outside) := fun hok => by
    cases (hanswer _).symm.trans hok
  have hposted := postAll_eq hcalm o
  have htold : (b.transcript idle batch s).1.acks b.dead =
      (rejections judged).map .error ++
        (accepted judged).map fun m => .error (.notStored m .poisoned) := by
    rw [transcript, Transcript.acks, acks_sequel, hanswer]
  have hfailures : (b.transcript idle batch s).1.failures b.dead =
      rejections judged ++ (accepted judged).map (PostError.notStored · .poisoned) := by
    rw [transcript, Transcript.failures, sequel, hanswer]
    rfl
  have hdone : ((b.transcript idle batch s).1.failures b.dead).isEmpty = batch.isEmpty := by
    rw [Bool.eq_iff_iff, List.isEmpty_iff_length_eq_zero, List.isEmpty_iff_length_eq_zero,
      hfailures, List.length_append, List.length_map, length_rejections_add_length_accepted,
      length_thread]
  refine ⟨_, hposted, ?_, ?_, ?_⟩
  · change (b.storeAfter _ s.store).kept.poisoned = true
    rw [storeAfter]
    split
    · exact hs
    · rw [Storage.after, hanswer]
      exact hs
  · rw [State.journal_extend, acksFor_append, acksFor_entries, filterMap_error?_acks, htold,
      hdone, ← List.append_assoc, ← List.append_assoc]
    rfl
  · rw [State.journal_extend, dispatches_append, dispatches_entries]
    dsimp only [transcript]
    rw [dispatches_sequel, hanswer, List.append_nil]
    rfl

end

/-- A copy that cannot be made while a batch is stored breaks posting off: its observer has
received the rejections and nothing else, and nothing was dispatched.  From then on the store
shows nothing, whatever happens later, and every batch fails message by message. -/
theorem postAll_of_copy_panic (hb : b.storage.TakesAll) {batch : List Message} {s : State ω}
    {p : Panic} {st : MessageStore}
    (h : b.storage.offer (b.admitted batch s.outside) s.store = .error p st) (o : ObserverId) :
    let judged := (thread (judgement b.sieves) batch s.outside).1
    ∃ s', b.postAll o batch s = .error p s' ∧ (∃ m ∈ accepted judged, m.copy = .error p) ∧
      acksFor o s'.journal = acksFor o s.journal ++ (rejections judged).map .error ∧
      dispatches s'.journal = dispatches s.journal ∧
      ∀ s'', Later b State.store s' s'' →
        s''.store.messages = [] ∧ s''.store.length = 0 ∧
        ∀ o' batch', let judged' := (thread (judgement b.sieves) batch' s''.outside).1
          ∃ s₃, b.postAll o' batch' s'' = .ok () s₃ ∧
            acksFor o' s₃.journal = acksFor o' s''.journal ++ (rejections judged').map .error ++
              (accepted judged').map (fun m =>
                .error (.store m.id m.messageClass "message store lock poisoned")) ++
              (if batch'.isEmpty then [.completed] else []) ∧
            dispatches s₃.journal = dispatches s''.journal := by
  intro judged
  obtain ⟨hcopy, hpoisoned⟩ := Storage.of_offer_error h
  refine ⟨_, postAll_of_offer_error h o, hcopy, ?_, ?_, fun s'' hlater => ?_⟩
  · rw [State.journal_extend, acksFor_append, acksFor_append, acksFor_judgements,
      acksFor_offer, List.append_nil]
    rfl
  · rw [← endState_of_error (postAll_of_offer_error h o)]
    exact b.dispatches_postAll_unstored o (.inr fun st' hst' => by cases h.symm.trans hst')
  · have hpost (o : ObserverId) (batch : List Message) :
        Keeps (fun s : State ω => s.store.kept.poisoned = true) (b.postAll o batch) := by
      intro s hs
      obtain ⟨s', hs', hpoisoned, -⟩ := postAll_unkept hb hs o batch
      rwa [endState_of_ok hs']
    have hs'' : s''.store.kept.poisoned = true :=
      hlater.keeps steady_store_poisoned hpost
        (fun s₁ s₂ (hst : s₂.store = s₁.store) hs => hst ▸ hs) hpoisoned
    have hnone : s''.store.messages = [] := by
      rw [MessageStore.messages, Guarded.read?_of_poisoned hs'']
      rfl
    refine ⟨hnone, by rw [MessageStore.length, hnone, List.length_nil], fun o' batch' => ?_⟩
    obtain ⟨s₃, hs₃, -, hacks, hdispatches⟩ := postAll_unkept hb hs'' o' batch'
    exact ⟨s₃, hs₃, hacks, hdispatches⟩

/-- The third telegram cannot be copied, so the first one is not dispatched, either.  The bus is
closed, somebody is registered again, and a fourth telegram is posted. -/
theorem postAll_of_copy_panic_telegrams :
    let order : Message := { telegram "b" with kind := .command }
    let torn : Message := { telegram "c" with fragile := true }
    (lobby (pure ())).storage.TakesAll ∧
      ∃ s', (lobby (pure ())).postAll ⟨7⟩ [telegram "a", order, torn] manned =
          .error ⟨"clone of `c`"⟩ s' ∧
        acksFor ⟨7⟩ s'.journal =
          [.error (.invalid order "Command messages are not accepted by this bus")] ∧
        dispatches s'.journal = [] ∧
        ∃ s'' s₃, s'' = (lobby (pure ())).performAll [.close, .register ⟨0⟩ [⟨"telegram"⟩]] s' ∧
          s''.store.length = 0 ∧ (lobby (pure ())).postAll ⟨8⟩ [telegram "d"] s'' = .ok () s₃ ∧
          acksFor ⟨8⟩ s₃.journal = acksFor ⟨8⟩ s''.journal ++
            [.error (.store default ⟨"telegram"⟩ "message store lock poisoned")] ∧
          dispatches s₃.journal = dispatches s''.journal := by
  intro order torn
  have htakes : (lobby (pure ())).storage.TakesAll := ⟨fun _ _ => rfl, rfl⟩
  have hadmitted : (lobby (pure ())).admitted [telegram "a", order, torn] manned.outside =
      [telegram "a", torn] := by decide +kernel
  have hoffer : (lobby (pure ())).storage.offer
      ((lobby (pure ())).admitted [telegram "a", order, torn] manned.outside) manned.store =
        .error ⟨"clone of `c`"⟩ ⟨⟨[telegram "a"], true⟩, 1⟩ := by
    rw [hadmitted]
    rfl
  have hjudged : rejections (thread (judgement (lobby (pure ())).sieves)
      [telegram "a", order, torn] manned.outside).1 =
        [.invalid order "Command messages are not accepted by this bus"] := by decide +kernel
  have hfourth : ∀ w, accepted (thread (judgement (lobby (pure ())).sieves) [telegram "d"] w).1 =
      [telegram "d"] ∧
      rejections (thread (judgement (lobby (pure ())).sieves) [telegram "d"] w).1 = [] :=
    fun () => by decide +kernel
  obtain ⟨s', hs', -, hacks, hdispatches, hlater⟩ := postAll_of_copy_panic htakes hoffer ⟨7⟩
  rw [hjudged] at hacks
  obtain ⟨-, hlength, hpost⟩ := hlater _
    (.operation (.register ⟨0⟩ [⟨"telegram"⟩]) (.operation .close .now))
  obtain ⟨s₃, hs₃, hacks₃, hdispatches₃⟩ := hpost ⟨8⟩ [telegram "d"]
  rw [(hfourth _).1, (hfourth _).2, List.map_nil, List.append_nil, List.isEmpty_cons,
    if_neg Bool.false_ne_true, List.append_nil] at hacks₃
  exact ⟨htakes, s', hs', hacks, hdispatches, _, s₃, rfl, hlength, hs₃, hacks₃, hdispatches₃⟩

/-! ## A poisoned registry -/

/-- How a dead letter is acknowledged. -/
def DeadLetterPolicy.ack : DeadLetterPolicy → Message → Ack
  | reject, m => .error (.noDispatcherFound m.id m.messageClass)
  | drop, m => .next m

section

variable {batch : List Message} {s : State ω} (hs : s.Poisoned)
include hs

theorem listed_eq_nil (c : MessageClass) : s.registry.dispatchersFor c = [] :=
  Registry.dispatchersFor_of_poisoned hs c

/-- Unless the store panics, posting follows a transcript in which nobody is listed. -/
theorem postAll_eq_of_poisoned {answer : Except StoreError Unit} {st : MessageStore}
    (h : b.storage.offer (b.admitted batch s.outside) s.store = .ok answer st) (o : ObserverId) :
    b.postAll o batch s =
      let t := b.transcript idle batch s
      .ok () (((s.storing (b.storeAfter t.1.accepted s.store)).making t.1.sequel.envelopes).extend
        (b.entries o t.1) (b.logged (b.logs t.1)) t.2) := by
  obtain ⟨hanswer, hcopies⟩ := Storage.of_offer_ok h
  refine postAll_eq (fun hok => ⟨hcopies (hanswer.symm.trans hok), ?_⟩) o
  intro e _ d hd
  rw [listed_eq_nil hs] at hd
  cases hd

/-- Behind a poisoned registry posting leaves the registry as it is and dispatches nothing,
however it ends. -/
theorem postAll_unlisted (o : ObserverId) (batch : List Message) :
    (endState (b.postAll o batch) s).registry = s.registry ∧
      dispatches (endState (b.postAll o batch) s).journal = dispatches s.journal := by
  cases h : b.storage.offer (b.admitted batch s.outside) s.store with
  | error p st =>
      refine ⟨by rw [endState_of_error (postAll_of_offer_error h o)]; rfl, ?_⟩
      exact b.dispatches_postAll_unstored o (.inr fun st' hst' => by cases h.symm.trans hst')
  | ok answer st =>
      rw [endState_of_ok (postAll_eq_of_poisoned hs h o)]
      refine ⟨rfl, ?_⟩
      rw [State.journal_extend, dispatches_append, dispatches_entries]
      dsimp only [transcript]
      rw [dispatches_sequel]
      have hnone (es : List Envelope) : (es.flatMap fun e =>
          (s.registry.dispatchersFor e.messageClass).map (·, e)) = [] :=
        List.flatMap_eq_nil_iff.2 fun e _ => by rw [listed_eq_nil hs, List.map_nil]
      rw [hnone]
      cases b.storage.answer _ _ with
      | ok => exact List.append_nil _
      | error e => exact List.append_nil _

variable (hb : b.deadLetters = .byPolicy)
include hb

theorem acks_unlisted (u : Conduct ω) (stamp : Stamp) (m : Message) (w : ω) :
    (u.delivery s.registry (.wrap stamp m) w).1.acks b.dead = [b.config.deadLetter.ack m] := by
  have hfailures : (u.delivery s.registry (.wrap stamp m) w).1.failures b.dead =
      b.config.deadLetter.failures (.wrap stamp m) := by
    rw [Delivery.failures, isEmpty_turns, listed_eq_nil hs, List.isEmpty_nil, if_pos rfl, dead, hb]
    rfl
  rw [Delivery.acks, hfailures]
  cases b.config.deadLetter with
  | reject => rfl
  | drop => rfl

/-- The deliveries of messages that nobody is listed for. -/
theorem acks_all_unlisted (u : Conduct ω) (n : Nat) (ms : List Message) (w : ω) :
    (thread (u.delivery s.registry) (b.envelopes n ms) w).1.flatMap (Delivery.acks b.dead) =
      ms.map b.config.deadLetter.ack := by
  induction ms generalizing n w with
  | nil => rfl
  | cons m ms ih =>
      have hms := ih (n + 1) (u.delivery s.registry (.wrap (b.stamp n) m) w).2
      rw [envelopes, thread_cons, List.flatMap_cons, acks_unlisted hs hb, hms]
      rfl

/-- Behind a poisoned registry every message that is stored is a dead letter. -/
theorem postAll_dead {batch : List Message}
    (hstored : b.admitted batch s.outside ≠ [] →
      ∃ st, b.storage.offer (b.admitted batch s.outside) s.store = .ok (.ok ()) st)
    (o : ObserverId) :
    let judged := (thread (judgement b.sieves) batch s.outside).1
    let told : List Ack :=
      (rejections judged).map .error ++ (accepted judged).map b.config.deadLetter.ack
    ∃ s', b.postAll o batch s = .ok () s' ∧
      acksFor o s'.journal = acksFor o s.journal ++ told
        ++ if (told.filterMap Ack.error?).isEmpty then [.completed] else [] := by
  intro judged told
  have hoffer : ∃ answer st, b.storage.offer (accepted judged) s.store = .ok answer st ∧
      (accepted judged = [] ∨ answer = .ok ()) := by
    by_cases hne : accepted judged = []
    · rw [hne]
      exact ⟨_, _, b.storage.offer_eq fun _ _ => List.forall_mem_nil _, .inl rfl⟩
    · obtain ⟨st, hst⟩ := hstored hne
      exact ⟨_, st, hst, .inr rfl⟩
  obtain ⟨answer, st, hoffer, hcases⟩ := hoffer
  have htold : (b.transcript idle batch s).1.acks b.dead = told := by
    rw [transcript, Transcript.acks, acks_sequel, (Storage.of_offer_ok hoffer).1]
    refine congrArg (List.map Ack.error (rejections judged) ++ ·) ?_
    rcases hcases with hnil | rfl
    · rw [hnil]
      cases answer with
      | ok => rfl
      | error e => rfl
    · exact acks_all_unlisted hs hb idle _ _ _
  refine ⟨_, postAll_eq_of_poisoned hs hoffer o, ?_⟩
  rw [State.journal_extend, acksFor_append, acksFor_entries, htold, ← List.append_assoc]
  rfl

end

/-! ### Registration -/

/-- Behind a poisoned registry nobody is removed.  Only the log asks for a name. -/
theorem unregister_poisoned (b : Bus ω) (d : DispatcherId) {s : State ω} (hs : s.Poisoned) :
    (∃ s', b.unregister d s = .ok false s' ∧ Undisturbed s s') ∨
    ∃ p, b.traced = true ∧ b.nameOf d s.outside = .error p ∧ b.unregister d s = .error p s := by
  have hunregistered := unregister_unregistered b d s
  generalize b.unregister d s = result at hunregistered
  cases hunregistered with
  | skipped _ hs' => exact .inl ⟨_, rfl, hs'⟩
  | breaksOff _ hlog => exact .inr ⟨_, hlog.traced_eq, hlog.nameOf_eq, rfl⟩
  | absent hwhole | removed hwhole | unlogged hwhole => cases hwhole.symm.trans hs

/-- Behind a poisoned registry nobody is added. -/
theorem register_poisoned (b : Bus ω) (d : DispatcherId) {cs : List MessageClass} (hcs : cs ≠ [])
    {s : State ω} (hs : s.Poisoned) : b.register d cs s = .ok (.error .poisoned) s := by
  have hregistered := register_registered b d cs s
  generalize b.register d cs s = result at hregistered
  cases hregistered with
  | refused houtcome =>
      cases houtcome with
      | noClasses hnil => exact absurd hnil hcs
      | poisoned => rfl
      | taken _ hwhole => cases hwhole.symm.trans hs
  | broken houtcome =>
      cases houtcome with
      | nameless hnil => exact absurd hnil hcs
      | broken _ hwhole => cases hwhole.symm.trans hs
  | enrolled houtcome | unlogged houtcome =>
      cases houtcome with
      | enrolled _ hwhole => cases hwhole.symm.trans hs

/-- A dispatcher that advertises nothing is refused by its name, if it can say it. -/
theorem register_nothing (b : Bus ω) (d : DispatcherId) (s : State ω) :
    (∃ name, b.nameOf d s.outside = .ok name ∧
      b.register d [] s = .ok (.error (.noClasses name)) s) ∨
    ∃ p, b.nameOf d s.outside = .error p ∧ b.register d [] s = .error p s := by
  have hregistered := register_registered b d [] s
  generalize b.register d [] s = result at hregistered
  cases hregistered with
  | refused houtcome =>
      cases houtcome with
      | noClasses _ hn => exact .inl ⟨_, hn, rfl⟩
      | poisoned hsome | taken hsome => exact absurd rfl hsome
  | broken houtcome =>
      cases houtcome with
      | nameless _ hn => exact .inr ⟨_, hn, rfl⟩
      | broken hsome => exact absurd rfl hsome
  | enrolled houtcome | unlogged houtcome =>
      cases houtcome with
      | enrolled hsome => exact absurd rfl hsome

/-! ### Shut for good -/

/-- What a bus says once nobody can be listed.  A call breaks off only where a dispatcher cannot
be asked for its name, or where the store does. -/
structure Shut (b : Bus ω) (s : State ω) : Prop where
  dispatchersFor_eq : ∀ c, s.registry.dispatchersFor c = []
  isRegistered_eq : ∀ c, s.registry.isRegistered c = false
  registeredClasses_eq : s.registry.registeredClasses = []
  unregister : ∀ d, (∃ s', b.unregister d s = .ok false s' ∧ Undisturbed s s') ∨
    ∃ p, b.traced = true ∧ b.nameOf d s.outside = .error p ∧ b.unregister d s = .error p s
  register_eq : ∀ d cs, cs ≠ [] → b.register d cs s = .ok (.error .poisoned) s
  register_nothing : ∀ d,
    (∃ name, b.nameOf d s.outside = .ok name ∧
      b.register d [] s = .ok (.error (.noClasses name)) s) ∨
    ∃ p, b.nameOf d s.outside = .error p ∧ b.register d [] s = .error p s
  dispatches_eq : ∀ o batch,
    dispatches (endState (b.postAll o batch) s).journal = dispatches s.journal
  /-- Accepted messages that are stored are dead letters. -/
  dead : ∀ o batch,
    let judged := (thread (judgement b.sieves) batch s.outside).1
    let told : List Ack :=
      (rejections judged).map .error ++ (accepted judged).map b.config.deadLetter.ack
    (accepted judged ≠ [] →
      ∃ st, b.storage.offer (accepted judged) s.store = .ok (.ok ()) st) →
    ∃ s', b.postAll o batch s = .ok () s' ∧
      acksFor o s'.journal = acksFor o s.journal ++ told
        ++ if (told.filterMap Ack.error?).isEmpty then [.completed] else []

/-- Once the lock of the registry is poisoned, the bus is shut for good: nobody is listed,
removed or added, and every message that is stored is a dead letter, whatever happens later. -/
theorem shut_of_poisoned (hb : b.deadLetters = .byPolicy) {s s' : State ω} (hs : s.Poisoned)
    (hlater : Later b State.registry s s') : Shut b s' := by
  have hpost (o : ObserverId) (batch : List Message) :
      Keeps State.Poisoned (b.postAll o batch) := by
    intro s hs
    rwa [State.Poisoned, (postAll_unlisted hs o batch).1]
  have hs' : s'.Poisoned := hlater.keeps lasting_poisoned.toSteady hpost
    (fun s₁ s₂ (hr : s₂.registry = s₁.registry) hs => by rwa [State.Poisoned, hr]) hs
  exact
    { dispatchersFor_eq := listed_eq_nil hs'
      isRegistered_eq := Registry.isRegistered_of_poisoned hs'
      registeredClasses_eq := Registry.registeredClasses_of_poisoned hs'
      unregister := fun d => b.unregister_poisoned d hs'
      register_eq := fun d cs hcs => b.register_poisoned d hcs hs'
      register_nothing := fun d => b.register_nothing d s'
      dispatches_eq := fun o batch => (postAll_unlisted hs' o batch).2
      dead := fun o batch hstored => postAll_dead hs' hb hstored o }

/-- A bus for commands whose first dispatcher cannot say its name. -/
def counter : Bus Unit :=
  ofFamily .commands .forCommands [] (fun _ _ => pure (.ok ⟨[]⟩))
    (fun d _ => if d = ⟨0⟩ then .error ⟨"name"⟩ else .ok "clerk")

/-- The first dispatcher stands in the way of the second.  To say so takes its name. -/
def jammed : State Unit :=
  counter.performAll [.register ⟨0⟩ [⟨"order"⟩], .register ⟨1⟩ [⟨"order"⟩]]
    { registry := .empty .unicast, outside := () }

theorem poisoned_jammed : jammed.Poisoned := by
  rw [State.Poisoned]
  decide +kernel

/-- After the bus is closed, and a third dispatcher is not registered, an order is a dead
letter. -/
theorem shut_of_poisoned_counter :
    let order : Message := { (default : Message) with messageClass := ⟨"order"⟩, kind := .command }
    let s : State Unit := counter.performAll [.close, .register ⟨2⟩ [⟨"order"⟩]] jammed
    counter.deadLetters = .byPolicy ∧ jammed.Poisoned ∧ Later counter State.registry jammed s ∧
      Shut counter s ∧
      ∃ s', counter.postAll ⟨7⟩ [order] s = .ok () s' ∧
        acksFor ⟨7⟩ s'.journal =
          acksFor ⟨7⟩ s.journal ++ [.error (.noDispatcherFound default ⟨"order"⟩)] := by
  intro order s
  have hlater : Later counter State.registry jammed s :=
    .operation (.register ⟨2⟩ [⟨"order"⟩]) (.operation .close .now)
  have hshut := shut_of_poisoned (b := counter) rfl poisoned_jammed hlater
  have hjudged : ∀ w, accepted (thread (judgement counter.sieves) [order] w).1 = [order] ∧
      rejections (thread (judgement counter.sieves) [order] w).1 = [] :=
    fun () => by decide +kernel
  obtain ⟨s', hs', hacks⟩ := hshut.dead ⟨7⟩ [order] fun _ => by
    rw [(hjudged _).1]
    exact ⟨_, rfl⟩
  rw [(hjudged _).1, (hjudged _).2] at hacks
  exact ⟨rfl, poisoned_jammed, hlater, hshut, s', hs', hacks⟩

/-- A dispatcher that advertises nothing is not refused if it cannot say its name. -/
theorem register_nothing_breaks_off :
    ¬ ∀ (s : State Unit) (d : DispatcherId), s.Poisoned →
      ∃ name s', counter.register d [] s = .ok (.error (.noClasses name)) s' := by
  intro h
  obtain ⟨name, s', hs'⟩ := h jammed ⟨0⟩ poisoned_jammed
  rcases counter.register_nothing ⟨0⟩ jammed with ⟨other, hn, -⟩ | ⟨p, -, hp⟩
  · cases hn
  · cases hp.symm.trans hs'

end Switchboard.Bus
