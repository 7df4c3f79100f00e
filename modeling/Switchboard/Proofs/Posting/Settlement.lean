import Mathlib.Data.List.Forall2
import Switchboard.Proofs.Posting.Acknowledgments
import Switchboard.Proofs.Posting.Reentry

/-!
# One acknowledgment for each message

On a command bus every message of a batch is settled by exactly one acknowledgment.  It
is either handled or fails once (`postAll_settles`).

The reason is that a class never has two dispatchers.  Handlers may use the bus while
they run, so the registry of the next delivery is not that of the first.  It is sound all
the same (`Reached.sound`, `UserAct.keeps`), and that is all that a delivery needs to
know.  What handlers tell other observers is none of the observer's business.
-/

namespace Switchboard.Bus

variable {ω α β : Type}

open Act

/-! ## What an action tells an observer -/

/-- Whether an action returns an outcome and tells an observer certain things. -/
def Tells (o : ObserverId) (act : Act ω α) (s : State ω) (a : α) (acks : List Ack) : Prop :=
  ∃ s', act s = .ok a s' ∧ acksFor o s'.journal = acksFor o s.journal ++ acks

namespace Tells

variable {o : ObserverId} {s : State ω}

/-- An action that adds entries to the journal tells what can be read in them. -/
theorem of_extend {act : Act ω α} {a : α} {es : List Entry} {ls : List LogEntry} {w : ω}
    (h : act s = .ok a (s.extend es ls w)) : Tells o act s a (acksFor o es) :=
  ⟨_, h, acksFor_append o s.journal es⟩

theorem bind {x : Act ω α} {f : α → Act ω β} {a : α} {c : β} {acks acks' : List Ack}
    (hx : Tells o x s a acks) (hf : ∀ s', x s = .ok a s' → Tells o (f a) s' c acks') :
    Tells o (x >>= f) s c (acks ++ acks') := by
  obtain ⟨s₁, h₁, hacks₁⟩ := hx
  obtain ⟨s₂, h₂, hacks₂⟩ := hf s₁ h₁
  exact ⟨s₂, (bind_of_ok h₁).trans h₂, by rw [hacks₂, hacks₁, List.append_assoc]⟩

/-- An action that leaves the journal alone tells nothing. -/
theorem nothing {act : Act ω α} {a : α} {s' : State ω} (h : act s = .ok a s')
    (hj : s'.journal = s.journal) : Tells o act s a [] :=
  ⟨s', h, by rw [hj, List.append_nil]⟩

theorem pure (a : α) : Tells o (Pure.pure a : Act ω α) s a [] := nothing rfl rfl

end Tells

/-! ## Settled messages -/

/-- The acknowledgments that settle a message. -/
inductive Settles (b : Bus ω) (m : Message) : Ack → Prop where
  | next : Settles b m (.next m)
  /-- It failed, and the failure says which message it was. -/
  | failed {e : PostError} :
    e.messageId = m.id → e.messageClass = m.messageClass → Settles b m (.error e)
  /-- A filter rejected it, with a failure of its choice. -/
  | rejected {f : Sieve ω} {w : ω} {e : PostError} :
    f ∈ b.sieves → (f.verdict m w).1 = some e → Settles b m (.error e)

/-- User code that may use the bus, but posts for other observers and does not panic. -/
structure Sociable (b : Bus ω) (o : ObserverId) (name : DispatcherId → ω → String) : Prop where
  userAct : ∀ d e, UserAct (· ≠ o) (b.handle d e)
  /-- They return, if the message can be copied. -/
  returns : ∀ d e s, e.message.fragile = false → ∃ answer s', b.handle d e s = .ok answer s'
  nameOf_eq : ∀ d w, b.nameOf d w = .ok (name d w)

section

variable {b : Bus ω} {o : ObserverId} {name : DispatcherId → ω → String}

theorem invoke_tells (hu : b.Sociable o name) {e : Envelope} (he : e.message.fragile = false)
    (d : DispatcherId) (s : State ω) : ∃ answer, Tells o (b.invoke d e) s answer [] := by
  obtain ⟨answer, s', h⟩ := hu.returns d e (s.extend [.dispatched d e] [] s.outside) he
  have hkeeps := (hu.userAct d e).keeps (lasting_acksFor o (acksFor o s.journal))
    (s.extend [.dispatched d e] [] s.outside) (acksFor_concat rfl s.journal)
  rw [endState_of_ok h] at hkeeps
  exact ⟨answer, s', (bind_of_ok (note_eq _ s)).trans h, hkeeps.trans (List.append_nil _).symm⟩

/-- A dispatcher fails once, or not at all. -/
theorem deliverTo_tells (hu : b.Sociable o name) {e : Envelope} (he : e.message.fragile = false)
    (d : DispatcherId) (s : State ω) :
    ∃ failure? : Option PostError,
      Tells o (b.deliverTo o e d) s failure?.toList.length (failure?.toList.map .error) ∧
      ∀ err ∈ failure?, err.messageId = e.messageId ∧ err.messageClass = e.messageClass := by
  obtain ⟨answer, h⟩ := invoke_tells hu he d s
  cases answer with
  | ok targets =>
      refine ⟨none, h.bind fun s' _ => ?_, nofun⟩
      exact (Tells.of_extend (traceNamed_eq (hu.nameOf_eq d) _ _ _ _)).bind fun _ _ => .pure 0
  | error r =>
      obtain ⟨s', hs', hacks⟩ := h
      let err : PostError := .dispatch e.messageId e.messageClass (name d s'.outside) r.reason
      refine ⟨some err, ?_, fun x hx => Option.mem_some.1 hx ▸ ⟨rfl, rfl⟩⟩
      -- the name is that of the moment when the handler is done, so the rest runs from there
      have hrest : b.deliverTo o e d s = .ok 1 (s'.extend
          [.notified d e r, .acknowledged o (.error err)]
          (b.logged [⟨.warn, "dispatch failed", ("dispatcher", .text (name d s'.outside)) ::
            ("error", .text r.reason) :: messageFields e.messageClass e.messageId⟩])
          s'.outside) := by
        rw [deliverTo, bind_of_ok hs']
        refine (bind_of_ok (traceNamed_eq (hu.nameOf_eq d) _ _ _ _)).trans ?_
        rw [bind_of_ok (note_eq _ _), bind_of_ok (name_eq (hu.nameOf_eq d) _),
          bind_of_ok (acknowledge_eq _ _ _)]
        simp only [State.extend_extend, State.outside_extend, List.append_nil, List.nil_append]
        rfl
      refine ⟨_, hrest, ?_⟩
      rw [State.journal_extend, acksFor_append, hacks, List.append_nil]
      exact congrArg _ (acksFor_acknowledged_cons o _ [])

/-- By the policy, an envelope without a dispatcher fails once, or not at all. -/
theorem dead_toList (hb : b.deadLetters = .byPolicy) (e : Envelope) :
    ∃ failure? : Option PostError, b.dead e = failure?.toList ∧
      ∀ err ∈ failure?, err.messageId = e.messageId ∧ err.messageClass = e.messageClass := by
  rw [dead, hb]
  cases b.config.deadLetter with
  | reject =>
      exact ⟨some (.noDispatcherFound e.messageId e.messageClass), rfl,
        fun x hx => Option.mem_some.1 hx ▸ ⟨rfl, rfl⟩⟩
  | drop => exact ⟨none, rfl, fun x hx => absurd hx (Option.not_mem_none x)⟩

theorem bury_tells (b : Bus ω) (o : ObserverId) (e : Envelope) (s : State ω) :
    Tells o (b.bury o e) s (b.dead e).length ((b.dead e).map .error) := by
  have hacks : acksFor o ((if b.reportsDead then [.undeliverable e] else [])
      ++ (b.dead e).map fun err => .acknowledged o (.error err)) = (b.dead e).map .error := by
    rw [acksFor_append, acksFor_acknowledged]
    cases b.reportsDead with
    | true => rfl
    | false => rfl
  rw [← hacks]
  exact .of_extend (bury_eq b o e s)

theorem deliverToAll_tells (hu : b.Sociable o name) {e : Envelope} (he : e.message.fragile = false)
    (d : DispatcherId) (s : State ω) :
    ∃ failure? : Option PostError,
      Tells o (b.deliverToAll o e [d]) s failure?.toList.length (failure?.toList.map .error) ∧
      ∀ err ∈ failure?, err.messageId = e.messageId ∧ err.messageClass = e.messageClass := by
  obtain ⟨failure?, h, hnames⟩ := deliverTo_tells hu he d s
  refine ⟨failure?, ?_, hnames⟩
  rw [← List.append_nil (failure?.toList.map Ack.error)]
  refine h.bind fun s' _ => ?_
  have hlet : letGo s' = .ok () { s' with inFlight := s'.inFlight.tail } := rfl
  exact (Tells.nothing hlet rfl).bind fun _ _ => (Tells.pure 0).bind fun _ _ => .pure _

/-- A delivery to at most one dispatcher fails once, or not at all. -/
theorem deliver_tells (hb : b.deadLetters = .byPolicy) (hu : b.Sociable o name) {e : Envelope}
    (he : e.message.fragile = false) {s : State ω}
    (hone : (s.registry.dispatchersFor e.messageClass).length ≤ 1) :
    ∃ failure? : Option PostError,
      Tells o (b.deliver o e) s failure?.toList.length (failure?.toList.map .error) ∧
      ∀ err ∈ failure?, err.messageId = e.messageId ∧ err.messageClass = e.messageClass := by
  have hlookup := lookup_eq b e.messageClass s
  cases hd : s.registry.dispatchersFor e.messageClass with
  | nil =>
      obtain ⟨failure?, hdead, hnames⟩ := dead_toList hb e
      rw [hd] at hlookup
      refine ⟨failure?, (Tells.of_extend hlookup).bind fun s' _ => ?_, hnames⟩
      rw [← hdead]
      exact bury_tells b o e s'
  | cons d ds =>
      have hnil : ds = [] := by
        rw [hd, List.length_cons] at hone
        exact List.length_eq_zero_iff.1 (by omega)
      subst hnil
      rw [hd] at hlookup
      obtain ⟨failure?, h, hnames⟩ := deliverToAll_tells hu he d
        ((s.extend [] (b.logged (lookupLogs s.registry.listing.poisoned e.messageClass))
          s.outside).holding ([d] ++ s.inFlight))
      refine ⟨failure?, (Tells.of_extend hlookup).bind fun s₁ h₁ => ?_, hnames⟩
      obtain rfl := (EStateM.Result.ok.inj (hlookup.symm.trans h₁)).2
      refine (Tells.nothing (hold_eq [d] _) rfl).bind fun s₂ h₂ => ?_
      obtain rfl := (EStateM.Result.ok.inj ((hold_eq [d] _).symm.trans h₂)).2
      exact h

/-- Whatever handlers do to the registry, it is sound after a delivery. -/
theorem Sociable.deliver_sound (hu : b.Sociable o name) {mode : Mode} {e : Envelope}
    {s s' : State ω} {n : Nat} (hs : s.registry.Sound ∧ s.registry.mode = mode)
    (h : b.deliver o e s = .ok n s') : s'.registry.Sound ∧ s'.registry.mode = mode := by
  have hhandle : ∀ d e, Keeps (fun s => s.registry.Sound ∧ s.registry.mode = mode) (b.handle d e) :=
    fun d e => (hu.userAct d e).keeps (lasting_sound _ mode)
  have hkeeps := Lasting.keeps_deliver (o := o) hhandle
    (lasting_sound (fun _ => True) mode) trivial e s hs
  rwa [endState_of_ok h] at hkeeps

/-- One acknowledgment settles each message that is delivered, wherever handlers left
the registry. -/
theorem deliverEach_tells (hb : b.deadLetters = .byPolicy) (hu : b.Sociable o name) (n : Nat)
    {ms : List Message} (hm : ∀ m ∈ ms, m.fragile = false) {s : State ω}
    (hs : s.registry.Sound ∧ s.registry.mode = .unicast) :
    ∃ acks, Tells o (b.deliverEach o (b.envelopes n ms)) s (acks.filterMap Ack.error?).length acks ∧
      List.Forall₂ (Settles b) ms acks := by
  induction ms generalizing n s with
  | nil => exact ⟨[], .pure 0, .nil⟩
  | cons m ms ih =>
      have he : (Envelope.wrap (b.stamp n) m).message.fragile = false := hm m List.mem_cons_self
      obtain ⟨failure?, h, hnames⟩ :=
        deliver_tells hb hu he (hs.1.length_dispatchersFor_le_one hs.2 _)
      obtain ⟨s₁, h₁, hacks₁⟩ := h
      have hs₁ := hu.deliver_sound hs h₁
      have hms : ∀ m' ∈ ms, m'.fragile = false := fun m' h => hm m' (List.mem_cons_of_mem m h)
      cases failure? with
      | none =>
          obtain ⟨acks, ⟨s₂, h₂, hacks₂⟩, hsettles⟩ :=
            ih (n + 1) hms (s := s₁.extend [.acknowledged o (.next m)] [] s₁.outside) hs₁
          refine ⟨.next m :: acks, ⟨s₂, ?_, ?_⟩, .cons .next hsettles⟩
          · rw [envelopes, deliverEach, bind_of_ok h₁]
            refine (bind_of_ok (acknowledge_eq _ _ _)).trans ((bind_of_ok h₂).trans ?_)
            exact congrArg (EStateM.Result.ok · s₂) (Nat.zero_add _)
          · rw [hacks₂, State.journal_extend, acksFor_append, hacks₁]
            simp
      | some err =>
          obtain ⟨acks, ⟨s₂, h₂, hacks₂⟩, hsettles⟩ := ih (n + 1) hms hs₁
          obtain ⟨hid, hclass⟩ := hnames err rfl
          refine ⟨.error err :: acks, ⟨s₂, ?_, ?_⟩, .cons (.failed hid hclass) hsettles⟩
          · rw [envelopes, deliverEach, bind_of_ok h₁]
            refine (bind_of_ok h₂).trans ?_
            exact congrArg (EStateM.Result.ok · s₂) (Nat.add_comm _ _)
          · rw [hacks₂, hacks₁]
            simp

/-- If the store turns messages away, all of them fail. -/
theorem acknowledgeUnstored_tells (b : Bus ω) (o : ObserverId) (e : StoreError)
    (ms : List Message) (s : State ω) :
    ∃ acks, Tells o (acknowledgeUnstored o e ms) s () acks ∧
      (acks.filterMap Ack.error?).length = ms.length ∧ List.Forall₂ (Settles b) ms acks := by
  let failures := ms.map (PostError.notStored · e)
  refine ⟨failures.map .error, ?_, ?_, ?_⟩
  · have h := Tells.of_extend (o := o) (acknowledgeUnstored_eq o e ms s)
    rw [acksFor_acknowledged] at h
    rwa [List.map_map]
  · rw [filterMap_error?_errors, List.length_map]
  · rw [List.map_map, List.forall₂_map_right_iff, List.forall₂_same]
    exact fun m _ => .failed rfl rfl

theorem dispatchBatch_tells (hb : b.deadLetters = .byPolicy) (hu : b.Sociable o name)
    {ms : List Message} (hm : ∀ m ∈ ms, m.fragile = false) {s : State ω}
    (hs : s.registry.Sound ∧ s.registry.mode = .unicast) :
    ∃ acks, Tells o (b.dispatchBatch o ms) s (acks.filterMap Ack.error?).length acks ∧
      List.Forall₂ (Settles b) ms acks := by
  cases ms with
  | nil => exact ⟨[], .pure 0, .nil⟩
  | cons m ms =>
      have hoffer := offer_eq b rfl (fun _ => hm) s
      generalize hs₁ : (s.storing (b.storage.after (m :: ms) s.store)).extend
        (b.offerEntries (m :: ms)) [] s.outside = s₁ at hoffer
      have hjournal : acksFor o s₁.journal = acksFor o s.journal := by
        rw [← hs₁, State.journal_extend, acksFor_append, acksFor_offer, List.append_nil]
        rfl
      cases ha : b.storage.answer (m :: ms) s.store with
      | error e =>
          rw [ha] at hoffer
          have htrace := trace_eq b .warn "storing batch failed; batch not dispatched"
            [("error", .text e.message), ("messages", .number (m :: ms).length)] s₁
          obtain ⟨acks, ⟨s₂, h₂, hacks⟩, hlength, hsettles⟩ :=
            acknowledgeUnstored_tells b o e (m :: ms) (s₁.extend [] _ s₁.outside)
          refine ⟨acks, ⟨s₂, ?_, ?_⟩, hsettles⟩
          · refine (bind_of_ok hoffer).trans ((bind_of_ok htrace).trans ((bind_of_ok h₂).trans ?_))
            rw [hlength]
            rfl
          · rw [hacks, State.journal_extend, List.append_nil, hjournal]
      | ok =>
          rw [ha] at hoffer
          have hsound : s₁.registry.Sound ∧ s₁.registry.mode = .unicast := hs₁ ▸ hs
          have hwrap := b.wrapAll_eq (m :: ms) s₁
          obtain ⟨acks, ⟨s₂, h₂, hacks⟩, hsettles⟩ :=
            deliverEach_tells hb hu s₁.made.length hm (s := s₁.making _) hsound
          refine ⟨acks, ⟨s₂, ?_, hacks.trans (congrArg (· ++ acks) hjournal)⟩, hsettles⟩
          exact (bind_of_ok hoffer).trans ((bind_of_ok hwrap).trans h₂)

/-- The rejection of a message settles it. -/
theorem settles_of_rejected (b : Bus ω) (batch : List Message) (w : ω) :
    ∀ j ∈ (thread (judgement b.sieves) batch w).1, ∀ e, j.failure? = some e →
      Settles b j.message (.error e) := by
  intro j hj e he
  obtain ⟨m, _, w', rfl⟩ := exists_of_mem_thread hj
  obtain ⟨f, hf, w'', hv⟩ := exists_of_failure? he
  rw [message_judgement]
  exact .rejected hf hv

/-- Rejections and what becomes of the accepted messages, each in its place. -/
theorem exists_settled {R : Message → Ack → Prop} {js : List Judgement} {acks : List Ack}
    (hrejected : ∀ j ∈ js, ∀ e, j.failure? = some e → R j.message (.error e))
    (haccepted : List.Forall₂ R (accepted js) acks) :
    ∃ all, ((rejections js).map Ack.error ++ acks).Perm all ∧
      List.Forall₂ R (js.map Judgement.message) all := by
  induction js generalizing acks with
  | nil =>
      cases haccepted
      exact ⟨[], .nil, .nil⟩
  | cons j js ih =>
      have hrest : ∀ j' ∈ js, ∀ e, j'.failure? = some e → R j'.message (.error e) :=
        fun j' hj' => hrejected j' (List.mem_cons_of_mem j hj')
      cases hj : j.failure? with
      | none =>
          rw [accepted, List.filterMap_cons_some (Judgement.accepted?_of_accepted hj)] at haccepted
          cases haccepted with
          | @cons _ a _ acks ha hacks =>
              obtain ⟨all, hperm, hall⟩ := ih hrest hacks
              refine ⟨a :: all, ?_, .cons ha hall⟩
              rw [rejections, List.filterMap_cons_none hj]
              exact List.perm_middle.trans (hperm.cons a)
      | some e =>
          rw [accepted, List.filterMap_cons_none (Judgement.accepted?_of_rejected hj)] at haccepted
          obtain ⟨all, hperm, hall⟩ := ih hrest haccepted
          refine ⟨.error e :: all, ?_, .cons (hrejected j List.mem_cons_self e hj) hall⟩
          rw [rejections, List.filterMap_cons_some hj]
          exact hperm.cons (.error e)

/-- An acknowledgment that settles a message is positive or negative, and not both. -/
theorem length_settled {ms : List Message} {acks : List Ack}
    (h : List.Forall₂ (Settles b) ms acks) :
    (acks.filterMap Ack.next?).length + (acks.filterMap Ack.error?).length = ms.length := by
  induction h with
  | nil => rfl
  | cons ha _ ih =>
      rw [List.length_cons, ← ih]
      cases ha with
      | next => exact Nat.add_right_comm _ 1 _
      | failed => rfl
      | rejected => rfl

/-- On a command bus every message of a batch is settled by one acknowledgment, whatever
happened before and whatever handlers do.  No other acknowledgment is given, but for
that of completion. -/
theorem postAll_settles {added : List (Sieve ω)} (hb : b.BelongsTo .commands added)
    (hu : b.Sociable o name) {batch : List Message} (hm : ∀ m ∈ batch, m.fragile = false)
    {s : State ω} (hs : Reached Family.commands.mode s) :
    ∃ s' told outcomes, b.postAll o batch s = .ok () s' ∧
      acksFor o s'.journal = acksFor o s.journal ++ told
        ++ (if (told.filterMap Ack.error?).isEmpty then [.completed] else []) ∧
      told.Perm outcomes ∧ List.Forall₂ (Settles b) batch outcomes ∧
      (told.filterMap Ack.next?).length + (told.filterMap Ack.error?).length = batch.length := by
  have hsift := sift_eq b o batch s
  have haccepted : ∀ m ∈ accepted (thread (judgement b.sieves) batch s.outside).1,
      m.fragile = false := fun m h => hm m (mem_of_mem_accepted h)
  have hrejected := settles_of_rejected b batch s.outside
  have hmessages : (thread (judgement b.sieves) batch s.outside).1.map Judgement.message =
      batch.map id := map_thread (message_judgement b.sieves) batch s.outside
  generalize thread (judgement b.sieves) batch s.outside = judged at *
  let s₁ := s.extend (judged.1.flatMap (Judgement.entries o))
    (b.logged (judged.1.flatMap Judgement.logs)) judged.2
  have hs₁ : s₁.registry.Sound ∧ s₁.registry.mode = .unicast := hs.sound
  obtain ⟨acks, ⟨s₂, h₂, hacks⟩, hsettles⟩ := dispatchBatch_tells hb.deadLetters_eq hu haccepted hs₁
  obtain ⟨outcomes, hperm, hall⟩ := exists_settled hrejected hsettles
  rw [hmessages, List.map_id] at hall
  let told : List Ack := (rejections judged.1).map .error ++ acks
  have herrors : (told.filterMap Ack.error?).length =
      (rejections judged.1).length + (acks.filterMap Ack.error?).length := by
    rw [List.filterMap_append, filterMap_error?_errors, List.length_append]
  have htold : acksFor o s₂.journal = acksFor o s.journal ++ told := by
    rw [hacks, State.journal_extend, acksFor_append, acksFor_judgements, List.append_assoc]
  have hend := conclude_eq b o batch.length (told.filterMap Ack.error?) s₂
  rw [herrors] at hend
  refine ⟨_, told, outcomes, (bind_of_ok hsift).trans ((bind_of_ok h₂).trans hend), ?_, hperm,
    hall, ?_⟩
  · rw [State.journal_extend, acksFor_append, htold]
    cases (told.filterMap Ack.error?).isEmpty with
    | true => exact congrArg _ (acksFor_acknowledged_cons o _ [])
    | false => rfl
  · rw [(hperm.filterMap _).length_eq, (hperm.filterMap _).length_eq]
    exact length_settled hall

end

/-- A command bus whose one dispatcher closes it. -/
def lastOrder : Bus Unit :=
  let quiet :=
    ofFamily .commands .forCommands [] (fun _ _ => pure (.ok ⟨[]⟩)) fun _ _ => .ok "barkeep"
  { quiet with
    handle := fun _ _ => do
      quiet.close
      pure (.ok ⟨["bar"]⟩) }

/-- The first order closes the bar, and the second comes too late. -/
theorem postAll_settles_lastOrder :
    let first : Message := { (default : Message) with messageClass := ⟨"order"⟩, kind := .command }
    let second : Message := { first with body := "the same" }
    let s : State Unit :=
      endState (lastOrder.register ⟨0⟩ [⟨"order"⟩]) { registry := .empty .unicast, outside := () }
    ∃ s', ∃ told outcomes : List Ack, lastOrder.postAll ⟨7⟩ [first, second] s = .ok () s' ∧
      acksFor ⟨7⟩ s'.journal = [.next first, .error (.noDispatcherFound second.id ⟨"order"⟩)] ∧
      told.Perm outcomes ∧ List.Forall₂ (Settles lastOrder) [first, second] outcomes ∧
      (told.filterMap Ack.next?).length + (told.filterMap Ack.error?).length = 2 := by
  intro first second s
  have hu : lastOrder.Sociable ⟨7⟩ fun _ _ => "barkeep" :=
    { userAct := fun _ _ => .bind (.close _) fun _ => .pure _
      returns := fun _ _ _ _ => ⟨_, _, rfl⟩
      nameOf_eq := fun _ _ => rfl }
  have hs : Reached Family.commands.mode s := .next (.start {} ()) (.register _ _ _)
  obtain ⟨s', told, outcomes, hend, _, hperm, hall, hcount⟩ :=
    postAll_settles (⟨rfl, rfl⟩ : lastOrder.BelongsTo .commands []) hu
      (by decide : ∀ m ∈ [first, second], m.fragile = false) hs
  refine ⟨s', told, outcomes, hend, ?_, hperm, hall, hcount⟩
  rw [← endState_of_ok hend]
  decide +kernel

end Switchboard.Bus
