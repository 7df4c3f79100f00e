import Switchboard.Proofs.Forwarding.Pruning

/-!
# After a dispatch broke off

A dispatch breaks off where its first copy does, before any subscription got one, and it leaves
the lock of the senders poisoned.  No use of the forwarder touches the senders again
(`senders_after`), so every later dispatch fails, nobody is counted, and a subscription that is
made has no sender.  But the queues are not behind the lock: whoever reads a subscription gets
what was queued before, in order, until there is no more (`received_of_poisoned`).

`dispatch_fragile` puts this together.  A dispatch of an envelope that cannot be copied breaks off
if a sender is there to copy it for, and if the lock is whole.  Behind a poisoned lock it fails
like any other (`not_broken_off_twice`).
-/

namespace Switchboard.Bus.Forwarder

variable {f : Forwarder} {e : Envelope} {i j : SubscriptionId} {us : List Use} {u : Use}

/-- How often a subscription is read in the course of some uses, as long as it is not dropped. -/
def reads (i : SubscriptionId) : List Use → Nat
  | [] => 0
  | .receive j _ :: us => (if j = i then 1 else 0) + reads i us
  | .drop j :: us => if j = i then 0 else reads i us
  | .subscribe :: us | .dispatch _ :: us => reads i us

/-! ## An empty list of senders -/

theorem reached_of_nil (h : f.senders.value = []) : f.reached = [] := by
  rw [reached, h, List.filter_nil]

theorem broadcast_of_nil (h : f.senders.value = []) (e : Envelope) : f.broadcast e = f := by
  have hinboxes : push e [] f.inboxes = f.inboxes := by simp [push]
  have hsenders : f.senders.write [] = f.senders := by rw [← h]; rfl
  rw [broadcast, reached_of_nil h, hinboxes, hsenders]

/-! ## Behind a poisoned lock -/

theorem dispatch_of_poisoned (h : f.senders.poisoned = true) (e : Envelope) :
    dispatch e f = .ok (.error ⟨"subscriber list lock poisoned"⟩) f :=
  if_pos h

theorem subscriberCount_of_poisoned (h : f.senders.poisoned = true) : f.subscriberCount = 0 := by
  rw [subscriberCount, Guarded.read?_of_poisoned h, Option.getD_none, List.length_nil]

/-- No use touches the senders. -/
theorem senders_after (h : f.senders.poisoned = true) (u : Use) :
    (u.after f).senders = f.senders := by
  cases u with
  | subscribe => exact if_pos h
  | drop j => rfl
  | dispatch e => rw [Use.after, endState_of_ok (dispatch_of_poisoned h e)]
  | receive j held => exact (senders_receive f j held).1

theorem senders_run (h : f.senders.poisoned = true) (us : List Use) :
    (run us f).senders = f.senders := by
  induction us generalizing f with
  | nil => rfl
  | cons u us ih =>
      have hu := senders_after h u
      rw [run, ih (hu ▸ h), hu]

/-! ## Queues -/

theorem queue_subscribe (f : Forwarder) (i : SubscriptionId) :
    f.subscribe.2.queue i = f.queue i := by
  rw [queue, lookup_subscribe, queue]
  cases List.lookup i f.inboxes with
  | some q => rfl
  | none => split <;> rfl

theorem queue_drop (f : Forwarder) (i j : SubscriptionId) :
    (f.drop j).queue i = if j = i then [] else f.queue i := by
  rw [queue, lookup_drop, queue]
  split <;> rfl

theorem queue_receive (f : Forwarder) (i j : SubscriptionId) (held : Bool) :
    (f.receive j held).2.queue i = if j = i then (f.queue i).tail else f.queue i := by
  rw [queue, lookup_receive, queue]
  split
  · cases List.lookup i f.inboxes <;> rfl
  · rfl

/-- What is taken out first, and then what is taken out of the rest. -/
theorem head_append_take_tail {α : Type} (q : List α) (n : Nat) :
    q.head?.toList ++ q.tail.take n = q.take (1 + n) := by
  rw [Nat.add_comm]
  cases q with
  | nil => simp
  | cons a q => rfl

/-- Whoever reads a subscription gets what was queued before, in order, and nothing else. -/
theorem received_of_poisoned (h : f.senders.poisoned = true) (us : List Use) (i : SubscriptionId) :
    received i us f = (f.queue i).take (reads i us) := by
  induction us generalizing f with
  | nil => exact List.take_zero.symm
  | cons u us ih =>
      rw [received, ih ((senders_after h u).symm ▸ h)]
      cases u with
      | subscribe =>
          rw [Use.after, queue_subscribe]
          rfl
      | drop j =>
          rw [Use.after, queue_drop, reads]
          split
          · rw [List.take_nil, List.take_zero]
            rfl
          · rfl
      | dispatch e =>
          rw [Use.after, endState_of_ok (dispatch_of_poisoned h e)]
          rfl
      | receive j held =>
          rw [Use.after, queue_receive, received_mailbox, Mailbox.received, ← queue_eq, reads]
          split
          · exact head_append_take_tail _ _
          · rw [Nat.zero_add]
            rfl

/-- What is not queued behind a poisoned lock never is. -/
theorem queue_run_nil (h : f.senders.poisoned = true) (hi : f.queue i = []) (us : List Use) :
    (run us f).queue i = [] := by
  induction us generalizing f with
  | nil => exact hi
  | cons u us ih =>
      refine ih ((senders_after h u).symm ▸ h) ?_
      cases u with
      | subscribe => exact (queue_subscribe f i).trans hi
      | drop j => rw [Use.after, queue_drop, hi, ite_self]
      | dispatch e => rw [Use.after, endState_of_ok (dispatch_of_poisoned h e), hi]
      | receive j held => rw [Use.after, queue_receive, hi, List.tail_nil, ite_self]

/-! ## New subscriptions -/

theorem made_le_after (u : Use) (f : Forwarder) : f.made ≤ (u.after f).made := by
  cases u with
  | subscribe => exact Nat.le_succ _
  | drop j => exact Nat.le_refl _
  | dispatch e => rcases after_dispatch e f with h | h | h <;> simp [h, broadcast]
  | receive j held => exact Nat.le_of_eq (senders_receive f j held).2.symm

/-- A subscription is not live before it is made. -/
theorem made_of_isLive_run (name : String) (us : List Use) :
    (run us { name := name }).isLive i = true → i.index < (run us { name := name }).made := by
  induction us using List.reverseRecOn with
  | nil => exact fun h => absurd h Bool.false_ne_true
  | append_singleton us u ih =>
      rw [run_append]
      intro h
      rcases (isLive_after u _ i).1 h with ⟨rfl, rfl⟩ | ⟨hlive, -⟩
      · exact Nat.lt_succ_self _
      · exact Nat.lt_of_lt_of_le (ih hlive) (made_le_after u _)

theorem queue_of_not_live (h : ¬ f.isLive i = true) : f.queue i = [] := by
  rw [isLive_eq_isSome, Option.not_isSome_iff_eq_none] at h
  rw [queue, h, Option.getD_none]

/-- A subscription that is made behind a poisoned lock never gets anything, whatever is done
afterwards. -/
theorem disconnected_run {name : String} (us later : List Use) (held : Bool)
    (h : (run us { name := name }).senders.poisoned = true) :
    let made := (run us { name := name }).subscribe
    received made.1 later made.2 = [] ∧
      ((run later made.2).receive made.1 held).1 = .disconnected := by
  intro made
  have hfresh : ¬ (run us { name := name }).isLive made.1 = true := fun hlive =>
    Nat.lt_irrefl _ (made_of_isLive_run name us hlive)
  have hpoisoned : made.2.senders.poisoned = true := (senders_after h .subscribe).symm ▸ h
  have hqueue : made.2.queue made.1 = [] := (queue_subscribe _ _).trans (queue_of_not_live hfresh)
  have hempty : (run later made.2).queue made.1 = [] := queue_run_nil hpoisoned hqueue later
  have hsenders : (run later made.2).senders = (run us { name := name }).senders :=
    (senders_run hpoisoned later).trans (senders_after h .subscribe)
  have hsender : made.1 ∉ (run us { name := name }).senders.value := fun hmem =>
    Nat.lt_irrefl _ (((sound_new name).run us).senders_made _ hmem)
  constructor
  · rw [received_of_poisoned hpoisoned, hqueue, List.take_nil]
  · rw [receive_of_nil hempty, hsenders, if_neg (by simp [hsender])]

/-- A new forwarder is used in any order, and then it is handed an envelope that cannot be copied.
If its lock is whole and it has no senders, that fails and changes nothing.  If it has senders, it
breaks off, and nobody receives the envelope.  Whatever is done afterwards, every dispatch fails,
nobody is counted, a new subscription is disconnected and never receives anything, and what the
earlier ones receive is what was queued for them before, in order.  If the lock was poisoned
already, the envelope is refused like any other. -/
theorem dispatch_fragile (name : String) (us : List Use) (e : Envelope)
    (hfragile : e.message.fragile = true) :
    let f := run us { name := name }
    let refused : Except DispatchError Targets := .error ⟨"subscriber list lock poisoned"⟩
    (f.senders.poisoned = true → dispatch e f = .ok refused f) ∧
      (f.senders.poisoned = false → f.senders.value = [] →
        dispatch e f = .ok (.error ⟨"`" ++ name ++ "` has no live subscribers"⟩) f) ∧
      (f.senders.poisoned = false → f.senders.value ≠ [] →
        ∃ p broken, dispatch e f = .error p broken ∧
          (∀ i, broken.isLive i = f.isLive i ∧ broken.queue i = f.queue i) ∧
          ∀ later : List Use,
            let g := run later broken
            (∀ e', dispatch e' g = .ok refused g) ∧ g.subscriberCount = 0 ∧
              (∀ further held,
                received g.subscribe.1 further g.subscribe.2 = [] ∧
                  ((run further g.subscribe.2).receive g.subscribe.1 held).1 = .disconnected) ∧
              ∀ i, received i later broken = (f.queue i).take (reads i later)) := by
  intro f refused
  refine ⟨fun h => dispatch_of_poisoned h e, fun hwhole hnil => ?_, fun hwhole hne => ?_⟩
  · rw [dispatch_of_copyable hwhole (.inl hnil), if_pos (reached_of_nil hnil),
      broadcast_of_nil hnil, name_run]
  · obtain ⟨p, -, hp⟩ := dispatch_of_fragile hwhole hne hfragile
    refine ⟨p, _, hp, fun i => ⟨rfl, rfl⟩, fun later => ?_⟩
    generalize hbroken : { f with senders := f.senders.poison f.senders.value } = broken at hp ⊢
    have hpoisoned : broken.senders.poisoned = true := hbroken ▸ rfl
    have hlater : (run later broken).senders.poisoned = true :=
      (senders_run hpoisoned later).symm ▸ hpoisoned
    -- what is done later is done to a forwarder that was new once
    have hrun : run later broken = run (us ++ .dispatch e :: later) { name := name } := by
      rw [run_append, run, Use.after, endState_of_error hp]
    refine ⟨dispatch_of_poisoned hlater, subscriberCount_of_poisoned hlater,
      fun further held => ?_, fun i => ?_⟩
    · rw [hrun] at hlater ⊢
      exact disconnected_run _ further held hlater
    · rw [received_of_poisoned hpoisoned, ← hbroken]
      rfl

/-- A dispatch broke off while one subscription had an envelope and another one had none.  Then a
third one is made. -/
theorem dispatch_fragile_visit :
    let torn : Envelope := .wrap default { (default : Message) with fragile := true }
    let before : List Use :=
      [.subscribe, .dispatch (letter "a"), .dispatch (letter "b"), .subscribe]
    let f := run before { name := "outbox" }
    let later : List Use := [.receive ⟨0⟩ true, .subscribe, .dispatch (letter "c"),
      .receive ⟨0⟩ true, .receive ⟨1⟩ true, .receive ⟨0⟩ true]
    torn.message.fragile = true ∧ f.senders.poisoned = false ∧ f.senders.value ≠ [] ∧
      ∃ p broken, dispatch torn f = .error p broken ∧
        dispatch (letter "c") (run later broken) =
          .ok (.error ⟨"subscriber list lock poisoned"⟩) (run later broken) ∧
        (run later broken).subscriberCount = 0 ∧
        received ⟨0⟩ later broken = [letter "a", letter "b"] ∧ received ⟨1⟩ later broken = [] := by
  intro torn before f later
  have hwhole : f.senders.poisoned = false := rfl
  have hne : f.senders.value ≠ [] := by decide
  obtain ⟨-, -, hbreaks⟩ := dispatch_fragile "outbox" before torn rfl
  obtain ⟨p, broken, hp, -, hlater⟩ := hbreaks hwhole hne
  obtain ⟨hrefused, hcount, -, hreceived⟩ := hlater later
  refine ⟨rfl, hwhole, hne, p, broken, hp, hrefused _, hcount, ?_, ?_⟩
  · exact (hreceived ⟨0⟩).trans (by decide)
  · exact (hreceived ⟨1⟩).trans (by decide)

/-- The second of two envelopes that cannot be copied does not break a dispatch off. -/
theorem not_broken_off_twice :
    ¬ ∀ (name : String) (us : List Use) (e : Envelope),
      e.message.fragile = true → (run us { name := name }).senders.value ≠ [] →
        ∃ p broken, dispatch e (run us { name := name }) = .error p broken := by
  intro h
  let torn : Envelope := .wrap default { (default : Message) with fragile := true }
  obtain ⟨p, broken, hp⟩ := h "outbox" [.subscribe, .dispatch torn] torn rfl (by decide)
  cases hp

end Switchboard.Bus.Forwarder
