import Mathlib.Data.List.Nodup
import Switchboard.Bus.Forwarder

/-!
# What subscriptions receive

A forwarder is used in any order: it gets new subscriptions, some of them are dropped, it
is handed envelopes, and subscriptions take them out (`Use`).  As long as no copy panics,
each subscription might as well be alone.  What it sees of the forwarder is a `Mailbox`,
which every envelope enters at one end and leaves at the other, and what the other
subscriptions do goes unseen (`mailbox_after`).

So a live subscription has one sender, and it has received or still keeps the envelopes
that were dispatched since it was made, all of them, once and in order
(`received_append_queue`).  The senders carry the argument.  A dispatch sends to those of
live subscriptions and prunes the rest, so a sender can only be lost together with its
subscription (`Sound`).
-/

namespace Switchboard.Bus

/-- The envelope that was taken out, if there was one. -/
def Receipt.envelope? : Receipt → Option Envelope
  | envelope e => some e
  | empty | disconnected => none

namespace Forwarder

/-! ## Uses -/

/-- An operation on a forwarder or on one of its subscriptions. -/
inductive Use where
  | subscribe
  | drop (i : SubscriptionId)
  | dispatch (e : Envelope)
  /-- `held` says whether anybody still holds the forwarder. -/
  | receive (i : SubscriptionId) (held : Bool)

namespace Use

/-- The forwarder after a use, also after one that panics. -/
def after : Use → Forwarder → Forwarder
  | subscribe, f => f.subscribe.2
  | drop i, f => f.drop i
  | dispatch e, f => endState (Forwarder.dispatch e) f
  | receive i held, f => (f.receive i held).2

/-- Whether a use breaks off. -/
def Panics (u : Use) (f : Forwarder) : Prop :=
  ∃ e p f', u = dispatch e ∧ Forwarder.dispatch e f = .error p f'

/-- What a subscription receives in a use. -/
def received (i : SubscriptionId) : Use → Forwarder → List Envelope
  | receive j held, f => if j = i then (f.receive j held).1.envelope?.toList else []
  | _, _ => []

def dispatched? : Use → Option Envelope
  | dispatch e => some e
  | _ => none

/-- Whether a use is not only about other subscriptions. -/
def concerns (i : SubscriptionId) : Use → Bool
  | drop j | receive j _ => j = i
  | subscribe | dispatch _ => true

end Use

/-- The forwarder after some uses. -/
def run : List Use → Forwarder → Forwarder
  | [], f => f
  | u :: us, f => run us (u.after f)

/-- What a subscription receives in the course of some uses. -/
def received (i : SubscriptionId) : List Use → Forwarder → List Envelope
  | [], _ => []
  | u :: us, f => u.received i f ++ received i us (u.after f)

/-- Whether no use breaks off. -/
def Unbroken : List Use → Forwarder → Prop
  | [], _ => True
  | u :: us, f => ¬ u.Panics f ∧ Unbroken us (u.after f)

/-- The envelopes that are dispatched in the course of some uses. -/
def dispatched (us : List Use) : List Envelope := us.filterMap Use.dispatched?

/-! ## Dispatching -/

variable {f : Forwarder} {e : Envelope} {i j : SubscriptionId}

/-- The subscriptions that a dispatch reaches. -/
def reached (f : Forwarder) : List SubscriptionId := f.senders.value.filter f.isLive

/-- A forwarder after a dispatch that went through. -/
def broadcast (e : Envelope) (f : Forwarder) : Forwarder :=
  { f with senders := f.senders.write f.reached, inboxes := push e f.reached f.inboxes }

/-- The ways in which a dispatch can end. -/
inductive Dispatched (e : Envelope) (f : Forwarder) :
    EStateM.Result Panic Forwarder (Except DispatchError Targets) → Prop where
  | poisoned (h : f.senders.poisoned = true) :
      Dispatched e f (.ok (.error ⟨"subscriber list lock poisoned"⟩) f)
  | panicked (p : Panic) (h : f.senders.poisoned = false) (hcopy : e.message.copy = .error p) :
      Dispatched e f (.error p { f with senders := f.senders.poison f.senders.value })
  | unheard (h : f.senders.poisoned = false) (hreached : f.reached = []) :
      Dispatched e f (.ok (.error ⟨"`" ++ f.name ++ "` has no live subscribers"⟩) (f.broadcast e))
  | heard (h : f.senders.poisoned = false) (hreached : f.reached ≠ []) :
      Dispatched e f (.ok (.ok (targets f.name f.reached.length)) (f.broadcast e))

theorem dispatched_dispatch (e : Envelope) (f : Forwarder) : Dispatched e f (dispatch e f) := by
  -- what a dispatch does that goes through
  have hthrough (h : f.senders.poisoned = false) :
      Dispatched e f
        (if f.reached.isEmpty then
          .ok (.error ⟨"`" ++ f.name ++ "` has no live subscribers"⟩) (f.broadcast e)
        else .ok (.ok (targets f.name f.reached.length)) (f.broadcast e)) := by
    split
    · next hempty => exact .unheard h (List.isEmpty_iff.1 hempty)
    · next hempty => exact .heard h fun hnil => hempty (List.isEmpty_iff.2 hnil)
  rw [dispatch]
  split
  · next h => exact .poisoned h
  · next h =>
      rw [Bool.not_eq_true] at h
      split
      · next hcopy => exact .panicked _ h hcopy
      · exact hthrough h

theorem dispatch_of_not_panics (h : ¬ (Use.dispatch e).Panics f)
    (hwhole : f.senders.poisoned = false) : (Use.dispatch e).after f = f.broadcast e := by
  have hd := dispatched_dispatch e f
  generalize hr : dispatch e f = r at hd
  cases hd with
  | poisoned hp => rw [hp] at hwhole; cases hwhole
  | panicked p _ _ => exact absurd ⟨e, p, _, rfl, hr⟩ h
  | unheard _ _ => exact endState_of_ok hr
  | heard _ _ => exact endState_of_ok hr

/-! ## Inboxes -/

theorem isLive_eq_isSome : f.isLive i = (List.lookup i f.inboxes).isSome := by
  rw [isLive, Bool.eq_iff_iff, List.lookup_isSome_iff, List.any_eq_true]
  exact exists_congr fun b => and_congr_right fun _ => by rw [BEq.comm]

/-- The queue of a subscription after a change that leaves every queue with its owner. -/
theorem lookup_map_entries {g : SubscriptionId × List Envelope → SubscriptionId × List Envelope}
    (hg : ∀ b, (g b).1 = b.1) (i : SubscriptionId) (boxes : List (SubscriptionId × List Envelope)) :
    List.lookup i (boxes.map g) = (List.lookup i boxes).map fun q => (g (i, q)).2 := by
  induction boxes with
  | nil => rfl
  | cons b boxes ih =>
      rw [List.map_cons, List.lookup_cons, List.lookup_cons, hg b]
      cases hb : i == b.1 with
      | false => exact ih
      | true => rw [eq_of_beq hb]; rfl

theorem lookup_push (e : Envelope) (receivers : List SubscriptionId) (i : SubscriptionId)
    (boxes : List (SubscriptionId × List Envelope)) :
    List.lookup i (push e receivers boxes) =
      (List.lookup i boxes).map fun q => if i ∈ receivers then q ++ [e] else q := by
  rw [push, lookup_map_entries fun b => by split <;> rfl]
  congr 1
  funext q
  split <;> rfl

theorem lookup_drop (f : Forwarder) (i j : SubscriptionId) :
    List.lookup i (f.drop j).inboxes = if j = i then none else List.lookup i f.inboxes := by
  rw [drop]
  induction f.inboxes with
  | nil => simp
  | cons b boxes ih =>
      by_cases hb : b.1 = j
      · rw [List.filter_cons_of_neg (by simpa using hb), ih]
        split
        · rfl
        · next hij => rw [List.lookup_cons, beq_false_of_ne fun hi => hij (hb.symm.trans hi.symm)]
      · rw [List.filter_cons_of_pos (by simpa using hb), List.lookup_cons, List.lookup_cons, ih]
        split
        · next hi => rw [if_neg fun hj => hb ((eq_of_beq hi).symm.trans hj.symm)]
        · rfl

theorem lookup_subscribe (f : Forwarder) (i : SubscriptionId) :
    List.lookup i f.subscribe.2.inboxes =
      (List.lookup i f.inboxes).or (if i = ⟨f.made⟩ then some [] else none) := by
  rw [subscribe, List.lookup_append, List.lookup_cons]
  split
  · next hi => rw [if_pos (eq_of_beq hi)]
  · next hi => rw [if_neg fun h => by simp [h] at hi, List.lookup_nil]

theorem receive_of_nil (h : f.queue j = []) (held : Bool) :
    f.receive j held =
      (if held && f.senders.value.contains j then .empty else .disconnected, f) := by
  rw [receive, h]

theorem receive_of_cons {rest : List Envelope} (h : f.queue j = e :: rest) (held : Bool) :
    f.receive j held = (.envelope e,
      { f with inboxes := f.inboxes.map fun b => if b.1 = j then (j, rest) else b }) := by
  rw [receive, h]

theorem senders_receive (f : Forwarder) (j : SubscriptionId) (held : Bool) :
    (f.receive j held).2.senders = f.senders ∧ (f.receive j held).2.made = f.made := by
  rw [receive]
  split <;> exact ⟨rfl, rfl⟩

/-- Taking an envelope out of a subscription leaves the rest of its queue. -/
theorem lookup_receive (f : Forwarder) (i j : SubscriptionId) (held : Bool) :
    List.lookup i (f.receive j held).2.inboxes =
      if j = i then (List.lookup i f.inboxes).map List.tail else List.lookup i f.inboxes := by
  cases hq : f.queue j with
  | nil =>
      have hsame : (f.receive j held).2 = f := by rw [receive_of_nil hq]
      rw [hsame]
      split
      · next hij =>
          rw [queue, hij] at hq
          cases hl : List.lookup i f.inboxes with
          | none => rfl
          | some q =>
              rw [hl, Option.getD_some] at hq
              rw [hq]
              rfl
      · rfl
  | cons e rest =>
      have howner (b : SubscriptionId × List Envelope) :
          (if b.1 = j then (j, rest) else b).1 = b.1 := by
        split
        · next h => exact h.symm
        · rfl
      rw [receive_of_cons hq, lookup_map_entries howner]
      split
      · next hij =>
          rw [queue, hij] at hq
          cases hl : List.lookup i f.inboxes with
          | none => rfl
          | some q =>
              rw [hl, Option.getD_some] at hq
              simp [hij, hq]
      · next hij => simp [Ne.symm hij]

/-! ## Mailboxes -/

/-- What one subscription sees of a forwarder: how many subscriptions were made, and its own
queue while it is live. -/
structure Mailbox where
  made : Nat
  queue? : Option (List Envelope)

def mailbox (f : Forwarder) (i : SubscriptionId) : Mailbox := ⟨f.made, List.lookup i f.inboxes⟩

theorem isLive_eq (f : Forwarder) (i : SubscriptionId) : f.isLive i = (f.mailbox i).queue?.isSome :=
  isLive_eq_isSome

theorem queue_eq (f : Forwarder) (i : SubscriptionId) :
    f.queue i = (f.mailbox i).queue?.getD [] := rfl

namespace Mailbox

/-- What a use does to a mailbox. -/
def after (i : SubscriptionId) : Use → Mailbox → Mailbox
  | .subscribe, m => ⟨m.made + 1, m.queue?.or (if i = ⟨m.made⟩ then some [] else none)⟩
  | .drop j, m => { m with queue? := if j = i then none else m.queue? }
  | .dispatch e, m => { m with queue? := m.queue?.map fun q => q ++ [e] }
  | .receive j _, m => { m with queue? := if j = i then m.queue?.map List.tail else m.queue? }

/-- What a use takes out of a mailbox. -/
def received (i : SubscriptionId) : Use → Mailbox → List Envelope
  | .receive j _, m => if j = i then (m.queue?.getD []).head?.toList else []
  | _, _ => []

end Mailbox

/-- What keeps the subscriptions of a forwarder apart and connected. -/
structure Sound (f : Forwarder) : Prop where
  senders_nodup : f.senders.value.Nodup
  senders_made : ∀ i ∈ f.senders.value, i.index < f.made
  /-- While the lock is whole, every live subscription has its sender. -/
  linked : f.senders.poisoned = false → ∀ i, f.isLive i = true → i ∈ f.senders.value

theorem sound_new (name : String) : Sound { name := name } where
  senders_nodup := List.nodup_nil
  senders_made := List.forall_mem_nil _
  linked _ i h := by cases h

theorem Sound.count_eq_one (h : Sound f) (hwhole : f.senders.poisoned = false)
    (hi : f.isLive i = true) : f.senders.value.count i = 1 :=
  List.count_eq_one_of_mem h.senders_nodup (h.linked hwhole i hi)

/-- A dispatch that goes through reaches every live subscription. -/
theorem Sound.mailbox_broadcast (h : Sound f) (hwhole : f.senders.poisoned = false) (e : Envelope)
    (i : SubscriptionId) : (f.broadcast e).mailbox i = (f.mailbox i).after i (.dispatch e) := by
  have hqueue : List.lookup i (push e f.reached f.inboxes) =
      (List.lookup i f.inboxes).map fun q => q ++ [e] := by
    rw [lookup_push]
    cases hl : List.lookup i f.inboxes with
    | none => rfl
    | some q =>
        have hlive : f.isLive i = true := by rw [isLive_eq_isSome, hl]; rfl
        have hreached : i ∈ f.reached := List.mem_filter.2 ⟨h.linked hwhole i hlive, hlive⟩
        simp [hreached]
  exact congrArg (Mailbox.mk f.made) hqueue

/-- What the other subscriptions do goes unseen. -/
theorem Sound.mailbox_after (h : Sound f) (hwhole : f.senders.poisoned = false) {u : Use}
    (hu : ¬ u.Panics f) (i : SubscriptionId) :
    (u.after f).mailbox i = (f.mailbox i).after i u := by
  cases u with
  | subscribe => exact congrArg (Mailbox.mk (f.made + 1)) (lookup_subscribe f i)
  | drop j => exact congrArg (Mailbox.mk f.made) (lookup_drop f i j)
  | dispatch e =>
      rw [dispatch_of_not_panics hu hwhole]
      exact h.mailbox_broadcast hwhole e i
  | receive j held =>
      rw [mailbox, Use.after, (senders_receive f j held).2]
      exact congrArg (Mailbox.mk f.made) (lookup_receive f i j held)

theorem received_mailbox (u : Use) (f : Forwarder) (i : SubscriptionId) :
    u.received i f = (f.mailbox i).received i u := by
  cases u with
  | subscribe => rfl
  | drop j => rfl
  | dispatch e => rfl
  | receive j held =>
      rw [Use.received, Mailbox.received]
      split
      · next hij =>
          rw [← queue_eq, ← hij]
          cases hq : f.queue j with
          | nil =>
              rw [receive_of_nil hq]
              split <;> rfl
          | cons e rest =>
              rw [receive_of_cons hq]
              rfl
      · rfl

/-! ## Soundness -/

theorem isLive_subscribe (f : Forwarder) (i : SubscriptionId) :
    f.subscribe.2.isLive i = true ↔ f.isLive i = true ∨ i = ⟨f.made⟩ := by
  rw [isLive_eq_isSome, isLive_eq_isSome, lookup_subscribe]
  split
  · simp_all
  · simp_all

theorem isLive_of_drop (h : (f.drop j).isLive i = true) : f.isLive i = true := by
  rw [isLive_eq_isSome, lookup_drop] at h
  rw [isLive_eq_isSome]
  split at h
  · cases h
  · exact h

theorem isLive_broadcast (e : Envelope) (f : Forwarder) (i : SubscriptionId) :
    (f.broadcast e).isLive i = f.isLive i := by
  rw [isLive_eq_isSome, isLive_eq_isSome, broadcast, lookup_push, Option.isSome_map]

theorem isLive_receive (f : Forwarder) (i j : SubscriptionId) (held : Bool) :
    (f.receive j held).2.isLive i = f.isLive i := by
  rw [isLive_eq_isSome, isLive_eq_isSome, lookup_receive]
  split
  · rw [Option.isSome_map]
  · rfl

theorem Sound.subscribe (h : Sound f) : Sound f.subscribe.2 := by
  have hfresh : ⟨f.made⟩ ∉ f.senders.value := fun hm => Nat.lt_irrefl _ (h.senders_made _ hm)
  cases hp : f.senders.poisoned with
  | true =>
      have hsenders : f.subscribe.2.senders = f.senders := if_pos hp
      refine ⟨hsenders ▸ h.senders_nodup, fun i hi => ?_, fun hwhole => ?_⟩
      · exact Nat.lt_succ_of_lt (h.senders_made i (hsenders ▸ hi))
      · rw [hsenders, hp] at hwhole
        cases hwhole
  | false =>
      have hsenders : f.subscribe.2.senders.value = f.senders.value ++ [⟨f.made⟩] := by
        simp [Forwarder.subscribe, hp, Guarded.write]
      refine ⟨?_, fun i hi => ?_, fun _ i hi => ?_⟩
      · rw [hsenders]
        exact List.nodup_append_comm.1 (List.nodup_cons.2 ⟨hfresh, h.senders_nodup⟩)
      · rw [hsenders, List.mem_append, List.mem_singleton] at hi
        rcases hi with hi | rfl
        · exact Nat.lt_succ_of_lt (h.senders_made i hi)
        · exact Nat.lt_succ_self _
      · rw [hsenders, List.mem_append, List.mem_singleton]
        rcases (isLive_subscribe f i).1 hi with hi | rfl
        · exact .inl (h.linked hp i hi)
        · exact .inr rfl

theorem Sound.broadcast (h : Sound f) (e : Envelope) : Sound (f.broadcast e) where
  senders_nodup := h.senders_nodup.filter _
  senders_made i hi := h.senders_made i (List.mem_of_mem_filter hi)
  linked hwhole i hi := by
    rw [isLive_broadcast] at hi
    exact List.mem_filter.2 ⟨h.linked hwhole i hi, hi⟩

theorem Sound.after (h : Sound f) (u : Use) : Sound (u.after f) := by
  cases u with
  | subscribe => exact h.subscribe
  | drop j =>
      exact { h with linked := fun hwhole i hi => h.linked hwhole i (isLive_of_drop hi) }
  | dispatch e =>
      have hd := dispatched_dispatch e f
      rw [Use.after, endState]
      generalize dispatch e f = r at hd
      cases hd with
      | poisoned _ => exact h
      | panicked p _ _ => exact { h with linked := fun hwhole => by cases hwhole }
      | unheard _ _ => exact h.broadcast e
      | heard _ _ => exact h.broadcast e
  | receive j held =>
      obtain ⟨hsenders, hmade⟩ := senders_receive f j held
      exact {
        senders_nodup := hsenders ▸ h.senders_nodup
        senders_made := hsenders ▸ hmade ▸ h.senders_made
        linked := fun hwhole i hi => by
          rw [Use.after, hsenders] at hwhole ⊢
          rw [Use.after, isLive_receive] at hi
          exact h.linked hwhole i hi }

/-! ## Runs -/

theorem name_after (u : Use) (f : Forwarder) : (u.after f).name = f.name := by
  cases u with
  | subscribe => rfl
  | drop j => rfl
  | dispatch e =>
      have hd := dispatched_dispatch e f
      rw [Use.after, endState]
      generalize dispatch e f = r at hd
      cases hd <;> rfl
  | receive j held =>
      rw [Use.after, receive]
      split <;> rfl

theorem name_run (us : List Use) (f : Forwarder) : (run us f).name = f.name := by
  induction us generalizing f with
  | nil => rfl
  | cons u us ih => rw [run, ih, name_after]

theorem run_append (us us' : List Use) (f : Forwarder) :
    run (us ++ us') f = run us' (run us f) := by
  induction us generalizing f with
  | nil => rfl
  | cons u us ih => exact ih (u.after f)

theorem Sound.run (h : Sound f) (us : List Use) : Sound (run us f) := by
  induction us generalizing f with
  | nil => exact h
  | cons u us ih => exact ih (h.after u)

/-- A use that goes through leaves the lock whole. -/
theorem whole_after {u : Use} (hwhole : f.senders.poisoned = false) (hu : ¬ u.Panics f) :
    (u.after f).senders.poisoned = false := by
  cases u with
  | subscribe => simp [Use.after, subscribe, hwhole, Guarded.write]
  | drop j => exact hwhole
  | dispatch e =>
      rw [dispatch_of_not_panics hu hwhole]
      exact hwhole
  | receive j held => rw [Use.after, (senders_receive f j held).1, hwhole]

theorem whole_run {us : List Use} (hwhole : f.senders.poisoned = false) (h : Unbroken us f) :
    (run us f).senders.poisoned = false := by
  induction us generalizing f with
  | nil => exact hwhole
  | cons u us ih => exact ih (whole_after hwhole h.1) h.2

theorem unbroken_append {us us' : List Use} :
    Unbroken (us ++ us') f ↔ Unbroken us f ∧ Unbroken us' (run us f) := by
  induction us generalizing f with
  | nil => exact ⟨fun h => ⟨trivial, h⟩, fun h => h.2⟩
  | cons u us ih =>
      rw [List.cons_append, Unbroken, Unbroken, run, ih, and_assoc]

/-- Nothing breaks off where every message can be copied. -/
theorem unbroken_of_copyable {us : List Use}
    (h : ∀ e ∈ dispatched us, e.message.fragile = false) : Unbroken us f := by
  induction us generalizing f with
  | nil => trivial
  | cons u us ih =>
      refine ⟨?_, ih fun e he => h e ?_⟩
      · rintro ⟨e, p, f', rfl, hpanic⟩
        have hd := dispatched_dispatch e f
        rw [hpanic] at hd
        cases hd with
        | panicked _ _ hcopy =>
            rw [Message.copy, h e List.mem_cons_self] at hcopy
            cases hcopy
      · rw [dispatched, List.filterMap_cons]
        split
        · exact he
        · exact List.mem_cons_of_mem _ he

namespace Mailbox

/-- A mailbox after some uses. -/
def run (i : SubscriptionId) : List Use → Mailbox → Mailbox
  | [], m => m
  | u :: us, m => run i us (m.after i u)

/-- What is taken out of a mailbox in the course of some uses. -/
def receivedIn (i : SubscriptionId) : List Use → Mailbox → List Envelope
  | [], _ => []
  | u :: us, m => m.received i u ++ receivedIn i us (m.after i u)

variable {m : Mailbox} {i : SubscriptionId}

/-- Only to be made brings a subscription about. -/
theorem absent_after (h : m.queue? = none) {u : Use} (hu : u = .subscribe → i ≠ ⟨m.made⟩) :
    (m.after i u).queue? = none := by
  cases u with
  | subscribe =>
      rw [after, h, if_neg (hu rfl)]
      rfl
  | drop j => rw [after, h, ite_self]
  | dispatch e =>
      rw [after, h]
      rfl
  | receive j held => rw [after, h, Option.map_none, ite_self]

theorem received_of_absent (h : m.queue? = none) (u : Use) : m.received i u = [] := by
  cases u with
  | subscribe => rfl
  | drop j => rfl
  | dispatch e => rfl
  | receive j held =>
      rw [received, h]
      exact ite_self _

theorem made_le_after (m : Mailbox) (i : SubscriptionId) (u : Use) :
    m.made ≤ (m.after i u).made := by
  cases u with
  | subscribe => exact Nat.le_succ _
  | drop j => exact Nat.le_refl _
  | dispatch e => exact Nat.le_refl _
  | receive j held => exact Nat.le_refl _

/-- A subscription that was dropped does not come back. -/
theorem gone_run (h : m.queue? = none) (hmade : i.index < m.made) (us : List Use) :
    (m.run i us).queue? = none := by
  induction us generalizing m with
  | nil => exact h
  | cons u us ih =>
      refine ih (absent_after h fun _ hi => ?_) (Nat.lt_of_lt_of_le hmade (m.made_le_after i u))
      rw [hi] at hmade
      exact Nat.lt_irrefl _ hmade

/-- What is taken out of a mailbox, and then what is left, is what was in it, and then what
was put in. -/
theorem received_append_after {q q' : List Envelope} (h : m.queue? = some q) {u : Use}
    (h' : (m.after i u).queue? = some q') :
    m.received i u ++ q' = q ++ u.dispatched?.toList := by
  cases u with
  | subscribe =>
      rw [after, h, Option.some_or] at h'
      obtain rfl := Option.some.inj h'
      exact (List.append_nil q).symm
  | drop j =>
      rw [after] at h'
      split at h'
      · cases h'
      · rw [h] at h'
        obtain rfl := Option.some.inj h'
        exact (List.append_nil q).symm
  | dispatch e =>
      rw [after, h] at h'
      obtain rfl := Option.some.inj h'
      rfl
  | receive j held =>
      rw [after] at h'
      rw [received, h, Option.getD_some]
      split at h'
      · next hij =>
          rw [h] at h'
          obtain rfl := Option.some.inj h'
          rw [if_pos hij]
          cases q with
          | nil => rfl
          | cons e rest => exact (List.append_nil _).symm
      · next hij =>
          rw [h] at h'
          obtain rfl := Option.some.inj h'
          rw [if_neg hij]
          exact (List.append_nil q).symm

theorem receivedIn_append_run {us : List Use} {q q' : List Envelope} (h : m.queue? = some q)
    (hmade : i.index < m.made) (h' : (m.run i us).queue? = some q') :
    m.receivedIn i us ++ q' = q ++ dispatched us := by
  induction us generalizing m q with
  | nil =>
      obtain rfl := Option.some.inj (h.symm.trans h')
      exact (List.append_nil q).symm
  | cons u us ih =>
      have hmade' := Nat.lt_of_lt_of_le hmade (m.made_le_after i u)
      cases hq : (m.after i u).queue? with
      | none => rw [run, gone_run hq hmade' us] at h'; cases h'
      | some q₁ =>
          have hrest := ih hq hmade' h'
          have hfirst := received_append_after h hq
          calc
            m.receivedIn i (u :: us) ++ q' =
                m.received i u ++ ((m.after i u).receivedIn i us ++ q') := List.append_assoc _ _ _
            _ = (m.received i u ++ q₁) ++ dispatched us := by rw [hrest, List.append_assoc]
            _ = q ++ (u.dispatched?.toList ++ dispatched us) := by
              rw [hfirst, List.append_assoc]
            _ = q ++ dispatched (u :: us) := by
              rw [dispatched, dispatched, List.filterMap_cons]
              cases u.dispatched? <;> rfl

/-- A mailbox that was not there is there because it was made, and what went through it
since is what was put in since. -/
theorem exists_subscribe {us : List Use} {q : List Envelope} (h : m.queue? = none)
    (hmade : m.made ≤ i.index) (hq : (m.run i us).queue? = some q) :
    ∃ before after, us = before ++ .subscribe :: after ∧ (m.run i before).made = i.index ∧
      m.receivedIn i us ++ q = dispatched after := by
  induction us generalizing m with
  | nil => rw [run, h] at hq; cases hq
  | cons u us ih =>
      by_cases hnow : u = .subscribe ∧ i = ⟨m.made⟩
      · obtain ⟨rfl, rfl⟩ := hnow
        have hnew : (m.after ⟨m.made⟩ .subscribe).queue? = some [] := by
          rw [after, h, if_pos rfl]
          rfl
        exact ⟨[], us, rfl, rfl, receivedIn_append_run hnew (Nat.lt_succ_self _) hq⟩
      · have hstill : (m.after i u).queue? = none := absent_after h fun hu hi => hnow ⟨hu, hi⟩
        have hmade' : (m.after i u).made ≤ i.index := by
          cases u with
          | subscribe =>
              have hne : m.made ≠ i.index := fun hi =>
                hnow ⟨rfl, congrArg SubscriptionId.mk hi.symm⟩
              exact Nat.lt_of_le_of_ne hmade hne
          | drop j => exact hmade
          | dispatch e => exact hmade
          | receive j held => exact hmade
        obtain ⟨before, after, rfl, hi, hsince⟩ := ih hstill hmade' hq
        refine ⟨u :: before, after, rfl, hi, ?_⟩
        rw [receivedIn, received_of_absent h]
        exact hsince

/-- A use of other subscriptions only does nothing to a mailbox. -/
theorem after_of_not_concerns {u : Use} (h : ¬ u.concerns i = true) (m : Mailbox) :
    m.after i u = m ∧ m.received i u = [] := by
  cases u with
  | subscribe => exact absurd rfl h
  | drop j =>
      have hj : ¬ j = i := fun hj => h (decide_eq_true hj)
      rw [after, if_neg hj]
      exact ⟨rfl, rfl⟩
  | dispatch e => exact absurd rfl h
  | receive j held =>
      have hj : ¬ j = i := fun hj => h (decide_eq_true hj)
      rw [after, received, if_neg hj, if_neg hj]
      exact ⟨rfl, rfl⟩

theorem run_filter (us : List Use) (m : Mailbox) (i : SubscriptionId) :
    m.run i (us.filter (Use.concerns i)) = m.run i us ∧
      m.receivedIn i (us.filter (Use.concerns i)) = m.receivedIn i us := by
  induction us generalizing m with
  | nil => exact ⟨rfl, rfl⟩
  | cons u us ih =>
      by_cases hu : u.concerns i = true
      · obtain ⟨hrun, hreceived⟩ := ih (m.after i u)
        rw [List.filter_cons_of_pos hu, run, run, receivedIn, receivedIn, hrun, hreceived]
        exact ⟨rfl, rfl⟩
      · obtain ⟨hafter, hnothing⟩ := after_of_not_concerns hu m
        rw [List.filter_cons_of_neg hu, run, receivedIn, hafter, hnothing]
        exact ih m

end Mailbox

theorem Sound.mailbox_run (h : Sound f) (hwhole : f.senders.poisoned = false) {us : List Use}
    (hus : Unbroken us f) (i : SubscriptionId) :
    (Forwarder.run us f).mailbox i = (f.mailbox i).run i us ∧
      received i us f = (f.mailbox i).receivedIn i us := by
  induction us generalizing f with
  | nil => exact ⟨rfl, rfl⟩
  | cons u us ih =>
      obtain ⟨hu, hus⟩ := hus
      obtain ⟨hrun, hreceived⟩ := ih (h.after u) (whole_after hwhole hu) hus
      rw [h.mailbox_after hwhole hu] at hrun hreceived
      refine ⟨hrun, ?_⟩
      rw [received, Mailbox.receivedIn, hreceived, received_mailbox]

/-! ## Delivery -/

/-- Subscriptions come and go, are read and sent to, and no copy panics.  A live subscription
then has one sender.  It was made at some point, and what it has received and what it still
keeps are the envelopes dispatched since, each once and in order.  Nothing changes for it
where other subscriptions are dropped or read at other times, or not at all. -/
theorem received_append_queue (name : String) (us : List Use) (h : Unbroken us { name := name })
    (i : SubscriptionId) :
    let start : Forwarder := { name := name }
    ((run us start).isLive i = true →
      (run us start).senders.value.count i = 1 ∧
        ∃ before after, us = before ++ .subscribe :: after ∧ (run before start).subscribe.1 = i ∧
          received i us start ++ (run us start).queue i = dispatched after) ∧
      ∀ us', Unbroken us' start →
        us'.filter (Use.concerns i) = us.filter (Use.concerns i) →
        received i us' start = received i us start ∧
          (run us' start).isLive i = (run us start).isLive i ∧
          (run us' start).queue i = (run us start).queue i := by
  intro start
  have hsound : Sound start := sound_new name
  obtain ⟨hrun, hreceived⟩ := hsound.mailbox_run rfl h i
  refine ⟨fun hlive => ⟨?_, ?_⟩, fun us' h' hsame => ?_⟩
  · exact (hsound.run us).count_eq_one (whole_run rfl h) hlive
  · rw [isLive_eq, hrun, Option.isSome_iff_exists] at hlive
    obtain ⟨q, hq⟩ := hlive
    obtain ⟨before, after, rfl, hmade, hsince⟩ :=
      Mailbox.exists_subscribe (m := start.mailbox i) rfl (Nat.zero_le _) hq
    refine ⟨before, after, rfl, ?_, ?_⟩
    · obtain ⟨hbefore, -⟩ := hsound.mailbox_run rfl (unbroken_append.1 h).1 i
      exact congrArg SubscriptionId.mk ((congrArg Mailbox.made hbefore).trans hmade)
    · rw [hreceived, queue_eq, hrun, hq]
      exact hsince
  · obtain ⟨hrun', hreceived'⟩ := hsound.mailbox_run rfl h' i
    obtain ⟨hfilter, hfilterReceived⟩ := Mailbox.run_filter us (start.mailbox i) i
    obtain ⟨hfilter', hfilterReceived'⟩ := Mailbox.run_filter us' (start.mailbox i) i
    rw [hsame] at hfilter' hfilterReceived'
    have hmailbox : (run us' start).mailbox i = (run us start).mailbox i := by
      rw [hrun', ← hfilter', hfilter, hrun]
    refine ⟨?_, ?_, ?_⟩
    · rw [hreceived', ← hfilterReceived', hfilterReceived, hreceived]
    · rw [isLive_eq, isLive_eq, hmailbox]
    · rw [queue_eq, queue_eq, hmailbox]

def letter (body : String) : Envelope :=
  .wrap default
    { (default : Message) with messageClass := ⟨"letter"⟩, kind := .event, body := body }

/-- Of two subscriptions the older one is dropped and its sender pruned. -/
def visit : List Use :=
  [.subscribe, .dispatch (letter "a"), .subscribe, .drop ⟨0⟩, .dispatch (letter "b"),
    .receive ⟨1⟩ true, .dispatch (letter "c")]

/-- The same with the older subscription read in place of dropped. -/
def visitRead : List Use :=
  [.subscribe, .dispatch (letter "a"), .receive ⟨0⟩ true, .subscribe, .dispatch (letter "b"),
    .receive ⟨1⟩ true, .dispatch (letter "c"), .receive ⟨0⟩ false]

theorem received_append_queue_visit :
    let start : Forwarder := { name := "outbox" }
    Unbroken visit start ∧ Unbroken visitRead start ∧
      (run visit start).senders.value = [⟨1⟩] ∧
      (∃ before after, visit = before ++ .subscribe :: after ∧
        (run before start).subscribe.1 = ⟨1⟩ ∧
        received ⟨1⟩ visit start ++ (run visit start).queue ⟨1⟩ = dispatched after) ∧
      received ⟨1⟩ visitRead start = received ⟨1⟩ visit start ∧
      (run visitRead start).queue ⟨1⟩ = (run visit start).queue ⟨1⟩ := by
  intro start
  have h : Unbroken visit start := unbroken_of_copyable (by decide)
  have h' : Unbroken visitRead start := unbroken_of_copyable (by decide)
  obtain ⟨hlive, hother⟩ := received_append_queue "outbox" visit h ⟨1⟩
  obtain ⟨hreceived, -, hqueue⟩ := hother visitRead h' rfl
  exact ⟨h, h', rfl, (hlive rfl).2, hreceived, hqueue⟩

end Forwarder

end Switchboard.Bus
