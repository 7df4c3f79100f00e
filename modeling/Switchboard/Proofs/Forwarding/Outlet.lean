import Switchboard.Handle
import Switchboard.Proofs.Forwarding.Subscriptions
import Switchboard.Proofs.Posting.Reentry
import Switchboard.Proofs.Posting.Run

/-!
# A forwarder on a bus

An `Outlet` is a forwarder that a bus knows as one of its dispatchers, and one of its
subscriptions.  The forwarder is a part of what user code keeps, so user code may reach it
while the bus is at work.

An outlet is `Linked` while the forwarder is listed under its classes and no others, and
has a sender for the subscription.  Other dispatchers may come and go, and the forwarder
may have other subscriptions, without an effect on that.  What the subscription keeps is
looked at side by side with the envelopes of the outlet's classes that were made, so that
the ones can be compared with the others.

Somebody who breaks off under the lock of the registry poisons it, and then nothing is
listed.  That cannot be undone (`lasting_poisoned`), so whoever finds the registry whole in
the end knows that it was whole all the time.
-/

namespace Switchboard.Bus

variable {ω α : Type}

open Act

/-! ## Subscriptions that are let be -/

namespace Forwarder

/-- Whether a use puts nothing into a subscription and takes nothing out. -/
def Use.spares (i : SubscriptionId) : Use → Bool
  | subscribe => true
  | drop j | receive j _ => j ≠ i
  | dispatch _ => false

/-- Whether a forwarder can become another one while a subscription is let be. -/
def Spares (i : SubscriptionId) (f f' : Forwarder) : Prop :=
  ∃ us : List Use, (∀ u ∈ us, u.spares i = true) ∧ f' = run us f

theorem Spares.refl (i : SubscriptionId) (f : Forwarder) : Spares i f f :=
  ⟨[], List.forall_mem_nil _, rfl⟩

/-- What a forwarder keeps for a live subscription, while its lock is whole. -/
structure Attached (i : SubscriptionId) (name : String) (q : List Envelope) (f : Forwarder) :
    Prop where
  sound : f.Sound
  whole : f.senders.poisoned = false
  name_eq : f.name = name
  queue_eq : (f.mailbox i).queue? = some q

namespace Attached

variable {i : SubscriptionId} {name : String} {q : List Envelope} {f f' : Forwarder}

theorem isLive (h : Attached i name q f) : f.isLive i = true := by
  rw [isLive_eq, h.queue_eq]
  rfl

/-- A dispatch reaches the subscription and reports no failure. -/
theorem dispatch (h : Attached i name q f) {e : Envelope} (he : e.message.fragile = false) :
    Forwarder.dispatch e f = .ok (.ok (targets f.name f.reached.length)) (f.broadcast e) ∧
      Attached i name (q ++ [e]) (f.broadcast e) := by
  have hreached : i ∈ f.reached := List.mem_filter.2 ⟨h.sound.linked h.whole i h.isLive, h.isLive⟩
  refine ⟨?_, ⟨h.sound.broadcast e, h.whole, h.name_eq, ?_⟩⟩
  · have hd := dispatched_dispatch e f
    generalize Forwarder.dispatch e f = r at hd
    cases hd with
    | poisoned hp => rw [h.whole] at hp; cases hp
    | panicked p _ hcopy => rw [Message.copy, he] at hcopy; cases hcopy
    | unheard _ hnil => exact absurd (hnil ▸ hreached) List.not_mem_nil
    | heard _ _ => rfl
  · rw [h.sound.mailbox_broadcast h.whole, Mailbox.after, h.queue_eq]
    rfl

/-- What is received from the subscription, and then what is left, is what it kept. -/
theorem after (h : Attached i name q f) {u : Use} (hu : u.dispatched? = none)
    (hdrop : u ≠ .drop i) :
    ∃ q', u.received i f ++ q' = q ∧ Attached i name q' (u.after f) := by
  have hpanics : ¬ u.Panics f := by
    rintro ⟨e, _, _, rfl, _⟩
    cases hu
  have hmailbox := h.sound.mailbox_after h.whole hpanics i
  have hlive : ∃ q', ((f.mailbox i).after i u).queue? = some q' := by
    cases u with
    | subscribe =>
        rw [Mailbox.after, h.queue_eq]
        exact ⟨q, rfl⟩
    | drop j =>
        have hj : j ≠ i := fun hj => hdrop (congrArg Use.drop hj)
        rw [Mailbox.after, if_neg hj]
        exact ⟨q, h.queue_eq⟩
    | dispatch e => cases hu
    | receive j held =>
        rw [Mailbox.after, h.queue_eq]
        split
        · exact ⟨q.tail, rfl⟩
        · exact ⟨q, rfl⟩
  obtain ⟨q', hq'⟩ := hlive
  have hname : (u.after f).name = name := (name_after u f).trans h.name_eq
  refine ⟨q', ?_, h.sound.after u, whole_after h.whole hpanics, hname, hmailbox ▸ hq'⟩
  have hthrough := Mailbox.received_append_after h.queue_eq hq'
  rw [hu] at hthrough
  rw [received_mailbox, hthrough]
  exact List.append_nil q

theorem spared (h : Attached i name q f) (hs : Spares i f f') : Attached i name q f' := by
  obtain ⟨us, hus, rfl⟩ := hs
  induction us generalizing f with
  | nil => exact h
  | cons u us ih =>
      have hu := hus u List.mem_cons_self
      have hnothing : u.dispatched? = none ∧ u ≠ .drop i ∧ u.received i f = [] := by
        cases u with
        | subscribe => exact ⟨rfl, Use.noConfusion, rfl⟩
        | drop j =>
            refine ⟨rfl, fun hj => ?_, rfl⟩
            cases hj
            simp [Use.spares] at hu
        | dispatch e => cases hu
        | receive j held => exact ⟨rfl, Use.noConfusion, if_neg (by simpa [Use.spares] using hu)⟩
      obtain ⟨hd, hdrop, hr⟩ := hnothing
      obtain ⟨q', hq, hafter⟩ := h.after hd hdrop
      rw [hr] at hq
      obtain rfl : q' = q := hq
      exact ih hafter fun u' hu' => hus u' (List.mem_cons_of_mem u hu')

end Attached

end Forwarder

/-! ## Dispatchers that stay listed -/

namespace Registry

/-- Whether a dispatcher is listed under some classes and under no others. -/
def Lists (r : Registry) (d : DispatcherId) (cs : List MessageClass) : Prop :=
  ∀ c, d ∈ r.listing.value.holders c ↔ c ∈ cs

namespace Lists

variable {r : Registry} {d d' : DispatcherId} {cs cs' : List MessageClass}

/-- It may be registered again under the same classes. -/
theorem enroll (h : r.Lists d cs) (hd : d' = d → cs' ⊆ cs) : (r.enroll d' cs').Lists d cs := by
  intro c
  change d ∈ (r.listing.value.addAll d' cs').holders c ↔ c ∈ cs
  rw [Listing.holders_addAll]
  split
  · next hc =>
      rw [mem_enter, h c]
      exact ⟨fun hm => hm.elim id fun he => hd he.symm hc, .inl⟩
  · exact h c

theorem unregister (h : r.Lists d cs) (hr : r.Sound) (hd : d' ≠ d) :
    (r.unregister d').2.Lists d cs := by
  cases hp : r.listing.poisoned with
  | true => rwa [unregister_of_poisoned hp]
  | false =>
      intro c
      rw [unregister_of_not_poisoned hp]
      change d ∈ (r.listing.value.remove d').holders c ↔ c ∈ cs
      rw [Listing.holders_remove d' c hr.wellFormed.classes_nodup, List.mem_filter, h c]
      exact and_iff_left (decide_eq_true hd.symm)

end Lists

end Registry

/-! ## Outlets -/

/-- A forwarder that user code keeps, as a dispatcher of a bus, and a subscription to it. -/
structure Outlet (ω : Type) where
  port : Handle ω Forwarder
  dispatcher : DispatcherId
  name : String
  classes : List MessageClass
  subscription : SubscriptionId

/-- Those of some envelopes that are of the outlet's classes. -/
def Outlet.share (F : Outlet ω) (es : List Envelope) : List Envelope :=
  es.filter fun e => e.messageClass ∈ F.classes

namespace Outlet

variable {F : Outlet ω}

theorem share_append (es es' : List Envelope) : F.share (es ++ es') = F.share es ++ F.share es' :=
  List.filter_append es es'

theorem share_eq_nil {es : List Envelope} (h : ∀ e ∈ es, e.messageClass ∉ F.classes) :
    F.share es = [] :=
  List.filter_eq_nil_iff.2 fun e he => by simpa using h e he

end Outlet

/-- Whether what user code keeps can become something else while the subscription is let be. -/
def Outlet.Spares (F : Outlet ω) (w w' : ω) : Prop :=
  Forwarder.Spares F.subscription (F.port.get w) (F.port.get w')

/-- An outlet under observation. -/
structure Watch (ω : Type) extends Outlet ω where
  /-- The journal when the observation began. -/
  start : List Entry
  /-- The failures that may be acknowledged in the name of the forwarder. -/
  excused : PostError → Prop

namespace Watch

/-- Whether an entry does not blame the forwarder for a failure, unless that is excused. -/
def Clean (W : Watch ω) (e : Entry) : Prop :=
  ∀ o i c reason, e = .acknowledged o (.error (.dispatch i c W.name reason)) →
    W.excused (.dispatch i c W.name reason)

/-- The forwarder is listed under its classes and keeps some envelopes for the subscription.
Certain envelopes of these classes were made, and the journal has grown by entries that do not
blame the forwarder. -/
structure Linked (W : Watch ω) (q k : List Envelope) (s : State ω) : Prop where
  whole : ¬ s.Poisoned
  sound : s.registry.Sound
  lists : s.registry.Lists W.dispatcher W.classes
  attached : Forwarder.Attached W.subscription W.name q (W.port.get s.outside)
  made_eq : W.share s.made = k
  journal : ∃ es, s.journal = W.start ++ es ∧ ∀ e ∈ es, W.Clean e

variable {W : Watch ω} {q k : List Envelope} {s s' : State ω}

theorem clean_of_not_ack {e : Entry} (h : ∀ o a, e ≠ .acknowledged o a) : W.Clean e :=
  fun o _ _ _ he => absurd he (h o _)

namespace Linked

theorem not_poisoned (h : W.Linked q k s) : s.registry.listing.poisoned = false :=
  Bool.eq_false_iff.2 h.whole

theorem frame (h : W.Linked q k s) (hr : s'.registry = s.registry) (hm : s'.made = s.made)
    (ho : s'.outside = s.outside) (hj : s'.journal = s.journal) : W.Linked q k s' where
  whole := by
    rw [State.Poisoned, hr]
    exact h.whole
  sound := hr ▸ h.sound
  lists := hr ▸ h.lists
  attached := ho ▸ h.attached
  made_eq := hm ▸ h.made_eq
  journal := hj ▸ h.journal

/-- Something is written, and the subscription is left with certain envelopes. -/
theorem extend (h : W.Linked q k s) {es : List Entry} (hes : ∀ e ∈ es, W.Clean e)
    (ls : List LogEntry) {q' : List Envelope} {w : ω}
    (hw : Forwarder.Attached W.subscription W.name q' (W.port.get w)) :
    W.Linked q' k (s.extend es ls w) where
  whole := h.whole
  sound := h.sound
  lists := h.lists
  attached := hw
  made_eq := h.made_eq
  journal := by
    obtain ⟨before, hbefore, hclean⟩ := h.journal
    refine ⟨before ++ es, ?_, List.forall_mem_append.2 ⟨hclean, hes⟩⟩
    rw [State.journal_extend, hbefore, List.append_assoc]

/-- Something is written, and nothing else changes. -/
theorem entries (h : W.Linked q k s) {es : List Entry} (hes : ∀ e ∈ es, W.Clean e)
    (ls : List LogEntry) : W.Linked q k (s.extend es ls s.outside) :=
  h.extend hes ls h.attached

theorem outside (h : W.Linked q k s) {q' : List Envelope} {w : ω}
    (hw : Forwarder.Attached W.subscription W.name q' (W.port.get w)) :
    W.Linked q' k { s with outside := w } :=
  { h with attached := hw }

theorem storing (h : W.Linked q k s) (st : MessageStore) : W.Linked q k (s.storing st) :=
  h.frame rfl rfl rfl rfl

theorem making (h : W.Linked q k s) (es : List Envelope) :
    W.Linked q (k ++ W.share es) (s.making es) :=
  { h with made_eq := (Outlet.share_append s.made es).trans (congrArg (· ++ _) h.made_eq) }

theorem registry (h : W.Linked q k s) {r : Registry} (hwhole : r.listing.poisoned = false)
    (hr : r.Sound) (hl : r.Lists W.dispatcher W.classes) :
    W.Linked q k { s with registry := r } where
  whole := Bool.eq_false_iff.1 hwhole
  sound := hr
  lists := hl
  attached := h.attached
  made_eq := h.made_eq
  journal := h.journal

end Linked

/-! ## Actions that keep an outlet linked -/

/-- The outlet is linked, or the registry is poisoned. -/
def Held (W : Watch ω) (q k : List Envelope) (s : State ω) : Prop :=
  s.Poisoned ∨ W.Linked q k s

namespace Held

theorem frame (h : W.Held q k s) (hr : s'.registry = s.registry) (hm : s'.made = s.made)
    (ho : s'.outside = s.outside) (hj : s'.journal = s.journal) : W.Held q k s' := by
  rcases h with hp | hl
  · exact .inl (by rwa [State.Poisoned, hr])
  · exact .inr (hl.frame hr hm ho hj)

theorem keeps_onOutside {f : EStateM Panic ω α} (hf : ∀ w, W.Spares w (endState f w)) :
    Keeps (W.Held q k) (onOutside f) := by
  intro s hs
  rw [endState_onOutside]
  rcases hs with hp | hl
  · exact .inl hp
  · exact .inr (hl.outside (hl.attached.spared (hf s.outside)))

theorem keeps_note {e : Entry} (he : W.Clean e) : Keeps (W.Held q k) (Act.note e) := by
  intro s hs
  rw [endState_of_ok (note_eq e s)]
  rcases hs with hp | hl
  · exact .inl hp
  · exact .inr (hl.entries (List.forall_mem_singleton.2 he) [])

/-- Dispatchers are registered, but the forwarder under its classes only. -/
theorem keeps_onRegistry_register {nameOf : DispatcherId → Except Panic String} {d : DispatcherId}
    {cs : List MessageClass} (hd : d = W.dispatcher → cs ⊆ W.classes) :
    Keeps (W.Held q k) (onRegistry (Registry.register nameOf d cs)) := by
  refine Steady.keeps_onRegistry fun s hs => ?_
  rcases hs with hp | hl
  · exact .inl (lasting_poisoned.register nameOf d cs hp)
  · rcases Registry.endState_register nameOf d cs s.registry with he | he | ⟨he, ho⟩
    · rw [he]
      exact .inr hl
    · rw [he]
      exact .inl rfl
    · rw [he]
      exact .inr (hl.registry hl.not_poisoned (hl.sound.enroll ho) (hl.lists.enroll hd))

/-- Other dispatchers are removed. -/
theorem keeps_onRegistry_unregister {d : DispatcherId} (hd : d ≠ W.dispatcher) :
    Keeps (W.Held q k) (onRegistry fun r => .ok (r.unregister d).1 (r.unregister d).2) := by
  refine Steady.keeps_onRegistry fun s hs => ?_
  rcases hs with hp | hl
  · exact .inl (lasting_poisoned.unregister d hp)
  · have hwhole : (s.registry.unregister d).2.listing.poisoned = false :=
      (Registry.poisoned_unregister _ d).trans hl.not_poisoned
    exact .inr (hl.registry hwhole (hl.sound.unregister d) (hl.lists.unregister hl.sound hd))

end Held

end Watch

end Switchboard.Bus
