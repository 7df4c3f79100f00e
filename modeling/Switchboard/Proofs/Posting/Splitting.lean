import Mathlib.Data.List.Perm.Basic
import Switchboard.Proofs.Posting.Acknowledgments
import Switchboard.Proofs.Posting.Invocations

/-!
# Posting a batch in two parts

Filtering and storing work on a batch as a whole, and delivering on one message after the
other.  So to post a batch in two parts brings the rejections of the second part behind
the deliveries of the first.  Nothing else changes, as long as the filters remember
nothing and the store takes all that it is offered (`postAll_append`).

Where that is so, a batch comes to a list of deliveries that is handed on from message to
message (`Bus.deliveries`), and lists that are handed on can be cut anywhere
(`thread_append`).

The batch and its parts are posted at different times, so the envelopes get other stamps.
User code that cannot tell the ones from the others (`Blind`) says the same to both.
-/

namespace Switchboard.Bus

variable {ω : Type}

/-! ## Stored batches -/

/-- Whether the store takes some messages, if it is offered any. -/
def Stores (b : Bus ω) (ms : List Message) (st : MessageStore) : Prop :=
  ms.isEmpty = false → b.storage.answer ms st = .ok ()

/-- What some messages come to that are stored, and what user code keeps then.  So many
envelopes were made before. -/
def deliveries (b : Bus ω) (u : Conduct ω) (r : Registry) (n : Nat) (ms : List Message) (w : ω) :
    List Delivery × ω :=
  thread (u.delivery r) (b.envelopes n ms) w

theorem deliveries_append (b : Bus ω) (u : Conduct ω) (r : Registry) (n : Nat)
    (ms ms' : List Message) (w : ω) :
    b.deliveries u r n (ms ++ ms') w =
      let ds := b.deliveries u r n ms w
      let ds' := b.deliveries u r (n + ms.length) ms' ds.2
      (ds.1 ++ ds'.1, ds'.2) := by
  rw [deliveries, envelopes_append, thread_append]
  rfl

theorem sequel_of_stores {b : Bus ω} {ms : List Message} {s : State ω}
    (h : b.Stores ms s.store) (u : Conduct ω) (w : ω) :
    (b.sequel u s ms w).1.acks b.dead =
        (b.deliveries u s.registry s.made.length ms w).1.flatMap (Delivery.acks b.dead) ∧
      (b.sequel u s ms w).2 = (b.deliveries u s.registry s.made.length ms w).2 ∧
      (b.sequel u s ms w).1.envelopes = b.envelopes s.made.length ms := by
  cases ms with
  | nil =>
      rw [sequel]
      cases b.storage.answer [] s.store with
      | error e => exact ⟨rfl, rfl, rfl⟩
      | ok => exact ⟨rfl, rfl, rfl⟩
  | cons m ms =>
      rw [sequel, h rfl]
      exact ⟨rfl, rfl, envelopes_deliveries u s.registry _ w⟩

/-- A store that takes messages keeps them behind the others, or lets them go. -/
theorem kept_storeAfter {b : Bus ω} {ms : List Message} {st : MessageStore}
    (h : b.Stores ms st) :
    (b.storeAfter ms st).kept =
      if b.storage.keeps then st.kept.write (st.kept.value ++ ms) else st.kept := by
  cases ms with
  | nil =>
      rw [List.append_nil]
      exact (ite_self st.kept).symm
  | cons m ms =>
      rw [storeAfter, List.isEmpty_cons, if_neg Bool.false_ne_true, Storage.after, h rfl]

theorem messages_storeAfter_append {b : Bus ω} {ms ms' : List Message} {st : MessageStore}
    (h₁ : b.Stores ms st) (h₂ : b.Stores ms' (b.storeAfter ms st)) (h : b.Stores (ms ++ ms') st) :
    (b.storeAfter (ms ++ ms') st).messages =
      (b.storeAfter ms' (b.storeAfter ms st)).messages := by
  rw [MessageStore.messages, MessageStore.messages, kept_storeAfter h, kept_storeAfter h₂,
    kept_storeAfter h₁]
  cases b.storage.keeps with
  | true => simp [Guarded.write]
  | false => rfl

/-- The invocations that some envelopes come to. -/
def invocations (r : Registry) (es : List Envelope) : List (DispatcherId × Envelope) :=
  es.flatMap fun e => (r.dispatchersFor e.messageClass).map fun d => (d, e)

theorem invocations_append (r : Registry) (es es' : List Envelope) :
    invocations r (es ++ es') = invocations r es ++ invocations r es' :=
  List.flatMap_append

/-- The invocations do not depend on the store that takes the messages. -/
theorem dispatches_sequel_of_stores {b : Bus ω} {ms : List Message} {s : State ω}
    (h : b.Stores ms s.store) (u : Conduct ω) (o : ObserverId) (w : ω) :
    dispatches (b.sequelEntries o (b.sequel u s ms w).1) =
      invocations s.registry (b.envelopes s.made.length ms) := by
  rw [dispatches_sequel]
  cases ms with
  | nil =>
      cases b.storage.answer [] s.store with
      | error e => rfl
      | ok => rfl
  | cons m ms =>
      rw [h rfl]
      rfl

/-! ## Stamps -/

/-- An invocation apart from the stamp: all else about an envelope comes from its message. -/
def unstamped (i : DispatcherId × Envelope) : DispatcherId × Message := (i.1, i.2.message)

theorem unstamped_invocations (b : Bus ω) (r : Registry) (n : Nat) (ms : List Message) :
    (invocations r (b.envelopes n ms)).map unstamped =
      ms.flatMap fun m => (r.dispatchersFor m.messageClass).map fun d => (d, m) := by
  rw [invocations, List.map_flatMap, List.flatMap_def, List.flatMap_def]
  exact congrArg List.flatten (map_envelopes b n ms fun _ _ => List.map_map)

/-- A bus whose surroundings give something else to the envelopes. -/
def stamping (b : Bus ω) (stamp : Nat → Stamp) : Bus ω := { b with stamp := stamp }

/-- User code to which certain stamps are as good as those of a bus.  It says the same to an
envelope with either, and so does the bus of a dead letter.  What user code keeps may
differ, as long as it is related. -/
structure Blind (b : Bus ω) (u : Conduct ω) (stamp : Nat → Stamp) (R : ω → ω → Prop) : Prop where
  react_eq : ∀ n m d w w', R w w' →
    (u.react d (.wrap (b.stamp n) m) w).1 = (u.react d (.wrap (stamp n) m) w').1
  keeps : ∀ n m d w w', R w w' →
    R (u.react d (.wrap (b.stamp n) m) w).2 (u.react d (.wrap (stamp n) m) w').2
  name_eq : ∀ d w w', R w w' → u.name d w = u.name d w'
  dead_eq : ∀ n m, b.dead (.wrap (b.stamp n) m) = b.dead (.wrap (stamp n) m)

section

variable {b : Bus ω} {u : Conduct ω} {stamp : Nat → Stamp} {R : ω → ω → Prop}

/-- User code need not be blind to get the same stamps twice. -/
theorem blind_self (b : Bus ω) (u : Conduct ω) : b.Blind u b.stamp Eq where
  react_eq := fun _ _ _ _ _ h => h ▸ rfl
  keeps := fun _ _ _ _ _ h => h ▸ rfl
  name_eq := fun _ _ _ h => h ▸ rfl
  dead_eq := fun _ _ => rfl

theorem Blind.turns (h : b.Blind u stamp R) (n : Nat) (m : Message) (ds : List DispatcherId)
    {w w' : ω} (hw : R w w') :
    (thread (u.turn (.wrap (b.stamp n) m)) ds w).1 =
        (thread (u.turn (.wrap (stamp n) m)) ds w').1 ∧
      R (thread (u.turn (.wrap (b.stamp n) m)) ds w).2
        (thread (u.turn (.wrap (stamp n) m)) ds w').2 := by
  refine thread_related (fun d w w' hw => ?_) ds hw
  have hkeeps := h.keeps n m d w w' hw
  refine ⟨?_, hkeeps⟩
  rw [Conduct.turn, Conduct.turn, h.react_eq n m d w w' hw, h.name_eq d _ _ hkeeps]

/-- The observer is told the same of a delivery with either stamp. -/
theorem Blind.acks_delivery (h : b.Blind u stamp R) (r : Registry) (n : Nat) (m : Message)
    {w w' : ω} (hw : R w w') :
    (u.delivery r (.wrap (b.stamp n) m) w).1.acks b.dead =
        (u.delivery r (.wrap (stamp n) m) w').1.acks b.dead ∧
      R (u.delivery r (.wrap (b.stamp n) m) w).2 (u.delivery r (.wrap (stamp n) m) w').2 := by
  obtain ⟨hturns, hkeeps⟩ := h.turns n m (r.dispatchersFor m.messageClass) hw
  have hfailures : (u.delivery r (.wrap (b.stamp n) m) w).1.failures b.dead =
      (u.delivery r (.wrap (stamp n) m) w').1.failures b.dead := by
    have hsame : (u.delivery r (.wrap (b.stamp n) m) w).1.turns =
      (u.delivery r (.wrap (stamp n) m) w').1.turns := hturns
    have hdead : b.dead (u.delivery r (.wrap (b.stamp n) m) w).1.envelope =
      b.dead (u.delivery r (.wrap (stamp n) m) w').1.envelope := h.dead_eq n m
    rw [Delivery.failures, Delivery.failures, hsame, hdead]
    rfl
  refine ⟨?_, hkeeps⟩
  rw [Delivery.acks, Delivery.acks, hfailures]
  rfl

theorem Blind.acks_deliveries (h : b.Blind u stamp R) (r : Registry) (n : Nat)
    (ms : List Message) {w w' : ω} (hw : R w w') :
    (b.deliveries u r n ms w).1.flatMap (Delivery.acks b.dead) =
        ((b.stamping stamp).deliveries u r n ms w').1.flatMap (Delivery.acks b.dead) ∧
      R (b.deliveries u r n ms w).2 ((b.stamping stamp).deliveries u r n ms w').2 := by
  induction ms generalizing n w w' with
  | nil => exact ⟨rfl, hw⟩
  | cons m ms ih =>
      obtain ⟨hm, hnext⟩ := h.acks_delivery r n m hw
      obtain ⟨hms, hlast⟩ := ih (n + 1) hnext
      refine ⟨?_, hlast⟩
      rw [deliveries, deliveries, envelopes, envelopes, thread_cons, thread_cons,
        List.flatMap_cons, List.flatMap_cons]
      exact congrArg₂ (· ++ ·) hm hms

end

/-! ## Acknowledgments -/

/-- Acknowledgments, followed by completion if none of them is a failure. -/
def concluded (acks : List Ack) : List Ack :=
  acks ++ if (acks.filterMap Ack.error?).isEmpty then [.completed] else []

/-- Who does not listen for completion hears of the rest. -/
theorem filterMap_concluded {α : Type} {f : Ack → Option α} (hf : f .completed = none)
    (acks : List Ack) : (concluded acks).filterMap f = acks.filterMap f := by
  rw [concluded, List.filterMap_append]
  cases (acks.filterMap Ack.error?).isEmpty with
  | true => rw [if_pos rfl, List.filterMap_cons_none hf, List.filterMap_nil, List.append_nil]
  | false => exact List.append_nil _

theorem completed_mem_concluded {acks : List Ack} (h : Ack.completed ∉ acks) :
    Ack.completed ∈ concluded acks ↔ acks.filterMap Ack.error? = [] := by
  rw [concluded, List.mem_append]
  cases acks.filterMap Ack.error? with
  | nil => simp
  | cons e es => simp [h]

theorem completed_not_mem_delivery (dead : Envelope → List PostError) (d : Delivery) :
    Ack.completed ∉ d.acks dead := by
  rw [Delivery.acks]
  cases d.failures dead with
  | nil => simp
  | cons e es => simp

theorem filterMap_next?_errors (es : List PostError) :
    (es.map Ack.error).filterMap Ack.next? = [] :=
  List.filterMap_eq_nil_iff.2 (List.forall_mem_map.2 fun _ _ => rfl)

/-- What the observer of a stored batch is told, short of completion. -/
def told (b : Bus ω) (fs : List Filter) (batch : List Message) (ds : List Delivery) : List Ack :=
  (batch.filterMap fun m => fs.findSome? (·.verdict m)).map .error
    ++ ds.flatMap (Delivery.acks b.dead)

section

variable (b : Bus ω) (fs : List Filter) (xs ys : List Message) (ds ds' : List Delivery)

theorem completed_not_mem_told : Ack.completed ∉ b.told fs xs ds := by
  simp only [told, List.mem_append, List.mem_map, List.mem_flatMap, not_or, not_exists, not_and]
  exact ⟨fun _ _ => nofun, fun d _ => completed_not_mem_delivery b.dead d⟩

theorem filterMap_next?_told_append :
    (b.told fs (xs ++ ys) (ds ++ ds')).filterMap Ack.next? =
      (b.told fs xs ds ++ b.told fs ys ds').filterMap Ack.next? := by
  simp only [told, List.filterMap_append, filterMap_next?_errors, List.flatMap_append,
    List.nil_append, List.map_append]

/-- The rejections of the second part change places with the deliveries of the first. -/
theorem told_append_perm :
    (b.told fs (xs ++ ys) (ds ++ ds')).Perm (b.told fs xs ds ++ b.told fs ys ds') := by
  simp only [told, List.filterMap_append, List.map_append, List.flatMap_append, List.append_assoc]
  exact (List.perm_append_comm_assoc _ _ _).append_left _

/-- The observer of the whole hears of the same handled messages as that of both parts. -/
theorem filterMap_next?_concluded_append :
    (concluded (b.told fs (xs ++ ys) (ds ++ ds'))).filterMap Ack.next? =
      (concluded (b.told fs xs ds) ++ concluded (b.told fs ys ds')).filterMap Ack.next? := by
  rw [filterMap_concluded rfl, List.filterMap_append, filterMap_concluded rfl,
    filterMap_concluded rfl, ← List.filterMap_append]
  exact filterMap_next?_told_append b fs xs ys ds ds'

theorem filterMap_error?_concluded_append :
    ((concluded (b.told fs (xs ++ ys) (ds ++ ds'))).filterMap Ack.error?).Perm
      ((concluded (b.told fs xs ds) ++ concluded (b.told fs ys ds')).filterMap Ack.error?) := by
  rw [filterMap_concluded rfl, List.filterMap_append, filterMap_concluded rfl,
    filterMap_concluded rfl, ← List.filterMap_append]
  exact (told_append_perm b fs xs ys ds ds').filterMap Ack.error?

/-- It hears of completion if both parts do, for the failures of the whole are theirs. -/
theorem completed_mem_concluded_append :
    Ack.completed ∈ concluded (b.told fs (xs ++ ys) (ds ++ ds')) ↔
      Ack.completed ∈ concluded (b.told fs xs ds) ∧
        Ack.completed ∈ concluded (b.told fs ys ds') := by
  have herrors := (told_append_perm b fs xs ys ds ds').filterMap Ack.error?
  rw [completed_mem_concluded (completed_not_mem_told b fs _ _),
    completed_mem_concluded (completed_not_mem_told b fs _ _),
    completed_mem_concluded (completed_not_mem_told b fs _ _), ← List.append_eq_nil_iff,
    ← List.filterMap_append]
  exact ⟨fun h => List.nil_perm.1 (h ▸ herrors), fun h => List.perm_nil.1 (h ▸ herrors)⟩

end

/-! ## Batches -/

section

variable {b : Bus ω} {u : Conduct ω} {fs : List Filter}

/-- What a batch does whose accepted messages are stored. -/
theorem postAll_of_stores (hb : b.sieves = fs.map Filter.sieve) {batch : List Message}
    {s : State ω} (hu : b.CalmOn u s (batch.filter (Filter.passes fs)))
    (hs : b.Stores (batch.filter (Filter.passes fs)) s.store) (o : ObserverId) :
    let ms := batch.filter (Filter.passes fs)
    let ds := b.deliveries u s.registry s.made.length ms s.outside
    ∃ s', b.postAll o batch s = .ok () s' ∧ s'.registry = s.registry ∧ s'.outside = ds.2 ∧
      s'.store = b.storeAfter ms s.store ∧ s'.made.length = s.made.length + ms.length ∧
      dispatches s'.journal = dispatches s.journal
        ++ invocations s.registry (b.envelopes s.made.length ms) ∧
      acksFor o s'.journal = acksFor o s.journal ++ concluded (b.told fs batch ds.1) := by
  intro ms ds
  have haccepted : accepted (thread (judgement b.sieves) batch s.outside).1 = ms := by
    rw [hb, accepted_filters]
  have hrejected : rejections (thread (judgement b.sieves) batch s.outside).1 =
      batch.filterMap fun m => fs.findSome? (·.verdict m) := by
    rw [hb, rejections_filters]
  have hkept : (thread (judgement b.sieves) batch s.outside).2 = s.outside := by
    rw [hb]
    exact thread_snd (fun m w => (judgement_filters fs m w).2) batch s.outside
  have hcalm : b.CalmOn u s (b.admitted batch s.outside) := by
    rwa [admitted, haccepted]
  obtain ⟨hacks, hend, hmade⟩ := sequel_of_stores hs u s.outside
  refine ⟨_, postAll_eq (fun _ => hcalm) o, rfl, ?_, ?_, ?_, ?_, ?_⟩
  · rw [State.outside_extend, transcript, hkept, haccepted]
    exact hend
  · rw [State.store_extend, transcript, Transcript.accepted, haccepted]
    rfl
  · rw [transcript, hkept, haccepted, hmade]
    exact List.length_append.trans (congrArg _ (length_envelopes b _ ms))
  · rw [State.journal_extend, dispatches_append, dispatches_entries, transcript, haccepted]
    exact congrArg _ (dispatches_sequel_of_stores hs u o _)
  · have htold : (b.transcript u batch s).1.acks b.dead = b.told fs batch ds.1 := by
      rw [transcript, Transcript.acks, hkept, haccepted, hrejected, hacks]
      rfl
    rw [State.journal_extend, acksFor_append, acksFor_entries, htold]
    rfl

/-- The observer is told the same of a batch with the other stamps.  Its deliveries are those
of the first part, and then those of the second. -/
theorem Blind.told_append {stamp : Nat → Stamp} {R : ω → ω → Prop} (h : b.Blind u stamp R)
    (fs : List Filter) (batch : List Message) (r : Registry) (n : Nat) (ms ms' : List Message)
    {w : ω} (hw : R w w) :
    let ds := b.deliveries u r n ms w
    let ds' := b.deliveries u r (n + ms.length) ms' ds.2
    let whole := (b.stamping stamp).deliveries u r n (ms ++ ms') w
    (b.stamping stamp).told fs batch whole.1 = b.told fs batch (ds.1 ++ ds'.1) ∧
      R ds'.2 whole.2 := by
  obtain ⟨hacks, hkept⟩ := h.acks_deliveries r n (ms ++ ms') hw
  rw [deliveries_append] at hacks hkept
  refine ⟨?_, hkept⟩
  rw [told, told]
  exact congrArg _ hacks.symm

/-- User code that keeps to itself while some messages are delivered, whatever stamps they get
and whatever the store holds. -/
structure Aloof (b : Bus ω) (u : Conduct ω) (r : Registry) (ms : List Message) : Prop where
  copies : b.storage.keeps = true → ∀ m ∈ ms, m.fragile = false
  calmAt : ∀ m ∈ ms, ∀ d ∈ r.dispatchersFor m.messageClass, ∀ stamp st,
    b.CalmAt u r st (.wrap stamp m) d

theorem Aloof.calmOn {r : Registry} {ms ms' : List Message} (hu : b.Aloof u r ms)
    (hms : ms' ⊆ ms) {s : State ω} (hr : s.registry = r) (stamp : Nat → Stamp) :
    (b.stamping stamp).CalmOn u s ms' where
  copies := fun hk m hm => hu.copies hk m (hms hm)
  calmAt := by
    intro e he d hd
    obtain ⟨m, hm, i, rfl⟩ := exists_of_mem_envelopes he
    subst hr
    have hcalm := hu.calmAt m (hms hm) d hd (stamp i) (b.storeAfter ms' s.store)
    exact ⟨hcalm.handle_eq, hcalm.nameOf_eq⟩

/-- Posting a batch at once compared to posting it in two parts, where the store takes what
it is offered.  The envelopes of the batch may get other stamps than those of its parts, if
user code is blind to the difference.

The same dispatchers are invoked with the same messages in the same order, and with the same
envelopes if the stamps are the same.  The store holds the same messages, what user code
keeps is related, and the observer hears of the same handled messages in the same order.  It
hears of the same failures, though in another order, and it hears of completion just when it
hears of it for both parts. -/
theorem postAll_append (hb : b.sieves = fs.map Filter.sieve) {xs ys : List Message} {s : State ω}
    (hu : b.Aloof u s.registry ((xs ++ ys).filter (Filter.passes fs)))
    {stamp : Nat → Stamp} {R : ω → ω → Prop} (hblind : b.Blind u stamp R)
    (hR : R s.outside s.outside) (hxs : b.Stores (xs.filter (Filter.passes fs)) s.store)
    (hys : b.Stores (ys.filter (Filter.passes fs))
      (b.storeAfter (xs.filter (Filter.passes fs)) s.store))
    (hall : b.Stores ((xs ++ ys).filter (Filter.passes fs)) s.store) (o : ObserverId) :
    ∃ s₁ s₂ s' : State ω, ∃ told₁ told₂ told' : List Ack,
      b.postAll o xs s = .ok () s₁ ∧ b.postAll o ys s₁ = .ok () s₂ ∧
      (b.stamping stamp).postAll o (xs ++ ys) s = .ok () s' ∧
      acksFor o s₁.journal = acksFor o s.journal ++ told₁ ∧
      acksFor o s₂.journal = acksFor o s₁.journal ++ told₂ ∧
      acksFor o s'.journal = acksFor o s.journal ++ told' ∧
      (dispatches s'.journal).map unstamped = (dispatches s₂.journal).map unstamped ∧
      (stamp = b.stamp → dispatches s'.journal = dispatches s₂.journal) ∧
      s'.store.messages = s₂.store.messages ∧
      R s₂.outside s'.outside ∧
      told'.filterMap Ack.next? = (told₁ ++ told₂).filterMap Ack.next? ∧
      (told'.filterMap Ack.error?).Perm ((told₁ ++ told₂).filterMap Ack.error?) ∧
      (.completed ∈ told' ↔ .completed ∈ told₁ ∧ .completed ∈ told₂) := by
  have hfilter : (xs ++ ys).filter (Filter.passes fs) =
      xs.filter (Filter.passes fs) ++ ys.filter (Filter.passes fs) := List.filter_append xs ys
  have hleft : xs.filter (Filter.passes fs) ⊆ (xs ++ ys).filter (Filter.passes fs) :=
    hfilter ▸ List.subset_append_left _ _
  have hright : ys.filter (Filter.passes fs) ⊆ (xs ++ ys).filter (Filter.passes fs) :=
    hfilter ▸ List.subset_append_right _ _
  obtain ⟨s₁, h₁, hregistry, houtside, hstore, hmade, hdispatches₁, hacks₁⟩ :=
    postAll_of_stores hb (hu.calmOn hleft rfl b.stamp) hxs o
  obtain ⟨s₂, h₂, -, houtside₂, hstore₂, -, hdispatches₂, hacks₂⟩ :=
    postAll_of_stores hb (hu.calmOn hright hregistry b.stamp) (hstore ▸ hys) o
  obtain ⟨s', h', -, houtside', hstore', -, hdispatches', hacks'⟩ :=
    postAll_of_stores (b := b.stamping stamp) hb
      (hu.calmOn (List.Subset.refl _) rfl stamp) hall o
  -- the second part starts with what the first one left, so both runs hand on the same
  rw [hregistry, houtside, hmade] at houtside₂ hacks₂
  rw [hregistry, hmade] at hdispatches₂
  rw [hfilter] at houtside' hacks' hdispatches'
  obtain ⟨htold, hkept⟩ := hblind.told_append fs (xs ++ ys) s.registry s.made.length
    (xs.filter (Filter.passes fs)) (ys.filter (Filter.passes fs)) hR
  rw [htold] at hacks'
  rw [← houtside', ← houtside₂] at hkept
  have hsplit : dispatches s₂.journal = dispatches s.journal ++ invocations s.registry
      (b.envelopes s.made.length
        (xs.filter (Filter.passes fs) ++ ys.filter (Filter.passes fs))) := by
    rw [hdispatches₂, hdispatches₁, envelopes_append, invocations_append, List.append_assoc]
  generalize b.deliveries u s.registry s.made.length (xs.filter (Filter.passes fs)) s.outside = ds
    at *
  generalize b.deliveries u s.registry _ (ys.filter (Filter.passes fs)) ds.2 = ds' at *
  refine ⟨s₁, s₂, s', _, _, _, h₁, h₂, h', hacks₁, hacks₂, hacks', ?_, ?_, ?_, hkept,
    filterMap_next?_concluded_append b fs xs ys ds.1 ds'.1,
    filterMap_error?_concluded_append b fs xs ys ds.1 ds'.1,
    completed_mem_concluded_append b fs xs ys ds.1 ds'.1⟩
  · rw [hdispatches', hsplit, List.map_append, List.map_append, unstamped_invocations,
      unstamped_invocations]
  · intro hstamp
    rw [hdispatches', hsplit, hstamp]
    rfl
  · rw [hstore', hstore₂, hstore, hfilter]
    exact messages_storeAfter_append hxs (hstore ▸ hys) (hfilter ▸ hall)

end

/-- Orders are not for the night desk.  If the batch is split between an alarm and an order,
the rejection of the order moves behind the alarm, and that is all.  The guards do not look
at the stamps, so they do the same when no day passes. -/
theorem postAll_append_nightShift :
    let alarm : Message := { (default : Message) with messageClass := ⟨"alarm"⟩, kind := .event }
    let notice : Message := { alarm with messageClass := ⟨"notice"⟩ }
    let order : Message := { alarm with kind := .command }
    let asleep (m : Message) : Ack := .error (.dispatch m.id m.messageClass "guard" "asleep")
    let refused : Ack := .error (.invalid order "Command messages are not accepted by this bus")
    let timeless := nightDesk.stamping fun _ => default
    ∃ s₁ s₂ s' s'', nightDesk.postAll ⟨7⟩ [alarm] nightShift = .ok () s₁ ∧
      nightDesk.postAll ⟨7⟩ [order, notice, notice] s₁ = .ok () s₂ ∧
      nightDesk.postAll ⟨7⟩ [alarm, order, notice, notice] nightShift = .ok () s' ∧
      timeless.postAll ⟨7⟩ [alarm, order, notice, notice] nightShift = .ok () s'' ∧
      acksFor ⟨7⟩ s₂.journal =
        [asleep alarm, asleep alarm, refused, asleep notice, .next notice] ∧
      acksFor ⟨7⟩ s'.journal =
        [refused, asleep alarm, asleep alarm, asleep notice, .next notice] ∧
      dispatches s'.journal = dispatches s₂.journal ∧
      (dispatches s''.journal).map unstamped = (dispatches s₂.journal).map unstamped ∧
      s'.store.messages = s₂.store.messages ∧ s₂.outside = s'.outside := by
  intro alarm notice order asleep refused timeless
  let own : List Filter := Family.events.ownFilters .forEvents
  have hown : nightDesk.sieves = own.map Filter.sieve := rfl
  have hm : ∀ m ∈ ([alarm] ++ [order, notice, notice]).filter (Filter.passes own),
      m.fragile = false := by decide
  have haloof : nightDesk.Aloof nightConduct nightShift.registry
      (([alarm] ++ [order, notice, notice]).filter (Filter.passes own)) :=
    ⟨fun _ => hm, fun m hmem d _ stamp st => calmAt_nightDesk (hm m hmem) _ st stamp d⟩
  have hblind : nightDesk.Blind nightConduct (fun _ => default) Eq :=
    ⟨fun _ _ _ _ _ h => h ▸ rfl, fun _ _ _ _ _ h => h ▸ rfl, fun _ _ _ _ => rfl, fun _ _ => rfl⟩
  obtain ⟨s₁, s₂, s', _, _, _, h₁, h₂, h', -, -, -, -, hsame, hmessages, houtside, -⟩ :=
    postAll_append hown haloof (blind_self _ _) rfl (fun _ => rfl) (fun _ => rfl) (fun _ => rfl) ⟨7⟩
  obtain ⟨t₁, t₂, s'', _, _, _, k₁, k₂, h'', -, -, -, hunstamped, -⟩ :=
    postAll_append hown haloof hblind rfl (fun _ => rfl) (fun _ => rfl) (fun _ => rfl) ⟨7⟩
  -- the parts are the same in both comparisons
  cases h₁.symm.trans k₁
  cases h₂.symm.trans k₂
  refine ⟨s₁, s₂, s', s'', h₁, h₂, h', h'', ?_, ?_, hsame rfl, hunstamped, hmessages, houtside⟩
  · rw [← endState_of_ok h₂, ← endState_of_ok h₁]
    decide +kernel
  · rw [← endState_of_ok h']
    decide +kernel

end Switchboard.Bus
