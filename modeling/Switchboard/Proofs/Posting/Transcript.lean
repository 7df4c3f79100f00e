import Switchboard.Bus.Posting

/-!
# Transcripts

Where user code keeps to itself, what a batch comes to is a function of what is
registered, what the store answers, which envelopes are made, and what user code keeps.
A transcript is that function, written without any state but the last of the four.

* A `Judgement` is what the filters say of one message.
* A `Turn` is what one dispatcher says to one envelope.
* A `Delivery` is an envelope with the turns that it gave rise to.

Each of them determines what is written into the journal and what an observer is
told.  `Run` says that posting does what the transcript says.
-/

namespace Switchboard

/-- Maps a list while handing something on from element to element. -/
def thread {ω α β : Type} (f : α → ω → β × ω) : List α → ω → List β × ω
  | [], w => ([], w)
  | a :: as, w => ((f a w).1 :: (thread f as (f a w).2).1, (thread f as (f a w).2).2)

section

variable {ω α β γ : Type} {f : α → ω → β × ω}

@[simp] theorem thread_nil (f : α → ω → β × ω) (w : ω) : thread f [] w = ([], w) := rfl

@[simp] theorem thread_cons (f : α → ω → β × ω) (a : α) (as : List α) (w : ω) :
    thread f (a :: as) w =
      ((f a w).1 :: (thread f as (f a w).2).1, (thread f as (f a w).2).2) := rfl

theorem thread_append (f : α → ω → β × ω) (as bs : List α) (w : ω) :
    thread f (as ++ bs) w =
      ((thread f as w).1 ++ (thread f bs (thread f as w).2).1,
        (thread f bs (thread f as w).2).2) := by
  induction as generalizing w with
  | nil => rfl
  | cons a as ih => rw [List.cons_append, thread_cons, ih, thread_cons, List.cons_append]

theorem length_thread (f : α → ω → β × ω) (as : List α) (w : ω) :
    (thread f as w).1.length = as.length := by
  induction as generalizing w with
  | nil => rfl
  | cons a as ih => rw [thread_cons, List.length_cons, List.length_cons, ih]

/-- Every element comes from one that was there before. -/
theorem exists_of_mem_thread {c : β} {as : List α} {w : ω} (hc : c ∈ (thread f as w).1) :
    ∃ a ∈ as, ∃ w', c = (f a w').1 := by
  induction as generalizing w with
  | nil => cases hc
  | cons a as ih =>
      rw [thread_cons, List.mem_cons] at hc
      cases hc with
      | inl hc => exact ⟨a, List.mem_cons_self, w, hc⟩
      | inr hc =>
          obtain ⟨a', ha', hc⟩ := ih hc
          exact ⟨a', List.mem_cons_of_mem a ha', hc⟩

/-- What can be read off every element is what was there before. -/
theorem map_thread {g : β → γ} {h : α → γ} (hg : ∀ a w, g (f a w).1 = h a) (as : List α) (w : ω) :
    (thread f as w).1.map g = as.map h := by
  induction as generalizing w with
  | nil => rfl
  | cons a as ih => rw [thread_cons, List.map_cons, List.map_cons, hg, ih]

/-- What no element changes is handed on as it is. -/
theorem thread_snd (hf : ∀ a w, (f a w).2 = w) (as : List α) (w : ω) : (thread f as w).2 = w := by
  induction as generalizing w with
  | nil => rfl
  | cons a as ih => rw [thread_cons, ih, hf]

/-- Two functions that agree, as long as what they hand on is related, map a list alike. -/
theorem thread_related {f' : α → ω → β × ω} {R : ω → ω → Prop}
    (h : ∀ a w w', R w w' → (f a w).1 = (f' a w').1 ∧ R (f a w).2 (f' a w').2) (as : List α)
    {w w' : ω} (hw : R w w') :
    (thread f as w).1 = (thread f' as w').1 ∧ R (thread f as w).2 (thread f' as w').2 := by
  induction as generalizing w w' with
  | nil => exact ⟨rfl, hw⟩
  | cons a as ih =>
      obtain ⟨ha, hnext⟩ := h a w w' hw
      obtain ⟨has, hlast⟩ := ih hnext
      rw [thread_cons, thread_cons, ha, has]
      exact ⟨rfl, hlast⟩

theorem filterMap_thread {g : β → Option γ} {h : α → Option γ} (hg : ∀ a w, g (f a w).1 = h a)
    (as : List α) (w : ω) : (thread f as w).1.filterMap g = as.filterMap h := by
  have hmap := congrArg (List.filterMap id) (map_thread hg as w)
  rwa [List.filterMap_map, List.filterMap_map] at hmap

end

namespace Bus

variable {ω : Type}

/-! ## Judgements -/

/-- What the filters say of one message. -/
structure Judgement where
  message : Message
  /-- The labels of the filters that were asked, in order. -/
  asked : List String
  /-- The failure with which the message is rejected, if it is. -/
  failure? : Option PostError

namespace Judgement

/-- The judgement of one more filter, which comes first and lets the message pass. -/
def after (j : Judgement) (label? : Option String) : Judgement :=
  { j with asked := label?.toList ++ j.asked }

/-- What is written into the journal. -/
def entries (o : ObserverId) (j : Judgement) : List Entry :=
  j.asked.map (.asked · j.message.id) ++ j.failure?.toList.map fun e => .acknowledged o (.error e)

/-- What is written into the log. -/
def logs (j : Judgement) : List LogEntry :=
  j.failure?.toList.map fun e =>
    ⟨.debug, "message filtered out",
      ("error", .text e.message) :: messageFields j.message.messageClass j.message.id⟩

/-- The message, if it is accepted. -/
def accepted? (j : Judgement) : Option Message :=
  match j.failure? with
  | none => some j.message
  | some _ => none

variable {j : Judgement} {e : PostError}

theorem entries_of_accepted (o : ObserverId) (h : j.failure? = none) :
    j.entries o = j.asked.map (.asked · j.message.id) := by
  rw [entries, h, Option.toList_none, List.map_nil, List.append_nil]

theorem entries_of_rejected (o : ObserverId) (h : j.failure? = some e) :
    j.entries o = j.asked.map (.asked · j.message.id) ++ [.acknowledged o (.error e)] := by
  rw [entries, h, Option.toList_some, List.map_singleton]

theorem logs_of_accepted (h : j.failure? = none) : j.logs = [] := by
  rw [logs, h, Option.toList_none, List.map_nil]

theorem logs_of_rejected (h : j.failure? = some e) :
    j.logs = [⟨.debug, "message filtered out",
      ("error", .text e.message) :: messageFields j.message.messageClass j.message.id⟩] := by
  rw [logs, h, Option.toList_some, List.map_singleton]

theorem accepted?_of_accepted (h : j.failure? = none) : j.accepted? = some j.message := by
  rw [accepted?, h]

theorem accepted?_of_rejected (h : j.failure? = some e) : j.accepted? = none := by
  rw [accepted?, h]

end Judgement

/-- The judgement of some sieves, up to the first that rejects. -/
def judgement (fs : List (Sieve ω)) (m : Message) (w : ω) : Judgement × ω :=
  match fs with
  | [] => (⟨m, [], none⟩, w)
  | f :: fs =>
      match (f.verdict m w).1 with
      | some e => (⟨m, f.label?.toList, some e⟩, (f.verdict m w).2)
      | none =>
          let rest := judgement fs m (f.verdict m w).2
          (rest.1.after f.label?, rest.2)

/-- The failure with which a family rejects a message, whatever was added. -/
def Family.refusal? (f : Family) (c : Config) (m : Message) : Option PostError :=
  if c.rejectEmpty = true ∧ m.empty = true then some (.invalid m "message is empty")
  else match f.kinds? with
    | some ks =>
        if m.kind ∈ ks then none
        else some (.invalid m (m.kind.title ++ " messages are not accepted by this bus"))
    | none => none

/-- The judgement of a family with filters added: they are asked only if the family
has nothing against the message. -/
def Family.judgement (f : Family) (c : Config) (added : List (Sieve ω)) (m : Message) (w : ω) :
    Judgement × ω :=
  match f.refusal? c m with
  | some e => (⟨m, [], some e⟩, w)
  | none => Bus.judgement added m w

theorem message_judgement (fs : List (Sieve ω)) (m : Message) (w : ω) :
    (judgement fs m w).1.message = m := by
  induction fs generalizing w with
  | nil => rfl
  | cons f fs ih =>
      rw [judgement]
      cases (f.verdict m w).1 with
      | some e => rfl
      | none => exact ih _

/-- A rejection is that of one of the sieves. -/
theorem exists_of_failure? {fs : List (Sieve ω)} {m : Message} {w : ω} {e : PostError}
    (h : (judgement fs m w).1.failure? = some e) :
    ∃ f ∈ fs, ∃ w', (f.verdict m w').1 = some e := by
  induction fs generalizing w with
  | nil => cases h
  | cons f fs ih =>
      rw [judgement] at h
      cases hv : (f.verdict m w).1 with
      | some e' =>
          rw [hv] at h
          exact ⟨f, List.mem_cons_self, w, hv.trans h⟩
      | none =>
          rw [hv] at h
          obtain ⟨g, hg, hgv⟩ := ih h
          exact ⟨g, List.mem_cons_of_mem f hg, hgv⟩

/-- Filters without a label reject or leave no trace. -/
theorem judgement_unlabelled {own : List Filter} (hown : ∀ f ∈ own, f.label? = none)
    (fs : List (Sieve ω)) (m : Message) (w : ω) :
    judgement (own.map Filter.sieve ++ fs) m w =
      match own.findSome? (·.verdict m) with
      | some e => (⟨m, [], some e⟩, w)
      | none => judgement fs m w := by
  induction own with
  | nil => rfl
  | cons f own ih =>
      have hf : f.label? = none := hown f List.mem_cons_self
      rw [List.map_cons, List.cons_append, judgement, List.findSome?_cons]
      simp only [Filter.sieve, hf, Judgement.after, Option.toList_none, List.nil_append]
      cases f.verdict m with
      | some e => rfl
      | none => exact ih fun g hg => hown g (List.mem_cons_of_mem f hg)

theorem label?_ownFilters {f : Family} {c : Config} {g : Filter} (hg : g ∈ f.ownFilters c) :
    g.label? = none := by
  rw [Family.ownFilters, List.mem_append] at hg
  cases hg with
  | inl hg =>
      cases hc : c.rejectEmpty with
      | false => simp [hc] at hg
      | true =>
          rw [if_pos hc, List.mem_singleton] at hg
          exact hg ▸ rfl
  | inr hg =>
      cases hk : f.kinds? with
      | none => simp [hk] at hg
      | some ks =>
          rw [hk, List.mem_singleton] at hg
          exact hg ▸ rfl

/-- Emptiness comes before the kind. -/
theorem findSome?_ownFilters (f : Family) (c : Config) (m : Message) :
    (f.ownFilters c).findSome? (·.verdict m) = f.refusal? c m := by
  rw [Family.ownFilters, Family.refusal?]
  cases f.kinds? <;> cases c.rejectEmpty <;> cases hm : m.empty <;>
    simp [Filter.verdict, hm]

/-- The filters of a family judge before the added ones. -/
theorem judgement_sieves (f : Family) (c : Config) (added : List (Sieve ω)) (m : Message) (w : ω) :
    judgement (f.sieves c added) m w = f.judgement c added m w := by
  rw [Family.sieves, judgement_unlabelled (fun _ => label?_ownFilters), findSome?_ownFilters,
    Family.judgement]

/-- The messages that are accepted, in order. -/
def accepted (js : List Judgement) : List Message := js.filterMap Judgement.accepted?

/-- The failures with which messages are rejected, in order. -/
def rejections (js : List Judgement) : List PostError := js.filterMap Judgement.failure?

/-- A message is either accepted or rejected. -/
theorem length_rejections_add_length_accepted (js : List Judgement) :
    (rejections js).length + (accepted js).length = js.length := by
  induction js with
  | nil => rfl
  | cons j js ih =>
      rw [List.length_cons, ← ih]
      cases hj : j.failure? with
      | none =>
          rw [rejections, List.filterMap_cons_none hj, accepted,
            List.filterMap_cons_some (Judgement.accepted?_of_accepted hj), List.length_cons]
          exact (Nat.add_assoc _ _ 1).symm
      | some e =>
          rw [rejections, List.filterMap_cons_some hj, accepted,
            List.filterMap_cons_none (Judgement.accepted?_of_rejected hj), List.length_cons]
          exact Nat.add_right_comm _ 1 _

/-- Every accepted message was posted, and no sieve rejected it. -/
theorem exists_of_mem_accepted {fs : List (Sieve ω)} {ms : List Message} {w : ω} {m : Message}
    (hm : m ∈ accepted (thread (judgement fs) ms w).1) :
    m ∈ ms ∧ ∃ w', (judgement fs m w').1.failure? = none := by
  obtain ⟨j, hj, hjm⟩ := List.mem_filterMap.1 hm
  obtain ⟨m', hm', w', rfl⟩ := exists_of_mem_thread hj
  rw [Judgement.accepted?, message_judgement] at hjm
  cases hf : (judgement fs m' w').1.failure? with
  | none =>
      rw [hf] at hjm
      obtain rfl := Option.some.inj hjm
      exact ⟨hm', w', hf⟩
  | some e =>
      rw [hf] at hjm
      cases hjm

theorem mem_of_mem_accepted {fs : List (Sieve ω)} {ms : List Message} {w : ω} {m : Message}
    (hm : m ∈ accepted (thread (judgement fs) ms w).1) : m ∈ ms :=
  (exists_of_mem_accepted hm).1

/-! ## Filters -/

/-- Whether a message passes all of some filters. -/
def Filter.passes (fs : List Filter) (m : Message) : Bool := fs.all fun f => (f.verdict m).isNone

/-- Filters judge all messages alike, whatever user code keeps. -/
theorem judgement_filters (fs : List Filter) (m : Message) (w : ω) :
    (judgement (fs.map Filter.sieve) m w).1.failure? = fs.findSome? (·.verdict m) ∧
      (judgement (fs.map Filter.sieve) m w).2 = w := by
  induction fs with
  | nil => exact ⟨rfl, rfl⟩
  | cons f fs ih =>
      rw [List.map_cons, judgement, List.findSome?_cons]
      simp only [Filter.sieve]
      cases f.verdict m with
      | some e => exact ⟨rfl, rfl⟩
      | none => exact ih

theorem Filter.passes_eq (fs : List Filter) (m : Message) :
    passes fs m = (fs.findSome? (·.verdict m)).isNone := by
  induction fs with
  | nil => rfl
  | cons f fs ih =>
      rw [passes, List.all_cons, ← passes, ih, List.findSome?_cons]
      cases f.verdict m with
      | some e => rfl
      | none => rfl

theorem accepted_filters (fs : List Filter) (ms : List Message) (w : ω) :
    accepted (thread (judgement (fs.map Filter.sieve)) ms w).1 = ms.filter (Filter.passes fs) := by
  rw [accepted, ← List.filterMap_eq_filter]
  refine filterMap_thread (fun m w => ?_) ms w
  rw [Judgement.accepted?, message_judgement, (judgement_filters fs m w).1, Option.guard,
    Filter.passes_eq]
  cases fs.findSome? (·.verdict m) with
  | some e => rfl
  | none => rfl

theorem rejections_filters (fs : List Filter) (ms : List Message) (w : ω) :
    rejections (thread (judgement (fs.map Filter.sieve)) ms w).1 =
      ms.filterMap fun m => fs.findSome? (·.verdict m) :=
  filterMap_thread (fun m w => (judgement_filters fs m w).1) ms w

/-! ## Turns -/

/-- What user code does that keeps to itself. -/
structure Conduct (ω : Type) where
  /-- What a dispatcher says to an envelope, and what user code keeps then. -/
  react : DispatcherId → Envelope → ω → Except DispatchError Targets × ω
  name : DispatcherId → ω → String

/-- What one dispatcher says to one envelope. -/
structure Turn where
  dispatcher : DispatcherId
  name : String
  answer : Except DispatchError Targets

namespace Turn

/-- What the observer is told of, if the dispatcher failed. -/
def failure? (e : Envelope) (t : Turn) : Option PostError :=
  match t.answer with
  | .ok _ => none
  | .error r => some (.dispatch e.messageId e.messageClass t.name r.reason)

/-- What is written into the journal. -/
def entries (o : ObserverId) (e : Envelope) (t : Turn) : List Entry :=
  match t.answer with
  | .ok _ => [.dispatched t.dispatcher e]
  | .error r =>
      [.dispatched t.dispatcher e, .notified t.dispatcher e r,
        .acknowledged o (.error (.dispatch e.messageId e.messageClass t.name r.reason))]

/-- What is written into the log. -/
def logs (e : Envelope) (t : Turn) : List LogEntry :=
  match t.answer with
  | .ok targets =>
      [⟨.debug, "envelope dispatched", ("dispatcher", .text t.name) ::
        ("targets", .number targets.size) :: messageFields e.messageClass e.messageId⟩]
  | .error r =>
      [⟨.warn, "dispatch failed", ("dispatcher", .text t.name) ::
        ("error", .text r.reason) :: messageFields e.messageClass e.messageId⟩]

end Turn

/-- The turn of one dispatcher. -/
def Conduct.turn (u : Conduct ω) (e : Envelope) (d : DispatcherId) (w : ω) : Turn × ω :=
  (⟨d, u.name d (u.react d e w).2, (u.react d e w).1⟩, (u.react d e w).2)

/-! ## Deliveries -/

/-- What the observer is told of an envelope without a dispatcher. -/
def DeadLetterPolicy.failures : DeadLetterPolicy → Envelope → List PostError
  | reject, e => [.noDispatcherFound e.messageId e.messageClass]
  | drop, _ => []

/-- An envelope with the turns that it gave rise to. -/
structure Delivery where
  envelope : Envelope
  /-- Whether the lock of the registry was poisoned. -/
  poisoned : Bool
  turns : List Turn

namespace Delivery

/-- The failures of a delivery, in order: those of the turns, or if there were none,
what becomes of a dead letter. -/
def failures (dead : Envelope → List PostError) (d : Delivery) : List PostError :=
  if d.turns.isEmpty then dead d.envelope else d.turns.filterMap (Turn.failure? d.envelope)

/-- What the observer is told of a delivery. -/
def acks (dead : Envelope → List PostError) (d : Delivery) : List Ack :=
  (d.failures dead).map .error
    ++ if (d.failures dead).isEmpty then [.next d.envelope.message] else []

end Delivery

/-- The delivery of one envelope to the dispatchers that are registered for it. -/
def Conduct.delivery (u : Conduct ω) (r : Registry) (e : Envelope) (w : ω) : Delivery × ω :=
  let turns := thread (u.turn e) (r.dispatchersFor e.messageClass) w
  (⟨e, r.listing.poisoned, turns.1⟩, turns.2)

/-- What a bus tells the observer of an envelope without a dispatcher. -/
def dead (b : Bus ω) (e : Envelope) : List PostError :=
  match b.deadLetters with
  | .byPolicy => b.config.deadLetter.failures e
  | .reporting failures => failures e

/-- What a bus writes into the journal until the last dispatcher had its turn. -/
def attemptEntries (b : Bus ω) (o : ObserverId) (d : Delivery) : List Entry :=
  if d.turns.isEmpty then
    (if b.reportsDead then [.undeliverable d.envelope] else [])
      ++ (b.dead d.envelope).map fun e => .acknowledged o (.error e)
  else d.turns.flatMap (Turn.entries o d.envelope)

/-- What a bus writes into the journal during a delivery. -/
def deliveryEntries (b : Bus ω) (o : ObserverId) (d : Delivery) : List Entry :=
  b.attemptEntries o d
    ++ if (d.failures b.dead).isEmpty then [.acknowledged o (.next d.envelope.message)] else []

/-- What a bus writes into the log about an envelope without a dispatcher. -/
def deadLogs (b : Bus ω) (e : Envelope) : List LogEntry :=
  match b.deadLetters, b.config.deadLetter with
  | .byPolicy, .reject =>
      [⟨.warn, "no dispatcher found; message rejected", messageFields e.messageClass e.messageId⟩]
  | .byPolicy, .drop =>
      [⟨.warn, "no dispatcher found; message dropped", messageFields e.messageClass e.messageId⟩]
  | .reporting _, _ => []

/-- What is written into the log when the dispatchers of a class are looked up. -/
def lookupLogs (poisoned : Bool) (c : MessageClass) : List LogEntry :=
  if poisoned then
    [⟨.warn, "registry lock poisoned; no dispatchers returned", [("message_class", .text c.name)]⟩]
  else []

/-- What a bus writes into the log during a delivery. -/
def deliveryLogs (b : Bus ω) (d : Delivery) : List LogEntry :=
  lookupLogs d.poisoned d.envelope.messageClass
    ++ if d.turns.isEmpty then b.deadLogs d.envelope else d.turns.flatMap (Turn.logs d.envelope)

/-! ## Transcripts -/

/-- What the store says to a batch of messages that can be copied. -/
def Storage.answer (g : Storage) (batch : List Message) (st : MessageStore) :
    Except StoreError Unit :=
  match g.gate st.offers batch with
  | some e => .error e
  | none => if g.keeps && st.kept.poisoned then .error .poisoned else .ok ()

/-- The store after such a batch. -/
def Storage.after (g : Storage) (batch : List Message) (st : MessageStore) : MessageStore :=
  { kept :=
      match g.answer batch st with
      | .ok () => if g.keeps then st.kept.write (st.kept.value ++ batch) else st.kept
      | .error _ => st.kept
    offers := st.offers + 1 }

/-- What the accepted messages of a batch come to. -/
inductive Sequel where
  | unstored (ms : List Message) (e : StoreError)
  | delivered (ds : List Delivery)

namespace Sequel

/-- The envelopes that are made. -/
def envelopes : Sequel → List Envelope
  | unstored _ _ => []
  | delivered ds => ds.map Delivery.envelope

/-- The failures, in order. -/
def failures (dead : Envelope → List PostError) : Sequel → List PostError
  | unstored ms e => ms.map (PostError.notStored · e)
  | delivered ds => ds.flatMap (Delivery.failures dead)

/-- What the observer is told. -/
def acks (dead : Envelope → List PostError) : Sequel → List Ack
  | unstored ms e => ms.map fun m => .error (.notStored m e)
  | delivered ds => ds.flatMap (Delivery.acks dead)

end Sequel

/-- What some messages come to once they are accepted, and what user code keeps then. -/
def sequel (b : Bus ω) (u : Conduct ω) (s : State ω) (ms : List Message) (w : ω) : Sequel × ω :=
  match b.storage.answer ms s.store with
  | .error e => (.unstored ms e, w)
  | .ok () =>
      let ds := thread (u.delivery s.registry) (b.envelopes s.made.length ms) w
      (.delivered ds.1, ds.2)

/-- What a bus writes into the journal when it offers messages to the store. -/
def offerEntries (b : Bus ω) (ms : List Message) : List Entry :=
  if b.storage.reported && !ms.isEmpty then [.offered ms] else []

/-- What a bus writes into the journal once the store has answered. -/
def sequelEntries (b : Bus ω) (o : ObserverId) : Sequel → List Entry
  | .unstored ms e => ms.map fun m => .acknowledged o (.error (.notStored m e))
  | .delivered ds => ds.flatMap (b.deliveryEntries o)

/-- What a bus writes into the log once the store has answered. -/
def sequelLogs (b : Bus ω) : Sequel → List LogEntry
  | .unstored ms e =>
      if ms.isEmpty then []
      else [⟨.warn, "storing batch failed; batch not dispatched",
        [("error", .text e.message), ("messages", .number ms.length)]⟩]
  | .delivered ds => ds.flatMap b.deliveryLogs

/-- The store after messages were accepted. -/
def storeAfter (b : Bus ω) (ms : List Message) (st : MessageStore) : MessageStore :=
  if ms.isEmpty then st else b.storage.after ms st

/-- What a batch comes to. -/
structure Transcript where
  judgements : List Judgement
  sequel : Sequel

namespace Transcript

def accepted (t : Transcript) : List Message := Bus.accepted t.judgements

/-- The failures, in order. -/
def failures (dead : Envelope → List PostError) (t : Transcript) : List PostError :=
  rejections t.judgements ++ t.sequel.failures dead

/-- What the observer is told, short of completion. -/
def acks (dead : Envelope → List PostError) (t : Transcript) : List Ack :=
  (rejections t.judgements).map .error ++ t.sequel.acks dead

end Transcript

/-- What a batch comes to on a bus, and what user code keeps then. -/
def transcript (b : Bus ω) (u : Conduct ω) (batch : List Message) (s : State ω) : Transcript × ω :=
  let judged := thread (judgement b.sieves) batch s.outside
  let q := b.sequel u s (accepted judged.1) judged.2
  (⟨judged.1, q.1⟩, q.2)

/-- What a bus writes into the journal. -/
def entries (b : Bus ω) (o : ObserverId) (t : Transcript) : List Entry :=
  t.judgements.flatMap (Judgement.entries o) ++ b.offerEntries t.accepted
    ++ b.sequelEntries o t.sequel
    ++ if (t.failures b.dead).isEmpty then [.acknowledged o .completed] else []

/-- What a bus writes into the log. -/
def logs (b : Bus ω) (t : Transcript) : List LogEntry :=
  t.judgements.flatMap Judgement.logs ++ b.sequelLogs t.sequel
    ++ [⟨.debug, "batch posted", [("messages", .number t.judgements.length),
          ("errors", .number (t.failures b.dead).length)]⟩]

end Bus

end Switchboard
