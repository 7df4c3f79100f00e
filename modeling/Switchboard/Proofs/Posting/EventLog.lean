import Switchboard.Proofs.Posting.Acknowledgments

/-!
# What a batch leaves in the log

The log of a batch goes along with what its observer is told.  Every rejection has an entry.  Then
there is one entry for the failure of the store, or for each accepted message one entry for each
dispatcher that had a turn, or one for the dead letter.  The last entry counts the messages of the
batch and the failures that the observer heard of (`log_postAll`).

Behind a poisoned lock of the registry, each look-up leaves an entry of its own (`log_differs`).
-/

namespace Switchboard.Bus

variable {ω : Type}

/-! ## Entries -/

/-- The log entry of a message, if it is rejected. -/
def Judgement.event? (j : Judgement) : Option LogEntry :=
  j.failure?.map fun e => ⟨.debug, "message filtered out",
    ("error", .text e.message) :: messageFields j.message.messageClass j.message.id⟩

/-- The log entry of a turn. -/
def Turn.event (e : Envelope) (t : Turn) : LogEntry :=
  match t.answer with
  | .ok targets => ⟨.debug, "envelope dispatched", ("dispatcher", .text t.name) ::
      ("targets", .number targets.size) :: messageFields e.messageClass e.messageId⟩
  | .error r => ⟨.warn, "dispatch failed", ("dispatcher", .text t.name) ::
      ("error", .text r.reason) :: messageFields e.messageClass e.messageId⟩

/-- The log entry of an envelope without a dispatcher. -/
def DeadLetterPolicy.event (p : DeadLetterPolicy) (e : Envelope) : LogEntry :=
  match p with
  | reject =>
      ⟨.warn, "no dispatcher found; message rejected", messageFields e.messageClass e.messageId⟩
  | drop =>
      ⟨.warn, "no dispatcher found; message dropped", messageFields e.messageClass e.messageId⟩

theorem logs_judgements (js : List Judgement) :
    js.flatMap Judgement.logs = js.filterMap Judgement.event? := by
  rw [List.filterMap_eq_flatMap_toList]
  refine List.flatMap_congr fun j _ => ?_
  rw [Judgement.logs, Judgement.event?]
  cases j.failure? <;> rfl

theorem logs_turns (e : Envelope) (ts : List Turn) :
    ts.flatMap (Turn.logs e) = ts.map (Turn.event e) := by
  rw [List.map_eq_flatMap]
  refine List.flatMap_congr fun t _ => ?_
  rw [Turn.logs, Turn.event]
  cases t.answer <;> rfl

/-- A bus that leaves dead letters to the policy writes one entry about each. -/
theorem deadLogs_eq {b : Bus ω} (hb : b.deadLetters = .byPolicy) (e : Envelope) :
    b.deadLogs e = [b.config.deadLetter.event e] := by
  rw [deadLogs, hb]
  cases b.config.deadLetter <;> rfl

/-! ## Deliveries -/

/-- Every dispatcher that is registered for an envelope has its turn. -/
theorem dispatchers_of_delivery {u : Conduct ω} {r : Registry} {es : List Envelope} {w : ω}
    {d : Delivery} (hd : d ∈ (thread (u.delivery r) es w).1) :
    d.turns.map Turn.dispatcher = r.dispatchersFor d.envelope.messageClass ∧
      d.poisoned = r.listing.poisoned := by
  obtain ⟨e, _, w', rfl⟩ := exists_of_mem_thread hd
  have hturn : ∀ d w, (u.turn e d w).1.dispatcher = d := fun _ _ => rfl
  exact ⟨(map_thread hturn _ w').trans (List.map_id _), rfl⟩

/-- The log entries of a delivery, apart from the look-up: one for each turn, or if there was
none, one for the dead letter. -/
def Delivery.events (p : DeadLetterPolicy) (d : Delivery) : List LogEntry :=
  if d.turns.isEmpty then [p.event d.envelope] else d.turns.map (Turn.event d.envelope)

theorem logs_deliveries {b : Bus ω} (hb : b.deadLetters = .byPolicy) (u : Conduct ω) (r : Registry)
    (es : List Envelope) (w : ω) :
    (thread (u.delivery r) es w).1.flatMap b.deliveryLogs =
      (thread (u.delivery r) es w).1.flatMap fun d =>
        lookupLogs r.listing.poisoned d.envelope.messageClass
          ++ d.events b.config.deadLetter := by
  refine List.flatMap_congr fun d hd => ?_
  rw [deliveryLogs, (dispatchers_of_delivery hd).2, deadLogs_eq hb, logs_turns, Delivery.events]

/-- The log once the store has answered. -/
theorem logs_sequel {b : Bus ω} (hb : b.deadLetters = .byPolicy) (u : Conduct ω) (s : State ω)
    (ms : List Message) (w : ω) :
    b.sequelLogs (b.sequel u s ms w).1 =
      match b.storage.answer ms s.store with
      | .error e =>
          if ms.isEmpty then []
          else [⟨.warn, "storing batch failed; batch not dispatched",
            [("error", .text e.message), ("messages", .number ms.length)]⟩]
      | .ok () =>
          (thread (u.delivery s.registry) (b.envelopes s.made.length ms) w).1.flatMap fun d =>
            lookupLogs s.registry.listing.poisoned d.envelope.messageClass
              ++ d.events b.config.deadLetter := by
  rw [sequel]
  cases b.storage.answer ms s.store with
  | error e => rfl
  | ok => exact logs_deliveries hb u s.registry _ w

/-! ## A batch -/

/-- The failures that an observer hears of are those of the batch. -/
theorem length_errors (b : Bus ω) (o : ObserverId) (t : Transcript) :
    ((acksFor o (b.entries o t)).filterMap Ack.error?).length = (t.failures b.dead).length := by
  rw [acksFor_entries, List.filterMap_append, filterMap_error?_acks]
  cases t.failures b.dead with
  | nil => rfl
  | cons e es => exact congrArg List.length (List.append_nil _)

/-- The log of a batch, on a bus that is traced and leaves dead letters to the policy.  Rejected
messages have an entry each.  Then the failure of the store has one, if it failed and there was
something to store, or else the accepted messages have theirs: one for each dispatcher that is
registered, in order, or one for the dead letter if there is none.  The last entry gives the length
of the batch and how often the observer was told of a failure.

If the lock of the registry is poisoned, an entry of the look-up comes before those of each
message. -/
theorem log_postAll {b : Bus ω} {u : Conduct ω} {batch : List Message} {s : State ω}
    (hb : b.deadLetters = .byPolicy)
    (hu : b.storage.answer (b.admitted batch s.outside) s.store = .ok () →
      b.CalmOn u s (b.admitted batch s.outside)) (o : ObserverId) :
    let judged := thread (judgement b.sieves) batch s.outside
    let taken := accepted judged.1
    let envelopes := b.envelopes s.made.length taken
    let deliveries := (thread (u.delivery s.registry) envelopes judged.2).1
    ∃ s' heard, b.postAll o batch s = .ok () s' ∧
      acksFor o s'.journal = acksFor o s.journal ++ heard ∧
      judged.1.map Judgement.message = batch ∧
      envelopes.map Envelope.message = taken ∧
      deliveries.map Delivery.envelope = envelopes ∧
      (∀ d ∈ deliveries,
        d.turns.map Turn.dispatcher = s.registry.dispatchersFor d.envelope.messageClass) ∧
      s'.log = s.log ++ b.logged (judged.1.filterMap Judgement.event?
        ++ (match b.storage.answer taken s.store with
          | .error e =>
              if taken.isEmpty then []
              else [⟨.warn, "storing batch failed; batch not dispatched",
                [("error", .text e.message), ("messages", .number taken.length)]⟩]
          | .ok () => deliveries.flatMap fun d =>
              lookupLogs s.registry.listing.poisoned d.envelope.messageClass
                ++ d.events b.config.deadLetter)
        ++ [⟨.debug, "batch posted", [("messages", .number batch.length),
          ("errors", .number (heard.filterMap Ack.error?).length)]⟩]) := by
  intro judged taken envelopes deliveries
  have hlog : b.logs (b.transcript u batch s).1 =
      judged.1.filterMap Judgement.event?
        ++ b.sequelLogs (b.sequel u s taken judged.2).1
        ++ [⟨.debug, "batch posted", [("messages", .number batch.length),
          ("errors", .number ((b.transcript u batch s).1.failures b.dead).length)]⟩] := by
    rw [logs, transcript, logs_judgements, length_thread]
  refine ⟨_, acksFor o (b.entries o (b.transcript u batch s).1), postAll_eq hu o,
    ?_, ?_, ?_, ?_, ?_, ?_⟩
  · rw [State.journal_extend, acksFor_append]
    rfl
  · exact (map_thread (message_judgement b.sieves) batch s.outside).trans (List.map_id batch)
  · exact (map_envelopes b _ _ fun _ _ => rfl).trans (List.map_id taken)
  · exact envelopes_deliveries u s.registry envelopes judged.2
  · exact fun d hd => (dispatchers_of_delivery hd).1
  · refine (congrArg (s.log ++ b.logged ·) hlog).trans ?_
    rw [length_errors, logs_sequel hb]

/-- The front desk leaves a log: two messages are rejected, one of the two dispatchers of the
parcel is busy, and nobody is there for the riddle. -/
theorem log_postAll_frontDesk :
    let b : Bus Unit := { frontDesk with traced := true }
    let parcel : Message := { (default : Message) with messageClass := ⟨"parcel"⟩, kind := .event }
    let letter : Message := { parcel with messageClass := ⟨"letter"⟩ }
    let riddle : Message := { parcel with messageClass := ⟨"riddle"⟩ }
    let spam : Message := { parcel with body := "spam" }
    let order : Message := { parcel with kind := .command }
    let fields (m : Message) := messageFields m.messageClass m.id
    ∃ s', b.postAll ⟨7⟩ [parcel, spam, letter, order, riddle] frontDeskOpen = .ok () s' ∧
      s'.log =
        [⟨.debug, "message filtered out",
            ("error", .text (PostError.invalid spam "spam").message) :: fields spam⟩,
          ⟨.debug, "message filtered out",
            ("error", .text (PostError.invalid order
              "Command messages are not accepted by this bus").message) :: fields order⟩,
          ⟨.debug, "envelope dispatched",
            ("dispatcher", .text "clerk") :: ("targets", .number 0) :: fields parcel⟩,
          ⟨.warn, "dispatch failed",
            ("dispatcher", .text "porter") :: ("error", .text "busy") :: fields parcel⟩,
          ⟨.debug, "envelope dispatched",
            ("dispatcher", .text "clerk") :: ("targets", .number 0) :: fields letter⟩,
          ⟨.warn, "no dispatcher found; message rejected", fields riddle⟩,
          ⟨.debug, "batch posted", [("messages", .number 5), ("errors", .number 4)]⟩] := by
  intro b parcel letter riddle spam order fields
  let u : Conduct Unit :=
    { react := fun d _ w => (if d.index = 0 then .ok ⟨[]⟩ else .error ⟨"busy"⟩, w)
      name := fun d _ => if d.index = 0 then "clerk" else "porter" }
  have hu : b.CalmOn u frontDeskOpen
      (b.admitted [parcel, spam, letter, order, riddle] frontDeskOpen.outside) :=
    ⟨fun _ => by decide, fun _ _ _ _ => ⟨fun _ _ _ => rfl, fun _ => rfl⟩⟩
  obtain ⟨s', heard, hs', hheard, -, -, -, -, hlog⟩ := log_postAll rfl (fun _ => hu) ⟨7⟩
  have hcount : (heard.filterMap Ack.error?).length = 4 := by
    have hacks : acksFor ⟨7⟩ s'.journal = heard := hheard
    rw [← hacks, ← endState_of_ok hs']
    decide +kernel
  rw [hcount] at hlog
  exact ⟨s', hs', hlog⟩

/-- Nobody can name the clerk, so registering him breaks off and poisons the lock of the registry.
An order that is posted then leaves an entry of the look-up too. -/
theorem log_differs :
    let counter : Bus Unit :=
      { ofFamily .commands .forCommands [] (fun _ _ => pure (.ok ⟨[]⟩))
          (fun _ _ => .error ⟨"clerk"⟩) with traced := true }
    let order : Message := { (default : Message) with messageClass := ⟨"letter"⟩, kind := .command }
    let opened : State Unit := { registry := .empty .unicast, outside := () }
    let torn := endState (counter.register ⟨0⟩ [⟨"letter"⟩]) opened
    let said : List LogEntry :=
      [DeadLetterPolicy.reject.event (.wrap default order),
        ⟨.debug, "batch posted", [("messages", .number 1), ("errors", .number 1)]⟩]
    ∃ s', counter.postAll ⟨7⟩ [order] torn = .ok () s' ∧ torn.log = [] ∧ s'.log ≠ said ∧
      s'.log = lookupLogs true ⟨"letter"⟩ ++ said := by
  intro counter order opened torn said
  refine ⟨_, rfl, rfl, ?_, rfl⟩
  exact fun h => (by decide : 3 ≠ 2) (congrArg List.length h)

end Switchboard.Bus
