import Mathlib.Data.List.Basic
import Switchboard.Proofs.Posting.Run

/-!
# What the observer of a batch receives

The journal of a batch determines what its observer receives.  The three stages of
posting show in it one after the other: the rejections, then either the failure of the
store for each accepted message or the outcome of each delivery, and then completion,
if nothing failed (`acksFor_postAll`).

Whether anything failed can be told from what the observer received before
(`filterMap_error?_acks`), so nobody has to count along.
-/

namespace Switchboard.Bus

variable {ω α : Type}

/-! ## Reading the journal -/

/-- Acknowledgments are read back as they were written. -/
theorem acksFor_acknowledged (o : ObserverId) (f : α → Ack) (l : List α) :
    acksFor o (l.map fun a => .acknowledged o (f a)) = l.map f := by
  induction l with
  | nil => rfl
  | cons a l ih => rw [List.map_cons, acksFor_acknowledged_cons, ih, List.map_cons]

theorem acksFor_asked (o : ObserverId) (labels : List String) (i : MessageId) :
    acksFor o (labels.map (.asked · i)) = [] := by
  induction labels with
  | nil => rfl
  | cons label labels ih => exact ih

theorem acksFor_judgement (o : ObserverId) (j : Judgement) :
    acksFor o (j.entries o) = j.failure?.toList.map .error := by
  rw [Judgement.entries, acksFor_append, acksFor_asked, acksFor_acknowledged, List.nil_append]

theorem acksFor_judgements (o : ObserverId) (js : List Judgement) :
    acksFor o (js.flatMap (Judgement.entries o)) = (rejections js).map .error := by
  rw [acksFor_flatMap, rejections, List.filterMap_eq_flatMap_toList, List.map_flatMap]
  simp only [acksFor_judgement]

theorem acksFor_turn (o : ObserverId) (e : Envelope) (t : Turn) :
    acksFor o (t.entries o e) = (t.failure? e).toList.map .error := by
  rw [Turn.entries, Turn.failure?]
  cases t.answer with
  | ok targets => rfl
  | error r => exact acksFor_acknowledged_cons o _ []

theorem acksFor_attempt (b : Bus ω) (o : ObserverId) (d : Delivery) :
    acksFor o (b.attemptEntries o d) = (d.failures b.dead).map .error := by
  rw [attemptEntries, Delivery.failures]
  cases d.turns.isEmpty with
  | true =>
      rw [if_pos rfl, if_pos rfl, acksFor_append, acksFor_acknowledged]
      cases b.reportsDead with
      | true => rfl
      | false => rfl
  | false =>
      rw [if_neg Bool.false_ne_true, if_neg Bool.false_ne_true, acksFor_flatMap,
        List.filterMap_eq_flatMap_toList, List.map_flatMap]
      simp only [acksFor_turn]

theorem acksFor_delivery (b : Bus ω) (o : ObserverId) (d : Delivery) :
    acksFor o (b.deliveryEntries o d) = d.acks b.dead := by
  rw [deliveryEntries, Delivery.acks, acksFor_append, acksFor_attempt]
  cases d.failures b.dead with
  | nil => exact acksFor_acknowledged_cons o _ []
  | cons e es => rfl

theorem acksFor_sequel (b : Bus ω) (o : ObserverId) (q : Sequel) :
    acksFor o (b.sequelEntries o q) = q.acks b.dead := by
  cases q with
  | unstored ms e => exact acksFor_acknowledged o _ ms
  | delivered ds =>
      rw [sequelEntries, Sequel.acks, acksFor_flatMap]
      simp only [acksFor_delivery]

theorem acksFor_offer (b : Bus ω) (o : ObserverId) (ms : List Message) :
    acksFor o (b.offerEntries ms) = [] := by
  rw [offerEntries]
  cases b.storage.reported && !ms.isEmpty with
  | true => rfl
  | false => rfl

/-- The store either turns the accepted messages away, or all of them are delivered. -/
theorem acks_sequel (b : Bus ω) (u : Conduct ω) (dead : Envelope → List PostError) (s : State ω)
    (ms : List Message) (w : ω) :
    (b.sequel u s ms w).1.acks dead =
      match b.storage.answer ms s.store with
      | .error e => ms.map fun m => .error (.notStored m e)
      | .ok () =>
          (thread (u.delivery s.registry) (b.envelopes s.made.length ms) w).1.flatMap
            (Delivery.acks dead) := by
  rw [sequel]
  cases b.storage.answer ms s.store with
  | error e => rfl
  | ok => rfl

/-! ## Completion -/

theorem filterMap_error?_errors (es : List PostError) :
    (es.map Ack.error).filterMap Ack.error? = es := by
  induction es with
  | nil => rfl
  | cons e es ih => exact congrArg (e :: ·) ih

theorem filterMap_error?_delivery (dead : Envelope → List PostError) (d : Delivery) :
    (d.acks dead).filterMap Ack.error? = d.failures dead := by
  rw [Delivery.acks, List.filterMap_append, filterMap_error?_errors]
  cases d.failures dead with
  | nil => rfl
  | cons e es => exact List.append_nil _

theorem filterMap_error?_sequel (dead : Envelope → List PostError) (q : Sequel) :
    (q.acks dead).filterMap Ack.error? = q.failures dead := by
  cases q with
  | unstored ms e =>
      rw [Sequel.acks, Sequel.failures, ← filterMap_error?_errors (ms.map _), List.map_map]
      rfl
  | delivered ds =>
      rw [Sequel.acks, Sequel.failures, List.filterMap_flatMap]
      simp only [filterMap_error?_delivery]

/-- The failures of a batch are what its observer is told of. -/
theorem filterMap_error?_acks (dead : Envelope → List PostError) (t : Transcript) :
    (t.acks dead).filterMap Ack.error? = t.failures dead := by
  rw [Transcript.acks, Transcript.failures, List.filterMap_append, filterMap_error?_errors,
    filterMap_error?_sequel]

/-- What the observer of a batch receives. -/
theorem acksFor_entries (b : Bus ω) (o : ObserverId) (t : Transcript) :
    acksFor o (b.entries o t) =
      t.acks b.dead
        ++ if ((t.acks b.dead).filterMap Ack.error?).isEmpty then [.completed] else [] := by
  rw [entries, filterMap_error?_acks, acksFor_append, acksFor_append, acksFor_append,
    acksFor_judgements, acksFor_offer, acksFor_sequel, List.append_nil, Transcript.acks]
  cases t.failures b.dead with
  | nil => exact congrArg _ (acksFor_acknowledged_cons o _ [])
  | cons e es => rfl

/-! ## Families -/

/-- Whether a bus is one of a family, with filters added. -/
structure BelongsTo (b : Bus ω) (f : Family) (added : List (Sieve ω)) : Prop where
  /-- It has the filters of the family, and then those that were added. -/
  sieves_eq : b.sieves = f.sieves b.config added
  /-- The policy says what becomes of an envelope without a dispatcher. -/
  deadLetters_eq : b.deadLetters = .byPolicy

theorem belongsTo_ofFamily (f : Family) (c : Config) (added : List (Sieve ω))
    (handle : DispatcherId → Envelope → Act ω (Except DispatchError Targets))
    (nameOf : DispatcherId → ω → Except Panic String) :
    (ofFamily f c added handle nameOf).BelongsTo f added :=
  ⟨rfl, rfl⟩

theorem BelongsTo.dead_eq {b : Bus ω} {f : Family} {added : List (Sieve ω)}
    (hb : b.BelongsTo f added) : b.dead = b.config.deadLetter.failures := by
  funext e
  rw [dead, hb.deadLetters_eq]

/-- The observer of a batch receives the rejections, in the order of the batch.  Then
it receives the failure of the store for each accepted message, or what each delivery
comes to.  It hears of completion once, and last, if it heard of no failure before. -/
theorem acksFor_postAll {b : Bus ω} {f : Family} {added : List (Sieve ω)} {u : Conduct ω}
    {batch : List Message} {s : State ω} (hb : b.BelongsTo f added)
    (hu : b.storage.answer (b.admitted batch s.outside) s.store = .ok () →
      b.CalmOn u s (b.admitted batch s.outside)) (o : ObserverId) :
    let judged := thread (f.judgement b.config added) batch s.outside
    let stored := b.storage.answer (accepted judged.1) s.store
    let envelopes := b.envelopes s.made.length (accepted judged.1)
    let told : List Ack := (rejections judged.1).map .error ++
      match stored with
      | .error e => (accepted judged.1).map fun m => .error (.notStored m e)
      | .ok () =>
          (thread (u.delivery s.registry) envelopes judged.2).1.flatMap
            (Delivery.acks b.config.deadLetter.failures)
    ∃ s', b.postAll o batch s = .ok () s' ∧
      acksFor o s'.journal = acksFor o s.journal ++ told
        ++ if (told.filterMap Ack.error?).isEmpty then [.completed] else [] := by
  intro judged stored envelopes told
  have hjudged : thread (judgement b.sieves) batch s.outside = judged := by
    have hfamily : judgement b.sieves = f.judgement b.config added := by
      funext m w
      rw [hb.sieves_eq, judgement_sieves]
    rw [hfamily]
  have htold : (b.transcript u batch s).1.acks b.dead = told := by
    rw [transcript, hjudged, hb.dead_eq, Transcript.acks, acks_sequel]
  refine ⟨_, postAll_eq hu o, ?_⟩
  rw [State.journal_extend, acksFor_append, acksFor_entries, htold, ← List.append_assoc]
  rfl

/-- A bus of events that rejects spam.  Its first dispatcher takes everything, and the
others are always busy. -/
def frontDesk : Bus Unit :=
  ofFamily .events ⟨.reject, true⟩
    [Filter.sieve (.custom "spam" fun m =>
      if m.body = "spam" then some (.invalid m "spam") else none)]
    (fun d _ s => .ok (if d.index = 0 then .ok ⟨[]⟩ else .error ⟨"busy"⟩) s)
    (fun d _ => .ok (if d.index = 0 then "clerk" else "porter"))

/-- Two dispatchers are registered for parcels, and one for letters. -/
def frontDeskOpen : State Unit where
  registry := ⟨.multicast, ⟨[(⟨"parcel"⟩, [⟨0⟩, ⟨1⟩]), (⟨"letter"⟩, [⟨0⟩])], false⟩⟩
  outside := ()

theorem acksFor_postAll_frontDesk :
    let parcel : Message := { (default : Message) with messageClass := ⟨"parcel"⟩, kind := .event }
    let letter : Message := { parcel with messageClass := ⟨"letter"⟩ }
    let riddle : Message := { parcel with messageClass := ⟨"riddle"⟩ }
    let spam : Message := { parcel with body := "spam" }
    let order : Message := { parcel with kind := .command }
    ∃ s', frontDesk.postAll ⟨7⟩ [parcel, spam, letter, order, riddle] frontDeskOpen = .ok () s' ∧
      acksFor ⟨7⟩ s'.journal =
        [.error (.invalid spam "spam"),
          .error (.invalid order "Command messages are not accepted by this bus"),
          .error (.dispatch parcel.id ⟨"parcel"⟩ "porter" "busy"),
          .next letter,
          .error (.noDispatcherFound riddle.id ⟨"riddle"⟩)] := by
  intro parcel letter riddle spam order
  let u : Conduct Unit :=
    { react := fun d _ w => (if d.index = 0 then .ok ⟨[]⟩ else .error ⟨"busy"⟩, w)
      name := fun d _ => if d.index = 0 then "clerk" else "porter" }
  have hu : frontDesk.CalmOn u frontDeskOpen
      (frontDesk.admitted [parcel, spam, letter, order, riddle] frontDeskOpen.outside) :=
    ⟨fun _ => by decide, fun _ _ _ _ => ⟨fun _ _ _ => rfl, fun _ => rfl⟩⟩
  obtain ⟨s', hs', hacks⟩ := acksFor_postAll (belongsTo_ofFamily _ _ _ _ _) (fun _ => hu) ⟨7⟩
  exact ⟨s', hs', hacks.trans (by decide)⟩

end Switchboard.Bus
