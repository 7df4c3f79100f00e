import Switchboard.Proofs.Posting.Acknowledgments

/-!
# Posting one message

There are two ways to post a single message: alone (`post`), or as a batch of one (`postAll`).
The first looks for emptiness itself and then goes on like the second.  The second leaves
emptiness to the filters, if the configuration asks for that.

Where the filters look for emptiness, they do so before anything else, and so it makes no
difference who does (`post_agrees`): an empty message is rejected with the same failure, no
filter that was added is asked, nothing is offered to the store, and there is no completion.
Only the log tells the two apart.  A message that is not empty takes the same way anyhow, and
then nothing is assumed of user code.

Where the filters do not look for emptiness, an empty message may pass in a batch
(`Bus.laxDesk`).  Posted alone it is rejected all the same.
-/

namespace Switchboard.Bus

variable {ω α : Type} {b : Bus ω} {f : Family} {added : List (Sieve ω)} {m : Message} {s : State ω}

/-! ## Apart from the log -/

def State.unlogged (s : State ω) : State ω := { s with log := [] }

/-- What an action comes to, apart from the log: its outcome or its panic, and all that it
leaves behind elsewhere. -/
def apartFromLog : EStateM.Result Panic (State ω) α → EStateM.Result Panic (State ω) α
  | .ok a s => .ok a s.unlogged
  | .error p s => .error p s.unlogged

theorem apartFromLog_extend (a : α) (s : State ω) (es : List Entry) (ls ls' : List LogEntry)
    (w : ω) :
    apartFromLog (.ok a (s.extend es ls w)) = apartFromLog (.ok a (s.extend es ls' w)) := rfl

/-! ## Rejections -/

/-- A batch of one message that is rejected comes to what the filters say of it. -/
theorem postAll_of_rejected {labels : List String} {e : PostError} {w : ω}
    (h : judgement b.sieves m s.outside = (⟨m, labels, some e⟩, w)) (o : ObserverId) :
    b.postAll o [m] s = .ok ()
      (s.extend (labels.map (.asked · m.id) ++ [.acknowledged o (.error e)])
        (b.logged [⟨.debug, "message filtered out",
            ("error", .text e.message) :: messageFields m.messageClass m.id⟩,
          ⟨.debug, "batch posted", [("messages", .number 1), ("errors", .number 1)]⟩]) w) := by
  have hsift := sift_eq b o [m] s
  simp only [thread_cons, thread_nil, h] at hsift
  rw [postAll, bind_of_ok hsift]
  -- nothing is left to dispatch
  refine (bind_of_ok rfl).trans ((conclude_eq b o 1 [e] _).trans ?_)
  rw [State.extend_extend, State.outside_extend, ← logged_append]
  simp [Judgement.entries, Judgement.logs]

/-- A family that rejects empty messages asks none of the added filters about them. -/
theorem BelongsTo.judgement_of_empty (hb : b.BelongsTo f added)
    (hc : b.config.rejectEmpty = true) (hm : m.empty = true) (w : ω) :
    judgement b.sieves m w = (⟨m, [], some (.invalid m "message is empty")⟩, w) := by
  rw [hb.sieves_eq, judgement_sieves, Family.judgement, Family.refusal?, if_pos ⟨hc, hm⟩]

theorem post_of_empty (b : Bus ω) (o : ObserverId) (hm : m.empty = true) (s : State ω) :
    b.post o m s = .ok ()
      (s.extend [.acknowledged o (.error (.invalid m "message is empty"))]
        (b.logged [⟨.debug, "empty message rejected", messageFields m.messageClass m.id⟩])
        s.outside) := by
  rw [post, if_pos hm, bind_of_ok (trace_eq _ _ _ _ s), acknowledge_eq]
  simp

theorem post_of_not_empty (b : Bus ω) (o : ObserverId) (hm : m.empty = false) :
    b.post o m = b.postAll o [m] := by
  rw [post, if_neg (Bool.eq_false_iff.1 hm)]

/-! ## Agreement -/

/-- To post a message alone and to post it as a batch come to the same, apart from the log, if
the bus rejects empty messages or the message is not empty.  An empty message posted alone is
rejected on every bus, which changes nothing but the journal and the log. -/
theorem post_agrees (hb : b.BelongsTo f added) (o : ObserverId) (m : Message) (s : State ω) :
    (b.config.rejectEmpty = true ∨ m.empty = false →
        apartFromLog (b.post o m s) = apartFromLog (b.postAll o [m] s)) ∧
      (m.empty = true →
        b.post o m s = .ok ()
          (s.extend [.acknowledged o (.error (.invalid m "message is empty"))]
            (b.logged [⟨.debug, "empty message rejected", messageFields m.messageClass m.id⟩])
            s.outside)) := by
  refine ⟨fun h => ?_, fun hm => post_of_empty b o hm s⟩
  cases hm : m.empty with
  | false => rw [post_of_not_empty b o hm]
  | true =>
      have hc : b.config.rejectEmpty = true := h.resolve_right (by simp [hm])
      rw [post_of_empty b o hm, postAll_of_rejected (hb.judgement_of_empty hc hm s.outside) o]
      exact apartFromLog_extend _ _ _ _ _ _

/-- The front desk, if it did not look for emptiness. -/
def laxDesk : Bus Unit := ofFamily .events ⟨.reject, false⟩ [] frontDesk.handle frontDesk.nameOf

/-- The front desk rejects an empty letter in either way.  The lax desk hands it over if it
comes in a batch. -/
theorem post_agrees_frontDesk :
    let letter : Message := { (default : Message) with messageClass := ⟨"letter"⟩, kind := .event }
    let blank : Message := { letter with empty := true }
    apartFromLog (frontDesk.post ⟨7⟩ letter frontDeskOpen) =
        apartFromLog (frontDesk.postAll ⟨7⟩ [letter] frontDeskOpen) ∧
      apartFromLog (frontDesk.post ⟨7⟩ blank frontDeskOpen) =
        apartFromLog (frontDesk.postAll ⟨7⟩ [blank] frontDeskOpen) ∧
      laxDesk.post ⟨7⟩ blank frontDeskOpen = .ok ()
        (frontDeskOpen.extend [.acknowledged ⟨7⟩ (.error (.invalid blank "message is empty"))] []
          ()) ∧
      ∃ s', laxDesk.postAll ⟨7⟩ [blank] frontDeskOpen = .ok () s' ∧
        acksFor ⟨7⟩ s'.journal = [.next blank, .completed] := by
  intro letter blank
  have hdesk (m : Message) :=
    post_agrees (b := frontDesk) (belongsTo_ofFamily _ _ _ _ _) ⟨7⟩ m frontDeskOpen
  have hlax := post_agrees (b := laxDesk) (belongsTo_ofFamily _ _ _ _ _) ⟨7⟩ blank frontDeskOpen
  exact ⟨(hdesk letter).1 (.inl rfl), (hdesk blank).1 (.inl rfl), hlax.2 rfl, _, rfl, by decide⟩

end Switchboard.Bus
