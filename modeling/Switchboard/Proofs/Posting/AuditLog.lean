import Switchboard.Proofs.Posting.Acknowledgments
import Switchboard.Proofs.Posting.Invocations
import Switchboard.Proofs.Posting.Reentry

/-!
# The store as an audit log

A store that turns nothing away keeps the messages that were accepted, batch after batch,
and nothing else.  What is registered, what dispatchers answer, and whether they panic
makes no difference to it (`messages_performAll`).

Nothing is dispatched that is not in the store.  That this is so when the dispatch begins,
and not only in the end, is said by an exchange of handlers: handlers that do the same
with messages in the store do the same altogether (`Alike`), so nobody ever asked what
they do with other messages.

Behind both is one invariant (`Filed`).  Filtering keeps it, storing extends it, and
everything that comes after keeps it again.
-/

namespace Switchboard.Bus

variable {ω α β : Type}

open Act

/-! ## Operations -/

/-- What can be done with a bus. -/
inductive Operation where
  | register (d : DispatcherId) (advertised : List MessageClass)
  | unregister (d : DispatcherId)
  | close
  | post (o : ObserverId) (m : Message)
  | postAll (o : ObserverId) (batch : List Message)

namespace Operation

def act (b : Bus ω) : Operation → Act ω Unit
  | register d cs => (fun _ => ()) <$> b.register d cs
  | unregister d => (fun _ => ()) <$> b.unregister d
  | close => b.close
  | post o m => b.post o m
  | postAll o batch => b.postAll o batch

/-- The messages that are put before the filters.  An empty message that is posted alone
is not. -/
def posted : Operation → List Message
  | post _ m => if m.empty then [] else [m]
  | postAll _ batch => batch
  | register _ _ | unregister _ | close => []

end Operation

/-- The state after some operations.  An operation that panics is followed by the next. -/
def performAll (b : Bus ω) : List Operation → State ω → State ω
  | [], s => s
  | k :: ks, s => b.performAll ks (endState (k.act b) s)

/-- The messages that are accepted in the course of some operations, in order. -/
def admittedIn (b : Bus ω) : List Operation → State ω → List Message
  | [], _ => []
  | k :: ks, s => b.admitted k.posted s.outside ++ b.admittedIn ks (endState (k.act b) s)

/-! ## Handlers that do not post -/

/-- Handlers that leave the store alone and dispatch nothing, also if they panic. -/
structure Discreet (b : Bus ω) : Prop where
  store_eq : ∀ d e s, (endState (b.handle d e) s).store = s.store
  dispatches_eq : ∀ d e s, dispatches (endState (b.handle d e) s).journal = dispatches s.journal

/-- Handlers that only change what they keep do not post. -/
theorem discreet_of_onOutside {b : Bus ω}
    (h : ∀ d e, ∃ f : EStateM Panic ω (Except DispatchError Targets), b.handle d e = onOutside f) :
    b.Discreet where
  store_eq d e s := by
    obtain ⟨f, hf⟩ := h d e
    rw [hf, endState_onOutside]
  dispatches_eq d e s := by
    obtain ⟨f, hf⟩ := h d e
    rw [hf, endState_onOutside]

/-- The bus with other handlers. -/
def handledBy (b : Bus ω) (h : DispatcherId → Envelope → Act ω (Except DispatchError Targets)) :
    Bus ω :=
  { b with handle := h }

theorem envelopes_handledBy (b : Bus ω)
    (h : DispatcherId → Envelope → Act ω (Except DispatchError Targets)) (n : Nat)
    (ms : List Message) : (b.handledBy h).envelopes n ms = b.envelopes n ms := by
  induction ms generalizing n with
  | nil => rfl
  | cons m ms ih =>
      rw [envelopes, envelopes, ih]
      rfl

/-- Whether handlers do the same as those of a bus with every message in the store. -/
def SameOnStored (b : Bus ω)
    (h : DispatcherId → Envelope → Act ω (Except DispatchError Targets)) : Prop :=
  ∀ d e (s : State ω), e.message ∈ s.store.messages → b.handle d e s = h d e s

/-- A store that takes every batch and keeps it. -/
structure Storage.TakesAll (g : Storage) : Prop where
  gate_eq : ∀ offers batch, g.gate offers batch = none
  keeps_eq : g.keeps = true

/-! ## Books -/

/-- The store is whole and holds certain messages, and no others were dispatched. -/
structure Filed (log : List Message) (s : State ω) : Prop where
  whole : s.store.kept.poisoned = false
  messages_eq : s.store.messages = log
  dispatched : ∀ p ∈ dispatches s.journal, p.2.message ∈ log

theorem Filed.frame {log : List Message} {s s' : State ω} (h : Filed log s)
    (hs : s'.store = s.store) (hd : dispatches s'.journal = dispatches s.journal) :
    Filed log s' where
  whole := hs ▸ h.whole
  messages_eq := hs ▸ h.messages_eq
  dispatched := hd ▸ h.dispatched

/-- Only storing and dispatching concern the books. -/
theorem steady_filed (log : List Message) :
    Steady (fun _ => True) (Filed log : State ω → Prop) where
  frame := fun hs _ hstore hj => hs.frame hstore (hj ▸ rfl)
  note := fun _ he hs => hs.frame rfl (dispatches_concat he _)
  register := fun _ _ _ hs => hs.frame rfl rfl
  unregister := fun _ hs => hs.frame rfl rfl
  clear := fun hs => hs.frame rfl rfl
  poison := fun hs => hs.frame rfl rfl

/-- Two actions do the same in a state, and a property holds where they end. -/
def Alike (P : State ω → Prop) (x y : Act ω α) (s : State ω) : Prop :=
  x s = y s ∧ P (endState x s)

namespace Alike

variable {P : State ω → Prop} {s : State ω}

theorem of_keeps {x : Act ω α} (h : Keeps P x) (hs : P s) : Alike P x x s := ⟨rfl, h s hs⟩

theorem bind {x y : Act ω α} {f g : α → Act ω β} (hx : Alike P x y s)
    (hf : ∀ a s', P s' → Alike P (f a) (g a) s') : Alike P (x >>= f) (y >>= g) s := by
  obtain ⟨heq, hend⟩ := hx
  rw [Alike, endState_bind]
  change EStateM.bind x f s = EStateM.bind y g s ∧ _
  rw [EStateM.bind, EStateM.bind, ← heq]
  cases hr : x s with
  | ok a s' =>
      rw [endState_of_ok hr] at hend
      exact hf a s' hend
  | error p s' =>
      rw [endState_of_error hr] at hend
      exact ⟨rfl, hend⟩

/-- A common first step. -/
theorem step {x y : Act ω α} {f g : α → Act ω β} {a : α} {s' : State ω} (hx : x s = .ok a s')
    (hy : y s = .ok a s') (h : Alike P (f a) (g a) s') : Alike P (x >>= f) (y >>= g) s := by
  rw [Alike, bind_of_ok hx, bind_of_ok hy, endState_bind, hx]
  exact h

theorem ite {c : Prop} [Decidable c] {x y x' y' : Act ω α} (hx : Alike P x y s)
    (hx' : Alike P x' y' s) : Alike P (if c then x else x') (if c then y else y') s := by
  by_cases h : c
  · rwa [if_pos h, if_pos h]
  · rwa [if_neg h, if_neg h]

end Alike

/-! ## Posting -/

section

variable {log : List Message} {b : Bus ω} (hb : b.Discreet)
  {h : DispatcherId → Envelope → Act ω (Except DispatchError Targets)} (hh : b.SameOnStored h)
include hb hh

theorem alike_invoke {e : Envelope} (he : e.message ∈ log) (d : DispatcherId) {s : State ω}
    (hs : Filed log s) : Alike (Filed log) (b.invoke d e) ((b.handledBy h).invoke d e) s := by
  -- the handler runs after the entry, and there the message is still in the store
  let s₁ := s.extend [.dispatched d e] [] s.outside
  have hs₁ : Filed log s₁ :=
    { whole := hs.whole
      messages_eq := hs.messages_eq
      dispatched := by
        intro p hp
        rw [State.journal_extend, dispatches_append, List.mem_append] at hp
        rcases hp with hp | hp
        · exact hs.dispatched p hp
        · exact List.mem_singleton.1 hp ▸ he }
  refine .step (note_eq _ s) (note_eq _ s) ⟨hh d e s₁ (hs₁.messages_eq ▸ he), ?_⟩
  exact hs₁.frame (hb.store_eq d e s₁) (hb.dispatches_eq d e s₁)

theorem alike_deliverTo {e : Envelope} (he : e.message ∈ log) (o : ObserverId) (d : DispatcherId)
    {s : State ω} (hs : Filed log s) :
    Alike (Filed log) (b.deliverTo o e d) ((b.handledBy h).deliverTo o e d) s := by
  have hP : Steady (fun _ => True) (Filed log : State ω → Prop) := steady_filed log
  refine .bind (alike_invoke hb hh he d hs) fun answer s' hs' => .of_keeps ?_ hs'
  cases answer with
  | ok targets => exact .bind (hP.keeps_traceNamed b _ _ _ _) fun _ => .pure 0
  | error r =>
      refine .bind (hP.keeps_traceNamed b _ _ _ _) fun _ => ?_
      refine .bind (hP.keeps_note nofun rfl) fun _ => .bind (Steady.keeps_name b d) fun _ => ?_
      exact .bind (hP.keeps_acknowledge trivial _) fun _ => .pure 1

theorem alike_deliverToAll {e : Envelope} (he : e.message ∈ log) (o : ObserverId)
    (ds : List DispatcherId) {s : State ω} (hs : Filed log s) :
    Alike (Filed log) (b.deliverToAll o e ds) ((b.handledBy h).deliverToAll o e ds) s := by
  induction ds generalizing s with
  | nil => exact .of_keeps (.pure 0) hs
  | cons d ds ih =>
      refine .bind (alike_deliverTo hb hh he o d hs) fun failed s₁ hs₁ => ?_
      refine .bind (.of_keeps (steady_filed log).keeps_letGo hs₁) fun _ s₂ hs₂ => ?_
      exact .bind (ih hs₂) fun more s₃ hs₃ => .of_keeps (.pure _) hs₃

theorem alike_deliver {e : Envelope} (he : e.message ∈ log) (o : ObserverId) {s : State ω}
    (hs : Filed log s) : Alike (Filed log) (b.deliver o e) ((b.handledBy h).deliver o e) s := by
  refine .bind (.of_keeps ((steady_filed log).keeps_lookup b _) hs) fun ds s₁ hs₁ => ?_
  refine .ite (.of_keeps ((steady_filed log).keeps_bury b trivial e) hs₁) ?_
  refine .bind (.of_keeps ((steady_filed log).keeps_hold ds) hs₁) fun _ s₂ hs₂ => ?_
  exact alike_deliverToAll hb hh he o ds hs₂

theorem alike_deliverEach (o : ObserverId) {es : List Envelope} (he : ∀ e ∈ es, e.message ∈ log)
    {s : State ω} (hs : Filed log s) :
    Alike (Filed log) (b.deliverEach o es) ((b.handledBy h).deliverEach o es) s := by
  induction es generalizing s with
  | nil => exact .of_keeps (.pure 0) hs
  | cons e es ih =>
      -- what follows an envelope is the same, whether or not it was acknowledged
      have hrest : ∀ failed (s' : State ω), Filed log s' →
          Alike (Filed log) (do let more ← b.deliverEach o es; pure (failed + more))
            (do let more ← (b.handledBy h).deliverEach o es; pure (failed + more)) s' :=
        fun failed s' hs' => .bind (ih (fun e' h' => he e' (List.mem_cons_of_mem e h')) hs')
          fun more s₂ hs₂ => .of_keeps (.pure _) hs₂
      refine .bind (alike_deliver hb hh (he e List.mem_cons_self) o hs) fun failed s₁ hs₁ => ?_
      refine .ite (.bind (.of_keeps ?_ hs₁) fun _ s₂ hs₂ => hrest failed s₂ hs₂) ?_
      · exact (steady_filed log).keeps_acknowledge trivial _
      · exact hrest failed s₁ hs₁

end

theorem MessageStore.messages_of_whole {st : MessageStore} (h : st.kept.poisoned = false) :
    st.messages = st.kept.value := by
  rw [messages, Guarded.read?_of_whole h, Option.getD_some]

section

variable {log : List Message} {b : Bus ω} (hg : b.storage.TakesAll)
include hg

/-- To store a batch is to add it to the books. -/
theorem Filed.offer {s : State ω} (hs : Filed log s) {ms : List Message} (hne : ms.isEmpty = false)
    (hm : ∀ m ∈ ms, m.fragile = false) :
    ∃ s', b.offer ms s = .ok (.ok ()) s' ∧ Filed (log ++ ms) s' := by
  have hanswer : b.storage.answer ms s.store = .ok () := by
    rw [Storage.answer, hg.gate_eq, hs.whole, Bool.and_false]
    rfl
  have hkept : (b.storage.after ms s.store).kept = ⟨s.store.kept.value ++ ms, false⟩ := by
    rw [Storage.after, hanswer, hg.keeps_eq, ← hs.whole]
    rfl
  have hoffer := offer_eq b hne (fun _ => hm) s
  rw [hanswer] at hoffer
  have hwhole : (b.storage.after ms s.store).kept.poisoned = false := congrArg _ hkept
  refine ⟨_, hoffer, hwhole, ?_, ?_⟩
  · refine (MessageStore.messages_of_whole hwhole).trans ?_
    rw [hkept, ← hs.messages_eq, MessageStore.messages_of_whole hs.whole]
  · intro p hp
    rw [State.journal_extend, dispatches_append, dispatches_offerEntries, List.append_nil] at hp
    exact List.mem_append_left _ (hs.dispatched p hp)

variable (hb : b.Discreet) {h : DispatcherId → Envelope → Act ω (Except DispatchError Targets)}
  (hh : b.SameOnStored h)
include hb hh

theorem alike_dispatchBatch (o : ObserverId) {ms : List Message}
    (hm : ∀ m ∈ ms, m.fragile = false) {s : State ω} (hs : Filed log s) :
    Alike (Filed (log ++ ms)) (b.dispatchBatch o ms) ((b.handledBy h).dispatchBatch o ms) s := by
  cases ms with
  | nil => exact .of_keeps (.pure 0) (log.append_nil.symm ▸ hs)
  | cons m ms =>
      obtain ⟨s₁, hoffer, hs₁⟩ := hs.offer hg rfl hm
      have hs₂ : Filed (log ++ m :: ms) (s₁.making (b.envelopes s₁.made.length (m :: ms))) :=
        hs₁.frame rfl rfl
      have hwrap := (b.handledBy h).wrapAll_eq (m :: ms) s₁
      rw [envelopes_handledBy] at hwrap
      refine .step hoffer hoffer (.step (b.wrapAll_eq _ s₁) hwrap ?_)
      refine alike_deliverEach hb hh o (fun e he => ?_) hs₂
      obtain ⟨m', hm', i, rfl⟩ := exists_of_mem_envelopes he
      exact List.mem_append_right _ hm'

theorem alike_postAll (o : ObserverId) {batch : List Message} {s : State ω}
    (hm : ∀ m ∈ b.admitted batch s.outside, m.fragile = false) (hs : Filed log s) :
    Alike (Filed (log ++ b.admitted batch s.outside)) (b.postAll o batch)
      ((b.handledBy h).postAll o batch) s := by
  have hsift := sift_eq b o batch s
  have hs₁ : Filed log (endState (b.sift o batch) s) :=
    (steady_filed log).keeps_sift b trivial batch s hs
  rw [endState_of_ok hsift] at hs₁
  refine .step hsift (sift_eq (b.handledBy h) o batch s) ?_
  refine .bind (alike_dispatchBatch hg hb hh o hm hs₁) fun failed s₂ hs₂ => ?_
  exact .of_keeps ((steady_filed _).keeps_conclude b trivial _ _) hs₂

/-- Whatever is done with a bus adds the accepted messages to the books, and the
handlers are asked about messages in the store only. -/
theorem Operation.alike (k : Operation) {s : State ω}
    (hm : ∀ m ∈ b.admitted k.posted s.outside, m.fragile = false) (hs : Filed log s) :
    Alike (Filed (log ++ b.admitted k.posted s.outside)) (k.act b) (k.act (b.handledBy h)) s := by
  have hP : Steady (fun _ => True) (Filed log : State ω → Prop) := steady_filed log
  have hquiet : b.admitted [] s.outside = [] := rfl
  cases k with
  | register d cs =>
      rw [posted, hquiet, List.append_nil]
      exact .of_keeps (.map _ (hP.keeps_register b d cs)) hs
  | unregister d =>
      rw [posted, hquiet, List.append_nil]
      exact .of_keeps (.map _ (hP.keeps_unregister b d)) hs
  | close =>
      rw [posted, hquiet, List.append_nil]
      exact .of_keeps (hP.keeps_close b) hs
  | postAll o batch => exact alike_postAll hg hb hh o hm hs
  | post o m =>
      rw [act, act, Bus.post, Bus.post]
      cases hempty : m.empty with
      | true =>
          rw [posted, if_pos hempty, hquiet, List.append_nil, if_pos rfl, if_pos rfl]
          refine .of_keeps (.bind (hP.keeps_trace b _ _ _) fun _ => ?_) hs
          exact hP.keeps_acknowledge trivial _
      | false =>
          have hposted : (Operation.post o m).posted = [m] :=
            if_neg (Bool.eq_false_iff.1 hempty)
          rw [hposted] at hm ⊢
          exact alike_postAll hg hb hh o hm hs

theorem performAll_alike {ks : List Operation} {s : State ω}
    (hm : ∀ m ∈ b.admittedIn ks s, m.fragile = false) (hs : Filed log s) :
    (b.handledBy h).performAll ks s = b.performAll ks s ∧
      Filed (log ++ b.admittedIn ks s) (b.performAll ks s) := by
  induction ks generalizing s log with
  | nil => exact ⟨rfl, log.append_nil.symm ▸ hs⟩
  | cons k ks ih =>
      have hfirst : ∀ m ∈ b.admitted k.posted s.outside, m.fragile = false :=
        fun m hmem => hm m (List.mem_append_left _ hmem)
      have hrest : ∀ m ∈ b.admittedIn ks (endState (k.act b) s), m.fragile = false :=
        fun m hmem => hm m (List.mem_append_right _ hmem)
      obtain ⟨heq, hs₁⟩ := k.alike hg hb hh hfirst hs
      obtain ⟨hrun, hend⟩ := ih hrest hs₁
      refine ⟨?_, ?_⟩
      · rw [performAll, performAll, ← endState_congr heq, hrun]
      · rwa [admittedIn, ← List.append_assoc]

end

/-! ## Admission -/

theorem Family.refusal?_eq_none {f : Family} {c : Config} {m : Message}
    (h : f.refusal? c m = none) :
    (∀ kinds, f.kinds? = some kinds → m.kind ∈ kinds) ∧
      (c.rejectEmpty = true → m.empty = false) := by
  rw [refusal?] at h
  by_cases hempty : c.rejectEmpty = true ∧ m.empty = true
  · rw [if_pos hempty] at h
    cases h
  · rw [if_neg hempty] at h
    refine ⟨fun kinds hkinds => ?_, fun hc => ?_⟩
    · rw [hkinds] at h
      by_contra hkind
      simp [hkind] at h
    · exact Bool.eq_false_iff.2 fun hm => hempty ⟨hc, hm⟩

/-- What a family has nothing against. -/
theorem BelongsTo.refusal?_of_mem_admittedIn {b : Bus ω} {f : Family} {added : List (Sieve ω)}
    (hb : b.BelongsTo f added) {ks : List Operation} {s : State ω} {m : Message}
    (hm : m ∈ b.admittedIn ks s) : f.refusal? b.config m = none := by
  induction ks generalizing s with
  | nil => cases hm
  | cons k ks ih =>
      rcases List.mem_append.1 hm with hm | hm
      · obtain ⟨-, w, hpass⟩ := exists_of_mem_accepted hm
        rw [hb.sieves_eq, judgement_sieves, Family.judgement] at hpass
        cases hf : f.refusal? b.config m with
        | none => rfl
        | some e =>
            rw [hf] at hpass
            cases hpass
      · exact ih hm

/-- With filters that remember nothing, it depends on the messages alone which of them
are accepted. -/
theorem admittedIn_filters {b : Bus ω} {fs : List Filter} (hb : b.sieves = fs.map Filter.sieve)
    (ks : List Operation) (s : State ω) :
    b.admittedIn ks s = (ks.flatMap Operation.posted).filter (Filter.passes fs) := by
  induction ks generalizing s with
  | nil => rfl
  | cons k ks ih =>
      rw [admittedIn, ih, admitted, hb, accepted_filters, List.flatMap_cons, List.filter_append]

/-! ## Runs -/

/-- Nothing has happened yet. -/
def State.fresh (r : Registry) (w : ω) : State ω := { registry := r, outside := w }

theorem filed_fresh (r : Registry) (w : ω) : Filed [] (State.fresh r w) where
  whole := rfl
  messages_eq := rfl
  dispatched := fun _ hp => absurd hp List.not_mem_nil

/-- The store holds the messages that were accepted, in order.  If the filters remember
nothing, these are the posted messages that pass all of them.  Every message is in the
store when its dispatch begins, so it makes no difference what handlers do with others.
What is stored is of a kind that the bus takes, and it is not empty if the bus rejects
empty messages. -/
theorem messages_performAll {b : Bus ω} {f : Family} {added : List (Sieve ω)}
    (hbus : b.BelongsTo f added) (hg : b.storage.TakesAll) (hb : b.Discreet) (r : Registry) (w : ω)
    {ks : List Operation} (hm : ∀ m ∈ b.admittedIn ks (.fresh r w), m.fragile = false) :
    let s := b.performAll ks (.fresh r w)
    s.store.messages = b.admittedIn ks (.fresh r w) ∧
      (∀ fs : List Filter, added = fs.map Filter.sieve →
        s.store.messages = (ks.flatMap Operation.posted).filter
          (Filter.passes (f.ownFilters b.config ++ fs))) ∧
      (∀ p ∈ dispatches s.journal, p.2.message ∈ s.store.messages) ∧
      (∀ h, b.SameOnStored h → (b.handledBy h).performAll ks (.fresh r w) = s) ∧
      ∀ m ∈ s.store.messages, (∀ kinds, f.kinds? = some kinds → m.kind ∈ kinds) ∧
        (b.config.rejectEmpty = true → m.empty = false) := by
  intro s
  obtain ⟨-, hend⟩ := performAll_alike hg hb (fun _ _ _ _ => rfl) hm (filed_fresh r w)
  have hmessages : s.store.messages = b.admittedIn ks (.fresh r w) := hend.messages_eq
  refine ⟨hmessages, fun fs hfs => ?_, fun p hp => ?_, fun h hh => ?_, fun m hmem => ?_⟩
  · have hsieves : b.sieves = (f.ownFilters b.config ++ fs).map Filter.sieve := by
      rw [hbus.sieves_eq, hfs, Family.sieves, List.map_append]
    rw [hmessages, admittedIn_filters hsieves]
  · rw [hmessages]
    exact hend.dispatched p hp
  · exact (performAll_alike hg hb hh hm (filed_fresh r w)).1
  · rw [hmessages] at hmem
    exact Family.refusal?_eq_none (hbus.refusal?_of_mem_admittedIn hmem)

def noSpam : Filter :=
  .custom "spam" fun m => if m.body = "spam" then some (.invalid m "spam") else none

/-- Sorting counts what it gets and fails.  It breaks off when it gets something hot. -/
def sort (e : Envelope) : EStateM Panic Nat (Except DispatchError Targets) := fun n =>
  if e.message.body = "hot" then .error ⟨"dropped"⟩ n else .ok (.error ⟨"jammed"⟩) (n + 1)

/-- A bus of events that rejects spam. -/
def sortingRoom : Bus Nat :=
  ofFamily .events ⟨.reject, true⟩ [noSpam.sieve] (fun _ e => onOutside (sort e))
    (fun _ _ => .ok "sorter")

/-- Nobody is registered for the letter, the dispatcher of the parcels fails or breaks off,
and yet all of them are in the store. -/
theorem messages_performAll_sortingRoom :
    let parcel : Message :=
      { (default : Message) with messageClass := ⟨"parcel"⟩, kind := .event, body := "cold" }
    let hot : Message := { parcel with body := "hot" }
    let spam : Message := { parcel with body := "spam" }
    let order : Message := { parcel with kind := .command }
    let letter : Message := { parcel with messageClass := ⟨"letter"⟩ }
    let blank : Message := { parcel with empty := true }
    let ks : List Operation :=
      [.register ⟨0⟩ [⟨"parcel"⟩], .postAll ⟨7⟩ [parcel, spam, hot, order], .post ⟨7⟩ blank,
        .unregister ⟨0⟩, .post ⟨7⟩ letter, .register ⟨1⟩ [⟨"parcel"⟩], .post ⟨8⟩ parcel, .close]
    let wary : DispatcherId → Envelope → Act Nat (Except DispatchError Targets) := fun d e s =>
      if e.message ∈ s.store.messages then sortingRoom.handle d e s else .error ⟨"unfiled"⟩ s
    let s := sortingRoom.performAll ks (.fresh (.empty .multicast) 0)
    s.store.messages = [parcel, hot, letter, parcel] ∧
      (∀ p ∈ dispatches s.journal, p.2.message ∈ s.store.messages) ∧
      (sortingRoom.handledBy wary).performAll ks (.fresh (.empty .multicast) 0) = s ∧
      ∀ m ∈ s.store.messages, m.kind ∈ [MessageKind.event, .rejection] ∧ m.empty = false := by
  intro parcel hot spam order letter blank ks wary s
  have hbus : sortingRoom.BelongsTo .events [noSpam.sieve] := ⟨rfl, rfl⟩
  have htakes : sortingRoom.storage.TakesAll := ⟨fun _ _ => rfl, rfl⟩
  have hdiscreet : sortingRoom.Discreet := discreet_of_onOutside fun _ e => ⟨sort e, rfl⟩
  have hwary : sortingRoom.SameOnStored wary := fun d e s he => (if_pos he).symm
  have hm : ∀ m ∈ sortingRoom.admittedIn ks (.fresh (.empty .multicast) 0),
      m.fragile = false := by decide
  obtain ⟨-, hmessages, hdispatched, hsame, hadmitted⟩ :=
    messages_performAll hbus htakes hdiscreet (.empty .multicast) 0 hm
  exact ⟨(hmessages [noSpam] rfl).trans (by decide), hdispatched, hsame wary hwary,
    fun m hmem => ⟨(hadmitted m hmem).1 _ rfl, (hadmitted m hmem).2 rfl⟩⟩

end Switchboard.Bus
