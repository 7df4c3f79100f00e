import Mathlib.Data.List.Forall2
import Switchboard.Proofs.Forwarding.Relay
import Switchboard.Proofs.Registry.Registration

/-!
# Forwarding from end to end

A forwarder is registered with a bus, and somebody holds a subscription to it.  Other
dispatchers come and go, fail and panic, and use the bus while they handle an envelope.
The subscription gets the accepted messages of the forwarder's classes from the batches
that could be stored, each once and in the order in which they were posted
(`received_run`).

There are three things to be said besides (`not_forwarded`).  A panic of another dispatcher
cuts short what the subscription gets from one call.  A message that a handler posts comes
before the one that it handles, if the handler has its turn before the forwarder.  And behind
a poisoned registry nothing is forwarded at all.

What user code does is an inductive predicate again, of *bystanders* that do not take the
forwarder off the bus (`Bystander`).
-/

namespace Switchboard.Bus

variable {ω α β : Type}

open Act

namespace Outlet

variable {F : Outlet ω} {b : Bus ω} {voice : Voice}

/-! ## Bystanders -/

/-- What user code does that does not take the outlet off the bus.  It may use the bus with
other handlers.  Its voice says whether it also posts messages of the outlet's classes. -/
inductive Bystander (F : Outlet ω) (b : Bus ω) : Voice → {α : Type} → Act ω α → Prop where
  | pure {voice : Voice} {α : Type} (a : α) : Bystander F b voice (Pure.pure a : Act ω α)
  | bind {voice : Voice} {α β : Type} {x : Act ω α} {f : α → Act ω β} :
    Bystander F b voice x → (∀ a, Bystander F b voice (f a)) → Bystander F b voice (x >>= f)
  | panic {voice : Voice} {α : Type} (p : Panic) : Bystander F b voice (throw p : Act ω α)
  | recover {voice : Voice} {α : Type} {x : Act ω α} {f : Panic → Act ω α} :
    Bystander F b .quiet x → (∀ p, Bystander F b voice (f p)) →
    Bystander F b voice (tryCatch x f)
  | recoverBold {α : Type} {x : Act ω α} {f : Panic → Act ω α} :
    Bystander F b .bold x → (∀ p, Bystander F b .bold (f p)) → Bystander F b .bold (tryCatch x f)
  | look {voice : Voice} : Bystander F b voice (get : Act ω (State ω))
  /-- It changes what it keeps, or breaks off doing so. -/
  | outside {voice : Voice} {α : Type} {f : EStateM Panic ω α} :
    (∀ w, F.Spares w (endState f w)) → Bystander F b voice (onOutside f)
  /-- It writes an entry into the journal, but no acknowledgment. -/
  | note {voice : Voice} {e : Entry} :
    (∀ o a, e ≠ .acknowledged o a) → Bystander F b voice (Act.note e)
  | report {voice : Voice} (e : LogEntry) : Bystander F b voice (Act.report e)
  | register {voice : Voice} {d : DispatcherId} {cs : List MessageClass} :
    (d = F.dispatcher → cs ⊆ F.classes) → Bystander F b voice (b.register d cs)
  | unregister {voice : Voice} {d : DispatcherId} :
    d ≠ F.dispatcher → Bystander F b voice (b.unregister d)
  | post {voice : Voice} {h : DispatcherId → Envelope → Act ω (Except DispatchError Targets)}
    (o : ObserverId) {m : Message} :
    h F.dispatcher = b.handle F.dispatcher →
    (∀ d e, d ≠ F.dispatcher → Bystander F b voice (h d e)) →
    F.Postable voice [m] → Bystander F b voice ((b.handledBy h).post o m)
  | postAll {voice : Voice} {h : DispatcherId → Envelope → Act ω (Except DispatchError Targets)}
    (o : ObserverId) {batch : List Message} :
    h F.dispatcher = b.handle F.dispatcher →
    (∀ d e, d ≠ F.dispatcher → Bystander F b voice (h d e)) →
    F.Postable voice batch → Bystander F b voice ((b.handledBy h).postAll o batch)

/-- A bus with an outlet among its dispatchers.  The others are bystanders of some voice, and
the filters let the subscription be. -/
structure On (F : Outlet ω) (b : Bus ω) (voice : Voice) : Prop where
  handle_eq : ∀ e, b.handle F.dispatcher e = onOutside (F.port.lift (Forwarder.dispatch e))
  nameOf_eq : ∀ w, b.nameOf F.dispatcher w = .ok (F.port.get w).name
  bystander : ∀ d e, d ≠ F.dispatcher → F.Bystander b voice (b.handle d e)
  /-- No other dispatcher has its name. -/
  distinct : ∀ d w, d ≠ F.dispatcher → b.nameOf d w ≠ .ok F.name
  spares : ∀ f ∈ b.sieves, ∀ m w, F.Spares w (f.verdict m w).2

/-- The failures that a bus may acknowledge in the name of an outlet.  A filter may reject a
message with any failure, and any may be reported of a message of another class that has no
dispatcher. -/
inductive Excused (F : Outlet ω) (b : Bus ω) (err : PostError) : Prop where
  | rejected {f : Sieve ω} {m : Message} {w : ω} :
    f ∈ b.sieves → (f.verdict m w).1 = some err → Excused F b err
  | dead {e : Envelope} : e.messageClass ∉ F.classes → err ∈ b.dead e → Excused F b err

/-- Whether a panic is that of another dispatcher, which was called or asked for its name. -/
def Foreign (F : Outlet ω) (b : Bus ω) (p : Panic) : Prop :=
  ∃ d, d ≠ F.dispatcher ∧
    ((∃ e s s', b.handle d e s = .error p s') ∨ ∃ w, b.nameOf d w = .error p)

/-- The outlet of a bus, watched from some moment on. -/
def watch (F : Outlet ω) (b : Bus ω) (start : List Entry) : Watch ω :=
  { F with start := start, excused := F.Excused b }

/-- A bus serves an outlet also with other handlers, if these are bystanders, too. -/
theorem On.serves {voice' : Voice} (hF : F.On b voice') (start : List Entry) {blamed : Panic → Prop}
    {h : DispatcherId → Envelope → Act ω (Except DispatchError Targets)}
    (hforwarder : h F.dispatcher = b.handle F.dispatcher)
    (hh : ∀ d e, d ≠ F.dispatcher → (F.watch b start).Relays voice blamed [] (h d e))
    (hnames : ∀ d w p, d ≠ F.dispatcher → b.nameOf d w = .error p → blamed p) :
    (F.watch b start).Serves voice blamed (b.handledBy h) where
  handle_eq e := (congrFun hforwarder e).trans (hF.handle_eq e)
  nameOf_eq := hF.nameOf_eq
  handle := hh
  nameOf := hnames
  distinct := hF.distinct
  spares := hF.spares
  rejected _ hf _ _ _ herr := .rejected hf herr
  dead _ he _ herr := .dead he herr

/-- Bystanders hand on nothing but what they post. -/
theorem Bystander.relays {voice' : Voice} (hF : F.On b voice') (start : List Entry) {act : Act ω α}
    (h : F.Bystander b voice act) : (F.watch b start).Relays voice (fun _ => True) [] act := by
  induction h with
  | pure a => exact .pure a
  | bind _ _ hx hf => exact .after hx hf
  | panic p => exact .of_keeps (fun _ hs => hs) (fun _ _ _ hs => hs) fun _ _ _ _ => .inr trivial
  | recover _ _ hx hf => exact .recover hx hf
  | recoverBold _ _ hx hf => exact .recoverBold hx hf
  | look => exact .get
  | outside hf =>
      refine .of_keeps (lasting_poisoned.keeps_onOutside _) (fun q k => ?_)
        fun _ _ _ _ => .inr trivial
      exact Watch.Held.keeps_onOutside hf
  | note he => exact .note (Watch.clean_of_not_ack he)
  | report e => exact .report e
  | register hd => exact .register (fun _ _ _ _ => trivial) hd
  | unregister hd => exact .unregister (fun _ _ _ _ => trivial) hd
  | post o hforwarder _ hm hh =>
      exact (hF.serves start hforwarder hh fun _ _ _ _ _ => trivial).relays_post_inner
        (fun _ => trivial) o hm
  | postAll o hforwarder _ hm hh =>
      exact (hF.serves start hforwarder hh fun _ _ _ _ _ => trivial).relays_postAll_inner
        (fun _ => trivial) o hm

theorem On.serves_self (hF : F.On b voice) (start : List Entry) :
    (F.watch b start).Serves voice (F.Foreign b) b := by
  refine hF.serves start (h := b.handle) rfl (fun d e hd => ?_) fun d w p hd hp => ?_
  · have hrelays := (hF.bystander d e hd).relays hF start
    exact hrelays.blame fun s p s' hp => ⟨d, hd, .inl ⟨e, s, s', hp⟩⟩
  · exact ⟨d, hd, .inr ⟨w, hp⟩⟩

/-! ## Runs -/

/-- What may happen next: somebody calls the bus, uses the forwarder, or does something
else. -/
inductive Move (ω : Type) where
  | operate (op : Operation)
  | use (u : Forwarder.Use)
  | meanwhile (act : Act ω Unit)

namespace Move

/-- The state after a move, also after one that panics. -/
def after (F : Outlet ω) (b : Bus ω) : Move ω → State ω → State ω
  | operate op, s => endState (op.act b) s
  | use u, s => { s with outside := F.port.set (u.after (F.port.get s.outside)) s.outside }
  | meanwhile act, s => endState act s

/-- Whether the forwarder stays on the bus, gets no envelopes elsewhere, and keeps the
subscription. -/
def Allowed (F : Outlet ω) (b : Bus ω) : Move ω → Prop
  | operate (.register d cs) => d = F.dispatcher → cs ⊆ F.classes
  | operate (.unregister d) => d ≠ F.dispatcher
  | operate .close => False
  | operate (.post _ _) | operate (.postAll _ _) => True
  | use u => u.dispatched? = none ∧ u ≠ .drop F.subscription
  | meanwhile act => F.Bystander b .quiet act

/-- What the subscription receives in a move. -/
def received (F : Outlet ω) : Move ω → State ω → List Envelope
  | use u, s => u.received F.subscription (F.port.get s.outside)
  | operate _, _ | meanwhile _, _ => []

def operation? : Move ω → Option Operation
  | operate op => some op
  | use _ | meanwhile _ => none

end Move

/-- The state after some moves. -/
def run (F : Outlet ω) (b : Bus ω) : List (Move ω) → State ω → State ω
  | [], s => s
  | x :: xs, s => F.run b xs (x.after F b s)

/-- What the subscription receives in the course of some moves. -/
def received (F : Outlet ω) (b : Bus ω) : List (Move ω) → State ω → List Envelope
  | [], _ => []
  | x :: xs, s => x.received F s ++ F.received b xs (x.after F b s)

/-- The calls of the bus in the course of some moves, each with the state in which it
begins. -/
def calls (F : Outlet ω) (b : Bus ω) : List (Move ω) → State ω → List (Operation × State ω)
  | [], _ => []
  | x :: xs, s => x.operation?.toList.map (·, s) ++ F.calls b xs (x.after F b s)

/-- The messages that are accepted in a call. -/
def acceptedIn (b : Bus ω) (call : Operation × State ω) : List Message :=
  b.admitted call.1.posted call.2.outside

/-- The envelopes of the outlet's classes that are made in the course of a call, after those
of the call's own messages.  Handlers have posted what is in them, and the store took it. -/
def besides (F : Outlet ω) (b : Bus ω) (call : Operation × State ω) : List Envelope :=
  let before := F.share call.2.made
  let after := F.share (endState (call.1.act b) call.2).made
  after.drop (before ++ F.due b (acceptedIn b call) call.2).length

/-- What the subscription gets by a call: what is due, in order, and what handlers posted
besides.  Of the latter, something may be missing if handlers are bold.  If another dispatcher
panicked, it gets the first part of what is due, and perhaps not all that handlers posted. -/
def Gets (F : Outlet ω) (b : Bus ω) (voice : Voice) (call : Operation × State ω)
    (g : List Envelope) : Prop :=
  let due := F.due b (acceptedIn b call) call.2
  match call.1.act b call.2 with
  | .ok _ _ => voice.Heard due (F.besides b call) g
  | .error p _ => F.Foreign b p ∧ Broken due (F.besides b call) g

variable {q k : List Envelope} {s : State ω} {start : List Entry} {op : Operation}

theorem Move.keeps_poisoned (hF : F.On b voice) {x : Move ω} (hx : x.Allowed F b) (h : s.Poisoned) :
    (x.after F b s).Poisoned := by
  have hhandle := (hF.serves_self []).keeps_poisoned
  cases x with
  | operate op =>
      cases op with
      | register d cs => exact Keeps.map _ (lasting_poisoned.keeps_register b d cs) s h
      | unregister d => exact Keeps.map _ (lasting_poisoned.keeps_unregister b d) s h
      | close => exact absurd hx not_false
      | post o m => exact lasting_poisoned.keeps_post hhandle trivial m s h
      | postAll o batch => exact lasting_poisoned.keeps_postAll hhandle trivial batch s h
  | use u => exact h
  | meanwhile act => exact (hx.relays hF []).poisoned s h

theorem run_poisoned (hF : F.On b voice) {xs : List (Move ω)} (hxs : ∀ x ∈ xs, x.Allowed F b)
    (h : s.Poisoned) : (F.run b xs s).Poisoned := by
  induction xs generalizing s with
  | nil => exact h
  | cons x xs ih =>
      have hx := hxs x List.mem_cons_self
      exact ih (fun y hy => hxs y (List.mem_cons_of_mem x hy)) (x.keeps_poisoned hF hx h)

/-- No call makes a copy that panics, if everything that is posted can be copied. -/
theorem copyable_calls {xs : List (Move ω)}
    (h : ∀ op ∈ xs.filterMap Move.operation?, ∀ m ∈ op.posted, m.fragile = false) :
    ∀ call ∈ F.calls b xs s, F.Copyable b (acceptedIn b call) call.2.store := by
  induction xs generalizing s with
  | nil => exact List.forall_mem_nil _
  | cons x xs ih =>
      refine List.forall_mem_append.2 ⟨List.forall_mem_map.2 fun op hop _ m hm _ => ?_, ih ?_⟩
      · have hmem : op ∈ (x :: xs).filterMap Move.operation? :=
          List.mem_filterMap.2 ⟨x, List.mem_cons_self, Option.mem_toList.1 hop⟩
        exact h op hmem m (mem_of_mem_accepted hm)
      · intro op hop
        obtain ⟨y, hy, hop⟩ := List.mem_filterMap.1 hop
        exact h op (List.mem_filterMap.2 ⟨y, List.mem_cons_of_mem x hy, hop⟩)

/-- What is due from the messages that a call accepts is handed on. -/
theorem On.ends_operation (hF : F.On b voice) (hop : (Move.operate op).Allowed F b)
    (hcopy : F.Copyable b (acceptedIn b (op, s)) s.store) (h : (F.watch b start).Linked q k s) :
    (F.watch b start).Ends voice (F.Foreign b) q (k ++ F.due b (acceptedIn b (op, s)) s)
      (F.due b (acceptedIn b (op, s)) s) (op.act b s) := by
  have hW := hF.serves_self start
  have hdue : F.due b (b.admitted [] s.outside) s = [] := F.due_nil b s
  rw [acceptedIn] at hcopy ⊢
  cases op with
  | register d cs =>
      have hd : d = F.dispatcher → cs ⊆ F.classes := hop
      rw [Operation.posted, hdue, List.append_nil]
      exact (Watch.Relays.map _ (.register hW.nameOf_blamed hd)).ends h
  | unregister d =>
      have hd : d ≠ F.dispatcher := hop
      rw [Operation.posted, hdue, List.append_nil]
      exact (Watch.Relays.map _ (.unregister hW.nameOf_blamed hd)).ends h
  | close => exact absurd hop not_false
  | post o m =>
      rw [Operation.act, Bus.post]
      cases hempty : m.empty with
      | true =>
          rw [Operation.posted, if_pos hempty, hdue, List.append_nil, if_pos rfl]
          refine Watch.Relays.ends (.after (.trace _ _ _) fun _ => ?_) h
          exact .acknowledge o fun _ _ _ h => by cases h
      | false =>
          have hposted : (Operation.post o m).posted = [m] := if_neg (Bool.eq_false_iff.1 hempty)
          rw [hposted] at hcopy ⊢
          exact hW.ends_postAll o hcopy h
  | postAll o batch => exact hW.ends_postAll o hcopy h

/-- What a call hands on is in the queue afterwards, if the registry is whole then. -/
theorem On.exists_gets (hF : F.On b voice) (hop : (Move.operate op).Allowed F b)
    (hcopy : F.Copyable b (acceptedIn b (op, s)) s.store) (h : (F.watch b start).Linked q k s)
    (hend : ¬ (endState (op.act b) s).Poisoned) :
    ∃ g k', F.Gets b voice (op, s) g ∧
      (F.watch b start).Linked (q ++ g) k' (endState (op.act b) s) := by
  have hends := hF.ends_operation hop hcopy h
  have hbesides {others q' : List Envelope} (hl : (F.watch b start).Linked q'
      (k ++ F.due b (acceptedIn b (op, s)) s ++ others) (endState (op.act b) s)) :
      F.besides b (op, s) = others := by
    have hbefore : F.share s.made = k := h.made_eq
    have hafter : F.share (endState (op.act b) s).made = _ := hl.made_eq
    rw [besides, hbefore, hafter]
    exact List.drop_left
  rw [endState] at hend hbesides ⊢
  simp only [Gets]
  cases hr : op.act b s with
  | ok a s' =>
      rw [hr] at hends hend hbesides
      obtain ⟨others, g, -, hg, hlinked⟩ := hends.resolve_left hend
      rw [hbesides hlinked]
      exact ⟨g, _, hg, hlinked⟩
  | error p s' =>
      rw [hr] at hends hend hbesides
      obtain ⟨hforeign, others, g, -, hg, hlinked⟩ := hends.resolve_left hend
      rw [hbesides hlinked]
      exact ⟨g, _, ⟨hforeign, hg⟩, hlinked⟩

/-- What the subscription received in the course of some moves, and then what it keeps, is
what it kept, and then what it got by the calls. -/
theorem On.run_gets (hF : F.On b voice) {xs : List (Move ω)} (hxs : ∀ x ∈ xs, x.Allowed F b)
    (hcopy : ∀ call ∈ F.calls b xs s, F.Copyable b (acceptedIn b call) call.2.store)
    (hend : ¬ (F.run b xs s).Poisoned) (h : (F.watch b start).Linked q k s) :
    ∃ gs q' k', List.Forall₂ (F.Gets b voice) (F.calls b xs s) gs ∧
      F.received b xs s ++ q' = q ++ gs.flatten ∧
      (F.watch b start).Linked q' k' (F.run b xs s) := by
  induction xs generalizing s q k with
  | nil => exact ⟨[], q, k, .nil, (List.append_nil q).symm, h⟩
  | cons x xs ih =>
      have hx := hxs x List.mem_cons_self
      have hrest : ∀ y ∈ xs, y.Allowed F b := fun y hy => hxs y (List.mem_cons_of_mem x hy)
      have hcopyRest : ∀ call ∈ F.calls b xs (x.after F b s),
          F.Copyable b (acceptedIn b call) call.2.store :=
        fun call hc => hcopy call (List.mem_append_right _ hc)
      have hwhole : ¬ (x.after F b s).Poisoned := fun hp => by
        have hlast : (F.run b xs (x.after F b s)).Poisoned := run_poisoned hF hrest hp
        exact hend hlast
      cases x with
      | operate op =>
          obtain ⟨g, k₁, hgets, hlinked⟩ :=
            hF.exists_gets hx (hcopy (op, s) List.mem_cons_self) h hwhole
          obtain ⟨gs, q', k', hall, hsum, hlast⟩ := ih hrest hcopyRest hend hlinked
          refine ⟨g :: gs, q', k', .cons hgets hall, ?_, hlast⟩
          rw [received, List.flatten_cons, ← List.append_assoc, ← hsum]
          rfl
      | use u =>
          obtain ⟨q₁, hq₁, hattached⟩ := h.attached.after hx.1 hx.2
          have hset : F.port.get (F.port.set (u.after (F.port.get s.outside)) s.outside) =
              u.after (F.port.get s.outside) := F.port.get_set _ _
          obtain ⟨gs, q', k', hall, hsum, hlast⟩ :=
            ih hrest hcopyRest hend (h.outside (hset.symm ▸ hattached))
          refine ⟨gs, q', k', hall, ?_, hlast⟩
          rw [received, List.append_assoc, hsum, ← List.append_assoc, Move.received]
          exact congrArg (· ++ gs.flatten) hq₁
      | meanwhile act =>
          have hbystander : F.Bystander b .quiet act := hx
          have hkept := (hbystander.relays hF start).keeps q k s (.inr h)
          exact ih hrest hcopyRest hend (hkept.resolve_left hwhole)

/-! ## The whole way -/

/-- A registration that succeeds lists the dispatcher under its classes. -/
theorem register_lists {d : DispatcherId} {cs : List MessageClass} {s' : State ω}
    (h : ∀ c, d ∈ s.registry.dispatchersFor c → c ∈ cs)
    (hr : b.register d cs s = .ok (.ok ()) s') :
    ∀ c, d ∈ s'.registry.dispatchersFor c ↔ c ∈ cs := by
  intro c
  obtain ⟨hwhole, -, -, hregistry⟩ := register_ok hr
  have henrolled := Registry.enrolled_enroll hwhole d cs
  rw [hregistry]
  by_cases hc : c ∈ cs
  · exact iff_of_true (henrolled.listed c hc) hc
  · rw [henrolled.elsewhere_eq c hc]
    exact iff_of_false (fun hd => hc (h c hd)) hc

/-- A forwarder is registered under its classes, and stays so.  Whatever happens besides, the
subscription gets from each call what is due from it and what handlers post in the course of
it, and nothing else.  It may get less from a call that another dispatcher breaks off.  It
gets all this in the order of the calls.  The forwarder is never blamed for a message of its
classes that was accepted. -/
theorem received_run (hF : F.On b voice) {mode : Mode} (hs : Reached mode s)
    (hlisted : ∀ c, F.dispatcher ∈ s.registry.dispatchersFor c ↔ c ∈ F.classes)
    {us : List Forwarder.Use} (hunbroken : Forwarder.Unbroken us { name := F.name })
    (hused : F.port.get s.outside = Forwarder.run us { name := F.name })
    (hlive : (F.port.get s.outside).isLive F.subscription = true)
    {xs : List (Move ω)} (hxs : ∀ x ∈ xs, x.Allowed F b)
    (hcopy : ∀ call ∈ F.calls b xs s, F.Copyable b (acceptedIn b call) call.2.store)
    (hwhole : (F.run b xs s).registry.listing.poisoned = false) :
    ∃ gs es, List.Forall₂ (F.Gets b voice) (F.calls b xs s) gs ∧
      F.received b xs s ++ (F.port.get (F.run b xs s).outside).queue F.subscription =
        (F.port.get s.outside).queue F.subscription ++ gs.flatten ∧
      (F.run b xs s).journal = s.journal ++ es ∧
      ∀ o i c reason, .acknowledged o (.error (.dispatch i c F.name reason)) ∈ es →
        F.Excused b (.dispatch i c F.name reason) := by
  have hend : ¬ (F.run b xs s).Poisoned := Bool.eq_false_iff.1 hwhole
  have hstart : ¬ s.Poisoned := fun hp => hend (run_poisoned hF hxs hp)
  have hattached : Forwarder.Attached F.subscription F.name
      ((F.port.get s.outside).queue F.subscription) (F.port.get s.outside) := by
    refine ⟨?_, ?_, ?_, ?_⟩
    · rw [hused]
      exact (Forwarder.sound_new F.name).run us
    · rw [hused]
      exact Forwarder.whole_run rfl hunbroken
    · rw [hused, Forwarder.name_run]
    · rw [Forwarder.isLive_eq, Option.isSome_iff_exists] at hlive
      obtain ⟨q, hq⟩ := hlive
      rw [Forwarder.queue_eq, hq]
      rfl
  have hlinked : (F.watch b s.journal).Linked ((F.port.get s.outside).queue F.subscription)
      (F.share s.made) s :=
    { whole := hstart
      sound := hs.sound.1
      lists := fun c => by
        rw [← Registry.dispatchersFor_of_not_poisoned (Bool.eq_false_iff.2 hstart)]
        exact hlisted c
      attached := hattached
      made_eq := rfl
      journal := ⟨[], (List.append_nil _).symm, List.forall_mem_nil _⟩ }
  obtain ⟨gs, q', k', hall, hsum, hlast⟩ := hF.run_gets hxs hcopy hend hlinked
  obtain ⟨es, hjournal, hclean⟩ := hlast.journal
  refine ⟨gs, es, hall, ?_, hjournal, fun o i c reason hmem => hclean _ hmem o i c reason rfl⟩
  rw [← hsum, Forwarder.queue_eq]
  exact congrArg _ (congrArg (·.getD []) hlast.attached.queue_eq)

/-! ### A depot -/

def outbox : Outlet Forwarder := ⟨.whole, ⟨0⟩, "outbox", [⟨"parcel"⟩], ⟨0⟩⟩

/-- A bus of events with the outbox, and clerks beside it. -/
def depot (clerk : DispatcherId → Envelope → Act Forwarder (Except DispatchError Targets)) :
    Bus Forwarder :=
  { ofFamily .events .forEvents []
      (fun d e =>
        if d = ⟨0⟩ then onOutside (outbox.port.lift (Forwarder.dispatch e)) else clerk d e)
      (fun d f => if d = ⟨0⟩ then .ok f.name else .ok "clerk") with
    stamp := daily }

def parcel (body : String) : Message :=
  { (default : Message) with messageClass := ⟨"parcel"⟩, kind := .event, body := body }

/-- Nobody is registered yet, and somebody has subscribed to the outbox. -/
def closed (mode : Mode) : State Forwarder where
  registry := .empty mode
  outside := (Forwarder.subscribe { name := "outbox" }).2

/-- A clerk and the outbox are registered. -/
def opening (c : MessageClass) : List (Move Forwarder) :=
  [.operate (.register ⟨1⟩ [c]), .operate (.register ⟨0⟩ [⟨"parcel"⟩])]

def quiet : Bus Forwarder := depot fun _ _ => pure (.ok ⟨[]⟩)

theorem not_forwarded :
    let posting : Move Forwarder := .operate (.post ⟨7⟩ (parcel "a"))
    -- a clerk panics, and has its turn before the outbox
    (let b := depot fun _ _ => throw ⟨"clerk"⟩
     let s := outbox.run b (opening ⟨"parcel"⟩ ++ [posting]) (closed .multicast)
     s.store.messages = [parcel "a"] ∧ s.registry.dispatchersFor ⟨"parcel"⟩ = [⟨1⟩, ⟨0⟩] ∧
       s.outside.isLive ⟨0⟩ = true ∧ s.outside.queue ⟨0⟩ = []) ∧
    -- a clerk posts in its turn
    (let b := depot fun _ e => do
       if e.message = parcel "a" then quiet.post ⟨8⟩ (parcel "b")
       pure (.ok ⟨[]⟩)
     let s := outbox.run b (opening ⟨"parcel"⟩ ++ [posting]) (closed .multicast)
     s.store.messages = [parcel "a", parcel "b"] ∧
       s.registry.dispatchersFor ⟨"parcel"⟩ = [⟨1⟩, ⟨0⟩] ∧ s.outside.isLive ⟨0⟩ = true ∧
       s.outside.queue ⟨0⟩ = [.wrap (daily 1) (parcel "b"), .wrap (daily 0) (parcel "a")]) ∧
    -- a clerk cannot be named when another one wants its class
    let b : Bus Forwarder := { quiet with
      nameOf := fun d f => if d = ⟨0⟩ then .ok f.name else .error ⟨"clerk"⟩ }
    let s := outbox.run b (opening ⟨"letter"⟩ ++ [.operate (.register ⟨2⟩ [⟨"letter"⟩]), posting])
      (closed .unicast)
    s.store.messages = [parcel "a"] ∧ s.registry.listing.value.holders ⟨"parcel"⟩ = [⟨0⟩] ∧
      s.outside.isLive ⟨0⟩ = true ∧ s.outside.queue ⟨0⟩ = [] := by
  decide +kernel

/-- Tears what it gets, and of one parcel it sends a copy before. -/
def copyist (e : Envelope) : Act Forwarder (Except DispatchError Targets) := do
  quiet.postAll ⟨8⟩ (if e.message = parcel "a" then [parcel "copy of a"] else [])
  pure (.error ⟨"torn"⟩)

def desk : Bus Forwarder := depot fun d e => if d = ⟨2⟩ then throw ⟨"clerk"⟩ else copyist e

theorem bystander_copyist (e : Envelope) : outbox.Bystander desk .loud (copyist e) := by
  have hquiet : quiet = desk.handledBy quiet.handle := rfl
  rw [copyist, hquiet]
  refine .bind (.postAll ⟨8⟩ rfl (fun d e hd => ?_) ?_) fun _ => .pure _
  · have hpure : quiet.handle d e = pure (.ok ⟨[]⟩) := if_neg hd
    rw [hpure]
    exact .pure _
  · refine .inr ⟨nofun, ?_⟩
    split
    · exact List.forall_mem_singleton.2 rfl
    · exact List.forall_mem_nil _

theorem on_desk : outbox.On desk .loud where
  handle_eq e := rfl
  nameOf_eq w := rfl
  bystander d e hd := by
    have hhandle : desk.handle d e = if d = ⟨2⟩ then throw ⟨"clerk"⟩ else copyist e := if_neg hd
    rw [hhandle]
    split
    · exact .panic _
    · exact bystander_copyist e
  distinct d w hd := by
    have hname : desk.nameOf d w = .ok "clerk" := if_neg hd
    rw [hname]
    decide
  spares f hf m w := by
    have hsieves : desk.sieves = (Family.events.ownFilters .forEvents).map Filter.sieve :=
      List.append_nil _
    rw [hsieves] at hf
    obtain ⟨g, -, rfl⟩ := List.mem_map.1 hf
    exact .refl ⟨0⟩ w

/-- The outbox is registered after a clerk. -/
def openDesk : State Forwarder :=
  { closed .multicast with
    registry := ⟨.multicast, ⟨[(⟨"parcel"⟩, [⟨1⟩, ⟨0⟩])], false⟩⟩ }

theorem reached_openDesk :
    Reached .multicast openDesk ∧
      ∀ c, ⟨0⟩ ∈ openDesk.registry.dispatchersFor c ↔ c ∈ outbox.classes := by
  let s : State Forwarder :=
    { closed .multicast with registry := ⟨.multicast, ⟨[(⟨"parcel"⟩, [⟨1⟩])], false⟩⟩ }
  have hclerk : endState (desk.register ⟨1⟩ [⟨"parcel"⟩]) (closed .multicast) = s := rfl
  have houtbox : desk.register ⟨0⟩ [⟨"parcel"⟩] s = .ok (.ok ()) openDesk := rfl
  have hs : Reached .multicast s := by
    rw [← hclerk]
    exact .next (.start {} _) (.register desk ⟨1⟩ [⟨"parcel"⟩])
  constructor
  · rw [← endState_of_ok houtbox]
    exact hs.next (.register desk ⟨0⟩ [⟨"parcel"⟩])
  · refine register_lists (fun c hc => ?_) houtbox
    have hholders : (⟨0⟩ : DispatcherId) ∈ Listing.holders c [(⟨"parcel"⟩, [⟨1⟩])] := hc
    rw [Listing.holders] at hholders
    split at hholders
    · cases List.mem_singleton.1 hholders
    · cases hholders

/-- Two batches, of which the second one is broken off.  In between, the subscription is read
and another one is made, and one clerk replaces the other. -/
def shift : List (Move Forwarder) :=
  [.operate (.postAll ⟨7⟩ [parcel "a", { parcel "b" with messageClass := ⟨"letter"⟩ }, parcel "c"]),
    .use (.receive ⟨0⟩ true), .use .subscribe, .operate (.unregister ⟨1⟩),
    .operate (.register ⟨2⟩ [⟨"parcel"⟩]), .operate (.postAll ⟨7⟩ [parcel "d", parcel "e"])]

theorem received_run_shift :
    ∃ gs es, List.Forall₂ (outbox.Gets desk .loud) (outbox.calls desk shift openDesk) gs ∧
      gs.flatten = [.wrap (daily 3) (parcel "copy of a"), .wrap (daily 0) (parcel "a"),
        .wrap (daily 2) (parcel "c"), .wrap (daily 4) (parcel "d")] ∧
      outbox.received desk shift openDesk = [.wrap (daily 3) (parcel "copy of a")] ∧
      (outbox.run desk shift openDesk).journal = openDesk.journal ++ es ∧
      ∀ o i c reason, .acknowledged o (.error (.dispatch i c "outbox" reason)) ∈ es →
        outbox.Excused desk (.dispatch i c "outbox" reason) := by
  obtain ⟨hreached, hlisted⟩ := reached_openDesk
  have hunbroken : Forwarder.Unbroken [.subscribe] { name := "outbox" } :=
    Forwarder.unbroken_of_copyable (by decide)
  have hallowed : ∀ x ∈ shift, x.Allowed outbox desk := by
    have hclerk : (⟨1⟩ : DispatcherId) ≠ outbox.dispatcher := by decide
    have hheir : (⟨2⟩ : DispatcherId) ≠ outbox.dispatcher := by decide
    simp only [shift, List.forall_mem_cons]
    exact ⟨trivial, ⟨rfl, nofun⟩, ⟨rfl, nofun⟩, hclerk, fun h => absurd h hheir, trivial,
      List.forall_mem_nil _⟩
  have hcopyable : ∀ call ∈ outbox.calls desk shift openDesk,
      outbox.Copyable desk (acceptedIn desk call) call.2.store := copyable_calls (by decide)
  have hreceived : outbox.received desk shift openDesk =
      [.wrap (daily 3) (parcel "copy of a")] := by
    decide +kernel
  have hqueue : (outbox.port.get (outbox.run desk shift openDesk).outside).queue
      outbox.subscription = [.wrap (daily 0) (parcel "a"), .wrap (daily 2) (parcel "c"),
        .wrap (daily 4) (parcel "d")] := by
    decide +kernel
  obtain ⟨gs, es, hgets, hsum, hjournal, hclean⟩ :=
    received_run on_desk hreached hlisted hunbroken rfl rfl hallowed hcopyable (by decide +kernel)
  rw [hreceived, hqueue] at hsum
  exact ⟨gs, es, hgets, hsum.symm, hreceived, hjournal, hclean⟩

end Outlet

end Switchboard.Bus
