import Mathlib.Data.List.Perm.Subperm
import Switchboard.Proofs.Forwarding.Outlet
import Switchboard.Proofs.Posting.AuditLog

/-!
# What posting hands on

A bus *relays* envelopes to an outlet: to post a batch is to hand on the envelopes that are
due from it, one for each accepted message of the outlet's classes, in order
(`Serves.ends_postAll`).  The other dispatchers of a delivery may change the registry and
break off, but they cannot take an envelope away or put one twice.

Handlers may post messages of the outlet's classes themselves.  These are handed on at once,
so they come between the envelopes that are due, or before them (`Mixed`).  If such a post is
broken off and somebody recovers, a part of it is lost (`Partly`).  A `Voice` says what of
this handlers do.

`Ends` says how an action ends: the subscription has got what was due, or the first part of
it if the action was broken off, and what handlers posted besides, unless the registry is
poisoned then.  Actions are put together as what they hand on is (`Relays.bind`), so each
part of posting is looked at by itself.
-/

namespace Switchboard.Bus

variable {ω α β : Type}

open Act

/-! ## Mixtures -/

/-- Whether a list is made up of some elements in order, and others anywhere. -/
structure Mixed (own others l : List α) : Prop where
  ordered : own.Sublist l
  complete : l.Perm (own ++ others)

/-- Whether a list is such a mixture, but some of the others may be missing. -/
def Partly (own others l : List α) : Prop := ∃ others', others'.Subperm others ∧ Mixed own others' l

/-- Whether the elements in order end early, and some of the others may be missing. -/
def Broken (own others l : List α) : Prop := ∃ own', own' <+: own ∧ Partly own' others l

namespace Mixed

variable {own own' others others' l l' : List α}

theorem self (own : List α) : Mixed own [] own := ⟨.refl own, .of_eq (List.append_nil own).symm⟩

/-- Nothing but the elements in order is there. -/
theorem eq_self (h : Mixed own [] l) : l = own := by
  have hlength := h.complete.length_eq
  rw [List.append_nil] at hlength
  exact (h.ordered.eq_of_length hlength.symm).symm

/-- It does not matter that there was an order. -/
theorem forget (h : Mixed own others l) : Mixed [] (own ++ others) l :=
  ⟨List.nil_sublist l, h.complete⟩

theorem partly (h : Mixed own others l) : Partly own others l := ⟨others, .refl others, h⟩

theorem append (h : Mixed own others l) (h' : Mixed own' others' l') :
    Mixed (own ++ own') (others ++ others') (l ++ l') where
  ordered := h.ordered.append h'.ordered
  complete := by
    have hswap : (others ++ (own' ++ others')).Perm (own' ++ (others ++ others')) := by
      rw [← List.append_assoc, ← List.append_assoc]
      exact List.perm_append_comm.append_right others'
    calc
      (l ++ l').Perm ((own ++ others) ++ (own' ++ others')) := h.complete.append h'.complete
      _ = own ++ (others ++ (own' ++ others')) := List.append_assoc _ _ _
      List.Perm _ (own ++ (own' ++ (others ++ others'))) := hswap.append_left own
      _ = (own ++ own') ++ (others ++ others') := (List.append_assoc _ _ _).symm

end Mixed

namespace Partly

variable {own own' others others' l l' : List α}

theorem eq_self (h : Partly own [] l) : l = own := by
  obtain ⟨others', hothers, hmixed⟩ := h
  obtain rfl := List.subperm_nil.1 hothers
  exact hmixed.eq_self

theorem forget (h : Partly own others l) : Partly [] (own ++ others) l := by
  obtain ⟨others', hothers, hmixed⟩ := h
  exact ⟨own ++ others', (List.subperm_append_left own).2 hothers, hmixed.forget⟩

theorem append (h : Partly own others l) (h' : Partly own' others' l') :
    Partly (own ++ own') (others ++ others') (l ++ l') := by
  obtain ⟨first, hfirst, hmixed⟩ := h
  obtain ⟨second, hsecond, hmixed'⟩ := h'
  exact ⟨first ++ second, hfirst.append hsecond, hmixed.append hmixed'⟩

end Partly

namespace Broken

variable {own own' others others' l l' : List α}

theorem nil : Broken own others ([] : List α) :=
  ⟨[], List.nil_prefix, [], List.nil_subperm, .self []⟩

theorem isPrefix (h : Broken own [] l) : l <+: own := by
  obtain ⟨own', hown, hpartly⟩ := h
  rwa [hpartly.eq_self]

/-- If nothing was due, nothing of it is missing. -/
theorem partly (h : Broken [] others l) : Partly [] others l := by
  obtain ⟨own', hown, hpartly⟩ := h
  rwa [List.prefix_nil.1 hown] at hpartly

theorem forget (h : Broken own others l) : Broken [] (own ++ others) l := by
  obtain ⟨own', hown, others', hothers, hmixed⟩ := h
  refine ⟨[], List.nil_prefix, own' ++ others', ?_, hmixed.forget⟩
  exact hown.sublist.subperm.append hothers

/-- More was to come. -/
theorem extend (h : Broken own others l) (own' : List α) : Broken (own ++ own') others l := by
  obtain ⟨first, hfirst, hpartly⟩ := h
  exact ⟨first, hfirst.trans (List.prefix_append own own'), hpartly⟩

theorem append (h : Partly own others l) (h' : Broken own' others' l') :
    Broken (own ++ own') (others ++ others') (l ++ l') := by
  obtain ⟨first, hfirst, hpartly⟩ := h'
  exact ⟨own ++ first, (List.prefix_append_right_inj own).2 hfirst, h.append hpartly⟩

end Broken

/-! ## Voices -/

/-- How user code posts messages of the outlet's classes. -/
inductive Voice where
  /-- It posts none. -/
  | quiet
  /-- It does not recover from a panic while they are under way. -/
  | loud
  /-- It may recover from such a panic. -/
  | bold

namespace Voice

variable {voice : Voice} {own own' others others' l l' : List α}

/-- What is got if nobody breaks off: what was due in order, and what was posted besides.
Some of that is missing if somebody recovered while it was under way. -/
def Heard : Voice → List α → List α → List α → Prop
  | quiet | loud => Mixed
  | bold => Partly

theorem Heard.self (voice : Voice) (own : List α) : voice.Heard own [] own := by
  cases voice with
  | bold => exact (Mixed.self own).partly
  | _ => exact Mixed.self own

theorem Heard.partly (h : voice.Heard own others l) : Partly own others l := by
  cases voice with
  | bold => exact h
  | _ => exact Mixed.partly h

theorem Heard.forget (h : voice.Heard own others l) : voice.Heard [] (own ++ others) l := by
  cases voice with
  | bold => exact Partly.forget h
  | _ => exact Mixed.forget h

theorem Heard.append (h : voice.Heard own others l) (h' : voice.Heard own' others' l') :
    voice.Heard (own ++ own') (others ++ others') (l ++ l') := by
  cases voice with
  | bold => exact Partly.append h h'
  | _ => exact Mixed.append h h'

end Voice

namespace Watch

variable {W : Watch ω} {voice : Voice} {blamed : Panic → Prop} {b : Bus ω}
  {q k own own' : List Envelope} {s : State ω}

/-! ## What an action hands on -/

/-- What the subscription got is in a relation with the envelopes that were made for it
besides.  If everybody is quiet, there are none. -/
def Got (W : Watch ω) (voice : Voice) (q k : List Envelope)
    (R : List Envelope → List Envelope → Prop) (s : State ω) : Prop :=
  ∃ others g, (voice = .quiet → others = []) ∧ R others g ∧ W.Linked (q ++ g) (k ++ others) s

/-- How an action ends that hands certain envelopes to the subscription, unless the registry
is poisoned then.  If it panics, it may have handed on the first of them only. -/
def Ends (W : Watch ω) (voice : Voice) (blamed : Panic → Prop) (q k own : List Envelope) :
    EStateM.Result Panic (State ω) α → Prop
  | .ok _ s => s.Poisoned ∨ W.Got voice q k (voice.Heard own) s
  | .error p s => s.Poisoned ∨ blamed p ∧ W.Got voice q k (Broken own) s

theorem Got.of_linked {R : List Envelope → List Envelope → Prop} (hR : R [] own)
    (h : W.Linked (q ++ own) k s) : W.Got voice q k R s :=
  ⟨[], own, fun _ => rfl, hR, (List.append_nil k).symm ▸ h⟩

/-- Where nothing happens, nothing is handed on. -/
theorem Got.nothing {R : List Envelope → List Envelope → Prop} (hR : R [] [])
    (h : W.Linked q k s) : W.Got voice q k R s :=
  .of_linked hR ((List.append_nil q).symm ▸ h)

/-- What is got first and what is got afterwards. -/
theorem Got.append {R R' : List Envelope → List Envelope → Prop} {others g : List Envelope}
    (hn : voice = .quiet → others = [])
    (hR : ∀ {others' g'}, R others' g' → R' (others ++ others') (g ++ g'))
    (h : W.Got voice (q ++ g) (k ++ others) R s) : W.Got voice q k R' s := by
  obtain ⟨others', g', hn', hg', hl⟩ := h
  refine ⟨others ++ others', g ++ g', fun hq => ?_, hR hg', ?_⟩
  · rw [hn hq, hn' hq]
    rfl
  · rwa [← List.append_assoc, ← List.append_assoc]

namespace Ends

theorem of_poisoned {x : Act ω α} (h : (endState x s).Poisoned) :
    W.Ends voice blamed q k own (x s) := by
  rw [endState] at h
  cases hr : x s with
  | ok a s' =>
      rw [hr] at h
      exact .inl h
  | error p s' =>
      rw [hr] at h
      exact .inl h

theorem of_linked {x : Act ω α} {a : α} {s' : State ω} (hx : x s = .ok a s')
    (h : W.Linked (q ++ own) k s') : W.Ends voice blamed q k own (x s) := by
  rw [hx]
  exact .inr (.of_linked (.self voice own) h)

/-- What is heard first comes before what is handed on afterwards. -/
theorem prepend {r : EStateM.Result Panic (State ω) α} {others g : List Envelope}
    (hn : voice = .quiet → others = []) (hg : voice.Heard own others g)
    (h : W.Ends voice blamed (q ++ g) (k ++ others) own' r) :
    W.Ends voice blamed q k (own ++ own') r := by
  cases r with
  | ok a s => exact h.imp_right fun hgot => hgot.append hn hg.append
  | error p s => exact h.imp_right fun hgot => ⟨hgot.1, hgot.2.append hn (.append hg.partly)⟩

theorem bind {x : Act ω α} {f : α → Act ω β} (hx : W.Ends voice blamed q k own (x s))
    (hp : ∀ a, Keeps State.Poisoned (f a))
    (hf : ∀ a s' others g, W.Linked (q ++ g) (k ++ others) s' → x s = .ok a s' →
      W.Ends voice blamed (q ++ g) (k ++ others) own' (f a s')) :
    W.Ends voice blamed q k (own ++ own') ((x >>= f) s) := by
  change W.Ends voice blamed q k (own ++ own') (EStateM.bind x f s)
  rw [EStateM.bind]
  cases hr : x s with
  | ok a s' =>
      rw [hr] at hx
      change W.Ends voice blamed q k (own ++ own') (f a s')
      rcases hx with hpoisoned | ⟨others, g, hn, hg, hlinked⟩
      · exact of_poisoned (hp a s' hpoisoned)
      · exact (hf a s' others g hlinked hr).prepend hn hg
  | error p s' =>
      rw [hr] at hx
      refine hx.imp_right fun ⟨hblamed, others, g, hn, hg, hlinked⟩ => ?_
      exact ⟨hblamed, others, g, hn, hg.extend own', hlinked⟩

end Ends

/-- What was due from somebody's own messages is something got besides, for somebody who does
not count them as such. -/
theorem Ends.forget {r : EStateM.Result Panic (State ω) α} (hvoice : voice ≠ .quiet)
    (h : W.Ends voice blamed q (k ++ own) own r) : W.Ends voice blamed q k [] r := by
  cases r with
  | ok a s =>
      refine h.imp_right fun ⟨others, g, _, hg, hl⟩ =>
        ⟨own ++ others, g, fun hq => absurd hq hvoice, hg.forget, ?_⟩
      rwa [← List.append_assoc]
  | error p s =>
      refine h.imp_right fun ⟨hblamed, others, g, _, hg, hl⟩ =>
        ⟨hblamed, own ++ others, g, fun hq => absurd hq hvoice, hg.forget, ?_⟩
      rwa [← List.append_assoc]

/-- Whether an action hands certain envelopes to the subscription, wherever it starts. -/
structure Relays (W : Watch ω) (voice : Voice) (blamed : Panic → Prop) (own : List Envelope)
    (act : Act ω α) : Prop where
  poisoned : Keeps State.Poisoned act
  ends : ∀ {q k s}, W.Linked q k s → W.Ends voice blamed q k own (act s)

/-- What comes afterwards may hand on nothing. -/
theorem Ends.before {x : Act ω α} {f : α → Act ω β} (hx : W.Ends voice blamed q k own (x s))
    (hf : ∀ a, W.Relays voice blamed [] (f a)) : W.Ends voice blamed q k own ((x >>= f) s) := by
  rw [← List.append_nil own]
  exact hx.bind (fun a => (hf a).poisoned) fun a _ _ _ h _ => (hf a).ends h

namespace Relays

theorem bind {x : Act ω α} {f : α → Act ω β} (hx : W.Relays voice blamed own x)
    (hf : ∀ a, W.Relays voice blamed own' (f a)) :
    W.Relays voice blamed (own ++ own') (x >>= f) where
  poisoned := .bind hx.poisoned fun a => (hf a).poisoned
  ends h := (hx.ends h).bind (fun a => (hf a).poisoned) fun a _ _ _ h' _ => (hf a).ends h'

/-- What comes before may hand on nothing. -/
theorem after {x : Act ω α} {f : α → Act ω β} (hx : W.Relays voice blamed [] x)
    (hf : ∀ a, W.Relays voice blamed own (f a)) : W.Relays voice blamed own (x >>= f) :=
  hx.bind hf

theorem before {x : Act ω α} {f : α → Act ω β} (hx : W.Relays voice blamed own x)
    (hf : ∀ a, W.Relays voice blamed [] (f a)) : W.Relays voice blamed own (x >>= f) where
  poisoned := .bind hx.poisoned fun a => (hf a).poisoned
  ends h := (hx.ends h).before hf

theorem map {x : Act ω α} (f : α → β) (hx : W.Relays voice blamed own x) :
    W.Relays voice blamed own (f <$> x) where
  poisoned := .map f hx.poisoned
  ends := by
    intro q k s h
    have hends := hx.ends h
    change W.Ends voice blamed q k own (EStateM.map f x s)
    rw [EStateM.map]
    cases hr : x s with
    | ok a s' =>
        rw [hr] at hends
        exact hends
    | error p s' =>
        rw [hr] at hends
        exact hends

theorem ite {c : Prop} [Decidable c] {x y : Act ω α} (hx : W.Relays voice blamed own x)
    (hy : W.Relays voice blamed own y) : W.Relays voice blamed own (if c then x else y) := by
  by_cases h : c
  · rwa [if_pos h]
  · rwa [if_neg h]

/-- An action hands on nothing if it keeps the outlet linked, and somebody is to blame where
it panics and leaves the registry whole. -/
theorem of_keeps {act : Act ω α} (hp : Keeps State.Poisoned act)
    (hk : ∀ q k, Keeps (W.Held q k) act)
    (hblamed : ∀ s p s', act s = .error p s' → s'.Poisoned ∨ blamed p) :
    W.Relays voice blamed [] act where
  poisoned := hp
  ends := by
    intro q k s h
    have hheld := hk q k s (.inr h)
    cases hr : act s with
    | ok a s' =>
        rw [endState_of_ok hr] at hheld
        exact hheld.imp_right (.nothing (.self voice []))
    | error p s' =>
        rw [endState_of_error hr] at hheld
        rcases hblamed s p s' hr with hpoisoned | hp'
        · exact .inl hpoisoned
        · exact hheld.imp_right fun hl => ⟨hp', .nothing .nil hl⟩

/-- An action hands on nothing if it only writes. -/
theorem of_extend {act : Act ω α} (hp : Keeps State.Poisoned act)
    (h : ∀ s, ∃ a es ls, act s = .ok a (s.extend es ls s.outside) ∧ ∀ e ∈ es, W.Clean e) :
    W.Relays voice blamed [] act where
  poisoned := hp
  ends := by
    intro q k s hl
    obtain ⟨a, es, ls, hact, hclean⟩ := h s
    exact .of_linked hact ((List.append_nil q).symm ▸ hl.entries hclean ls)

/-- An action hands on nothing if it changes the deliveries under way only. -/
theorem of_modify {f : State ω → State ω} (h : ∀ s, (f s).registry = s.registry ∧
    (f s).made = s.made ∧ (f s).outside = s.outside ∧ (f s).journal = s.journal) :
    W.Relays voice blamed [] (modify f : Act ω PUnit) := by
  refine .of_keeps (fun s hs => ?_) (fun _ _ s hs => ?_) fun _ _ _ h => by cases h
  · change (f s).registry.listing.poisoned = true
    rwa [(h s).1]
  · obtain ⟨hr, hm, ho, hj⟩ := h s
    exact hs.frame hr hm ho hj

theorem pure (a : α) : W.Relays voice blamed [] (Pure.pure a : Act ω α) :=
  .of_keeps (.pure a) (fun _ _ => .pure a) fun _ _ _ h => by cases h

theorem note {e : Entry} (he : W.Clean e) : W.Relays voice blamed [] (Act.note e) :=
  .of_keeps (lasting_poisoned.keeps_entry fun _ _ _ => trivial) (fun _ _ => Held.keeps_note he)
    fun _ _ _ h => by cases h

theorem acknowledge (o : ObserverId) {a : Ack}
    (ha : ∀ i c reason, a = .error (.dispatch i c W.name reason) →
      W.excused (.dispatch i c W.name reason)) : W.Relays voice blamed [] (Act.acknowledge o a) :=
  .note fun _ i c reason he => ha i c reason (Entry.acknowledged.inj he).2

theorem hold (ds : List DispatcherId) : W.Relays voice blamed [] (Act.hold ds) :=
  .of_modify fun _ => ⟨rfl, rfl, rfl, rfl⟩

theorem letGo : W.Relays voice blamed [] Act.letGo := .of_modify fun _ => ⟨rfl, rfl, rfl, rfl⟩

/-- What hands on nothing and is quiet keeps the outlet linked. -/
theorem keeps {act : Act ω α} (h : W.Relays .quiet blamed [] act) (q k : List Envelope) :
    Keeps (W.Held q k) act := by
  intro s hs
  rcases hs with hp | hl
  · exact .inl (h.poisoned s hp)
  · have hends := h.ends hl
    rw [endState]
    cases hr : act s with
    | ok a s' =>
        rw [hr] at hends
        refine hends.imp_right fun hlinked => ?_
        obtain ⟨others, g, hn, hg, h'⟩ := hlinked
        obtain rfl := hn rfl
        obtain rfl := hg.partly.eq_self
        rwa [List.append_nil, List.append_nil] at h'
    | error p s' =>
        rw [hr] at hends
        refine hends.imp_right fun hlinked => ?_
        obtain ⟨-, others, g, hn, hg, h'⟩ := hlinked
        obtain rfl := hn rfl
        obtain rfl := List.prefix_nil.1 hg.isPrefix
        rwa [List.append_nil, List.append_nil] at h'

/-- Somebody recovers from panics of what is quiet. -/
theorem recover {blamed' : Panic → Prop} {x : Act ω α} {f : Panic → Act ω α}
    (hx : W.Relays .quiet blamed' [] x) (hf : ∀ p, W.Relays voice blamed [] (f p)) :
    W.Relays voice blamed [] (tryCatch x f) where
  poisoned := .recover hx.poisoned fun p => (hf p).poisoned
  ends := by
    intro q k s h
    have hheld := hx.keeps q k s (.inr h)
    change W.Ends voice blamed q k [] (EStateM.tryCatch x f s)
    rw [EStateM.tryCatch]
    cases hr : x s with
    | ok a s' =>
        rw [endState_of_ok hr] at hheld
        exact hheld.imp_right (.nothing (.self voice []))
    | error p s' =>
        rw [endState_of_error hr] at hheld
        rcases hheld with hp | hl
        · exact .of_poisoned ((hf p).poisoned s' hp)
        · exact (hf p).ends hl

/-- Somebody bold recovers from any panic.  What was under way then may be lost. -/
theorem recoverBold {blamed' : Panic → Prop} {x : Act ω α} {f : Panic → Act ω α}
    (hx : W.Relays .bold blamed' [] x) (hf : ∀ p, W.Relays .bold blamed [] (f p)) :
    W.Relays .bold blamed [] (tryCatch x f) where
  poisoned := .recover hx.poisoned fun p => (hf p).poisoned
  ends := by
    intro q k s h
    have hends := hx.ends h
    change W.Ends .bold blamed q k [] (EStateM.tryCatch x f s)
    rw [EStateM.tryCatch]
    cases hr : x s with
    | ok a s' =>
        rw [hr] at hends
        exact hends
    | error p s' =>
        rw [hr] at hends
        rcases hends with hp | ⟨-, others, g, hn, hg, hl⟩
        · exact .of_poisoned ((hf p).poisoned s' hp)
        · have hheard : Voice.bold.Heard [] others g := hg.partly
          exact ((hf p).ends hl).prepend hn hheard

/-- Somebody else is to blame. -/
theorem blame {blamed' : Panic → Prop} {act : Act ω α} (h : W.Relays voice blamed' own act)
    (hblamed : ∀ s p s', act s = .error p s' → blamed p) : W.Relays voice blamed own act where
  poisoned := h.poisoned
  ends := by
    intro q k s hl
    have hends := h.ends hl
    cases hr : act s with
    | ok a s' =>
        rw [hr] at hends
        exact hends
    | error p s' =>
        rw [hr] at hends
        exact hends.imp_right fun hgot => ⟨hblamed s p s' hr, hgot.2⟩

theorem get : W.Relays voice blamed [] (MonadState.get : Act ω (State ω)) :=
  .of_keeps .get (fun _ _ => .get) fun _ _ _ h => by cases h

theorem report (e : LogEntry) : W.Relays voice blamed [] (Act.report e) :=
  .of_extend (lasting_poisoned.keeps_report e) fun s =>
    ⟨_, _, _, report_eq e s, List.forall_mem_nil _⟩

theorem trace (level : Level) (message : String) (fields : List (String × LogValue)) :
    W.Relays voice blamed [] (b.trace level message fields) :=
  .of_extend (lasting_poisoned.keeps_trace b level message fields) fun s =>
    ⟨_, _, _, trace_eq b level message fields s, List.forall_mem_nil _⟩

theorem name {d : DispatcherId} (hn : ∀ w p, b.nameOf d w = .error p → blamed p) :
    W.Relays voice blamed [] (b.name d) := by
  refine .of_keeps (Steady.keeps_name b d) (fun _ _ => Steady.keeps_name b d)
    fun s p s' h => .inr ?_
  rw [Bus.name] at h
  cases hp : b.nameOf d s.outside with
  | ok n =>
      rw [hp] at h
      cases h
  | error p' =>
      rw [hp] at h
      cases h
      exact hn s.outside p hp

theorem traceNamed {d : DispatcherId} (hn : ∀ w p, b.nameOf d w = .error p → blamed p)
    (level : Level) (message : String) (fields : List (String × LogValue)) :
    W.Relays voice blamed [] (b.traceNamed d level message fields) :=
  .ite (.after (.name hn) fun _ => .report _) (.pure ())

theorem acknowledgeUnstored (o : ObserverId) (e : StoreError) (ms : List Message) :
    W.Relays voice blamed [] (Bus.acknowledgeUnstored o e ms) := by
  induction ms with
  | nil => exact .pure ()
  | cons m ms ih => exact .after (.acknowledge o nofun) fun _ => ih

theorem conclude (o : ObserverId) (messages errors : Nat) :
    W.Relays voice blamed [] (b.conclude o messages errors) :=
  .after (.ite (.acknowledge o nofun) (.pure ())) fun _ => .trace _ _ _

/-! ### Registering -/

/-- Whoever breaks off under the lock poisons it. -/
theorem underLock {x : Act ω α} (hx : W.Relays voice blamed own x) :
    W.Relays voice blamed own (Bus.underLock x) where
  poisoned := lasting_poisoned.keeps_underLock hx.poisoned
  ends := by
    intro q k s h
    have hends := hx.ends h
    rw [Bus.underLock]
    cases hr : x s with
    | ok a s' =>
        rw [hr] at hends
        exact hends
    | error p s' => exact .inl rfl

variable (hn : ∀ d w p, b.nameOf d w = .error p → blamed p)
include hn

theorem register {d : DispatcherId} {cs : List MessageClass}
    (hd : d = W.dispatcher → cs ⊆ W.classes) : W.Relays voice blamed [] (b.register d cs) := by
  refine .after .get fun s₀ =>
    .after (.of_keeps ?_ (fun q k => ?_) fun s p s' h => ?_) fun answer => ?_
  · exact Steady.keeps_onRegistry fun s hs => lasting_poisoned.register _ d cs hs
  · exact Held.keeps_onRegistry_register hd
  · -- it panics if nobody can name the dispatcher itself or the one in the way
    rw [onRegistry] at h
    have houtcome := Registry.register_outcome (fun d => b.nameOf d s₀.outside) d cs s.registry
    generalize Registry.register (fun d => b.nameOf d s₀.outside) d cs s.registry = r at h houtcome
    cases houtcome with
    | noClasses _ _ => cases h
    | nameless _ hp =>
        cases h
        exact .inr (hn d _ p hp)
    | poisoned _ _ => cases h
    | taken _ _ _ _ => cases h
    | broken _ _ _ _ =>
        cases h
        exact .inl rfl
    | enrolled _ _ _ => cases h
  · cases answer with
    | error e => exact .pure _
    | ok => exact .after (.underLock (.traceNamed (hn d) _ _ _)) fun _ => .pure _

theorem unregister {d : DispatcherId} (hd : d ≠ W.dispatcher) :
    W.Relays voice blamed [] (b.unregister d) := by
  have htrace (level : Level) (message : String) :
      W.Relays voice blamed [] (b.traceNamed d level message []) :=
    .traceNamed (hn d) level message []
  refine .after .get fun s₀ => .ite (.after (htrace _ _) fun _ => .pure false) ?_
  refine .after (.of_keeps ?_ (fun q k => ?_) fun _ _ _ h => by cases h) fun removed => ?_
  · exact Steady.keeps_onRegistry fun s hs => lasting_poisoned.unregister d hs
  · exact Held.keeps_onRegistry_unregister hd
  · exact .ite (.after (.underLock (htrace _ _)) fun _ => .pure removed) (.pure removed)

end Relays

/-! ## Buses that serve an outlet -/

/-- A bus that knows the forwarder as a dispatcher.  Its other dispatchers and its filters
keep the outlet linked, and they are blamed for their panics. -/
structure Serves (W : Watch ω) (voice : Voice) (blamed : Panic → Prop) (b : Bus ω) : Prop where
  handle_eq : ∀ e, b.handle W.dispatcher e = onOutside (W.port.lift (Forwarder.dispatch e))
  nameOf_eq : ∀ w, b.nameOf W.dispatcher w = .ok (W.port.get w).name
  handle : ∀ d e, d ≠ W.dispatcher → W.Relays voice blamed [] (b.handle d e)
  nameOf : ∀ d w p, d ≠ W.dispatcher → b.nameOf d w = .error p → blamed p
  /-- No other dispatcher has its name. -/
  distinct : ∀ d w, d ≠ W.dispatcher → b.nameOf d w ≠ .ok W.name
  spares : ∀ f ∈ b.sieves, ∀ m w, W.Spares w (f.verdict m w).2
  rejected : ∀ f ∈ b.sieves, ∀ m w err, (f.verdict m w).1 = some err → W.excused err
  dead : ∀ e : Envelope, e.messageClass ∉ W.classes → ∀ err ∈ b.dead e, W.excused err

namespace Serves

variable (hW : W.Serves voice blamed b)
include hW

theorem keeps_poisoned (d : DispatcherId) (e : Envelope) : Keeps State.Poisoned (b.handle d e) := by
  by_cases hd : d = W.dispatcher
  · rw [hd, hW.handle_eq]
    exact lasting_poisoned.keeps_onOutside _
  · exact (hW.handle d e hd).poisoned

/-- The forwarder can be asked for its name. -/
theorem nameOf_blamed (d : DispatcherId) (w : ω) (p : Panic) (h : b.nameOf d w = .error p) :
    blamed p := by
  by_cases hd : d = W.dispatcher
  · rw [hd, hW.nameOf_eq] at h
    cases h
  · exact hW.nameOf d w p hd h

/-! ### Delivering -/

/-- Another dispatcher is blamed for its failure. -/
theorem relays_blame {d : DispatcherId} (hd : d ≠ W.dispatcher) (o : ObserverId) (e : Envelope)
    (reason : String) :
    W.Relays voice blamed [] (do
      let n ← b.name d
      acknowledge o (.error (.dispatch e.messageId e.messageClass n reason))
      pure 1) where
  poisoned := by
    refine .bind (Steady.keeps_name b d) fun n => .bind ?_ fun _ => .pure 1
    exact lasting_poisoned.keeps_acknowledge trivial _
  ends h := by
    refine ((Relays.name (hW.nameOf_blamed d)).ends h).bind (fun n => ?_)
      fun n s' _ _ h' hn => ?_
    · exact .bind (lasting_poisoned.keeps_acknowledge trivial _) fun _ => .pure 1
    · have hname : n ≠ W.name := by
        rintro rfl
        rw [name] at hn
        cases hnameOf : b.nameOf d _ with
        | ok n' =>
            rw [hnameOf] at hn
            cases hn
            exact hW.distinct d _ hd hnameOf
        | error p =>
            rw [hnameOf] at hn
            cases hn
      refine (Relays.after (.acknowledge o ?_) fun _ => .pure 1).ends h'
      intro i c r he
      cases he
      exact absurd rfl hname

/-- The turn of another dispatcher. -/
theorem relays_deliverTo_other {d : DispatcherId} (hd : d ≠ W.dispatcher) (o : ObserverId)
    (e : Envelope) : W.Relays voice blamed [] (b.deliverTo o e d) := by
  have hinvoke : W.Relays voice blamed [] (b.invoke d e) :=
    .after (.note (clean_of_not_ack nofun)) fun _ => hW.handle d e hd
  refine .after hinvoke fun answer => ?_
  cases answer with
  | ok targets => exact .after (.traceNamed (hW.nameOf_blamed d) _ _ _) fun _ => .pure 0
  | error r =>
      refine .after (.traceNamed (hW.nameOf_blamed d) _ _ _) fun _ => ?_
      exact .after (.note (clean_of_not_ack nofun)) fun _ => hW.relays_blame hd o e r.reason

/-- The turn of the forwarder, which does not fail. -/
theorem relays_deliverTo_forwarder (o : ObserverId) {e : Envelope}
    (he : e.message.fragile = false) :
    W.Relays voice blamed [e] (b.deliverTo o e W.dispatcher) where
  poisoned := lasting_poisoned.keeps_deliverTo hW.keeps_poisoned trivial e W.dispatcher
  ends := by
    intro q k s h
    obtain ⟨hdispatch, hattached⟩ := h.attached.dispatch he
    let f := W.port.get s.outside
    let w := W.port.set (f.broadcast e) s.outside
    have hinvoke : b.invoke W.dispatcher e s =
        .ok (.ok (Forwarder.targets f.name f.reached.length))
          (s.extend [.dispatched W.dispatcher e] [] w) := by
      rw [invoke, bind_of_ok (note_eq _ s), hW.handle_eq, onOutside, Handle.lift,
        State.outside_extend, hdispatch]
      rfl
    have hend : ∃ ls, b.deliverTo o e W.dispatcher s =
        .ok 0 ((s.extend [.dispatched W.dispatcher e] [] w).extend [] ls w) := by
      rw [deliverTo, bind_of_ok hinvoke]
      exact ⟨_, bind_of_ok (traceNamed_eq hW.nameOf_eq _ _ _ _)⟩
    have hclean : W.Clean (.dispatched W.dispatcher e) := clean_of_not_ack fun _ _ h => by cases h
    have hsent : W.Linked (q ++ [e]) k (s.extend [.dispatched W.dispatcher e] [] w) := by
      refine h.extend (List.forall_mem_singleton.2 hclean) [] ?_
      rwa [W.port.get_set]
    obtain ⟨ls, hend⟩ := hend
    exact .of_linked hend (hsent.entries (List.forall_mem_nil _) ls)

/-- In a delivery, each turn of the forwarder hands on the envelope. -/
theorem relays_deliverToAll (o : ObserverId) {e : Envelope} {ds : List DispatcherId}
    (he : W.dispatcher ∈ ds → e.message.fragile = false) :
    W.Relays voice blamed (List.replicate (ds.count W.dispatcher) e) (b.deliverToAll o e ds) := by
  induction ds with
  | nil => exact .pure 0
  | cons d ds ih =>
      have hrest (failed : Nat) :
          W.Relays voice blamed (List.replicate (ds.count W.dispatcher) e) (do
            letGo
            let more ← b.deliverToAll o e ds
            pure (failed + more)) :=
        .after .letGo fun _ =>
          .before (ih fun hd => he (List.mem_cons_of_mem d hd)) fun _ => .pure _
      by_cases hd : d = W.dispatcher
      · subst hd
        rw [List.count_cons_self, List.replicate_succ]
        exact .bind (hW.relays_deliverTo_forwarder o (he List.mem_cons_self)) hrest
      · rw [List.count_cons_of_ne hd]
        exact .after (hW.relays_deliverTo_other hd o e) hrest

theorem relays_bury (o : ObserverId) {e : Envelope} (he : e.messageClass ∉ W.classes) :
    W.Relays voice blamed [] (b.bury o e) := by
  refine .of_extend (lasting_poisoned.keeps_bury b trivial e) fun s =>
    ⟨_, _, _, bury_eq b o e s, List.forall_mem_append.2 ⟨?_, ?_⟩⟩
  · cases b.reportsDead with
    | true => exact List.forall_mem_singleton.2 (clean_of_not_ack nofun)
    | false => exact List.forall_mem_nil _
  · refine List.forall_mem_map.2 fun err herr o' i c reason hack => ?_
    cases hack
    exact hW.dead e he _ herr

/-- A delivery hands on the envelope if its class is one of the outlet's. -/
theorem relays_deliver (o : ObserverId) {e : Envelope}
    (he : e.messageClass ∈ W.classes → e.message.fragile = false) :
    W.Relays voice blamed (if e.messageClass ∈ W.classes then [e] else []) (b.deliver o e) where
  poisoned := lasting_poisoned.keeps_deliver hW.keeps_poisoned trivial e
  ends := by
    intro q k s h
    have hmem : W.dispatcher ∈ s.registry.dispatchersFor e.messageClass ↔
        e.messageClass ∈ W.classes := by
      rw [Registry.dispatchersFor_of_not_poisoned h.not_poisoned]
      exact h.lists e.messageClass
    have hnodup := h.sound.nodup_dispatchersFor e.messageClass
    have hlooked := h.entries (List.forall_mem_nil _)
      (b.logged (lookupLogs s.registry.listing.poisoned e.messageClass))
    rw [deliver, bind_of_ok (lookup_eq b e.messageClass s)]
    generalize s.registry.dispatchersFor e.messageClass = ds at hmem hnodup
    cases hds : ds.isEmpty with
    | true =>
        have hother : e.messageClass ∉ W.classes := fun hc => by
          rw [List.isEmpty_iff.1 hds] at hmem
          exact List.not_mem_nil (hmem.2 hc)
        rw [if_neg hother]
        exact (hW.relays_bury o hother).ends hlooked
    | false =>
        have hshare : List.replicate (ds.count W.dispatcher) e =
            if e.messageClass ∈ W.classes then [e] else [] := by
          rw [hnodup.count]
          simp only [hmem]
          split <;> rfl
        rw [← hshare]
        refine (Relays.after (.hold ds) fun _ => ?_).ends hlooked
        exact hW.relays_deliverToAll o fun hd => he (hmem.1 hd)

/-- What is handed on of some envelopes is those of the outlet's classes, in order. -/
theorem relays_deliverEach (o : ObserverId) {es : List Envelope}
    (he : ∀ e ∈ es, e.messageClass ∈ W.classes → e.message.fragile = false) :
    W.Relays voice blamed (es.filter fun e => e.messageClass ∈ W.classes) (b.deliverEach o es) := by
  induction es with
  | nil => exact .pure 0
  | cons e es ih =>
      have hrest (failed : Nat) :
          W.Relays voice blamed (es.filter fun e => e.messageClass ∈ W.classes) (do
            let more ← b.deliverEach o es
            pure (failed + more)) :=
        .before (ih fun e' h' => he e' (List.mem_cons_of_mem e h')) fun _ => .pure _
      have hfirst : (e :: es).filter (fun e => e.messageClass ∈ W.classes) =
          (if e.messageClass ∈ W.classes then [e] else []) ++
            es.filter fun e => e.messageClass ∈ W.classes := by
        rw [List.filter_cons]
        simp only [decide_eq_true_eq]
        split <;> rfl
      rw [hfirst]
      refine .bind (hW.relays_deliver o (he e List.mem_cons_self)) fun failed =>
        .ite ?_ (hrest failed)
      exact .after (.acknowledge o nofun) fun _ => hrest failed

/-! ### Filtering -/

omit hW in
theorem attached_judgement {fs : List (Sieve ω)}
    (hfs : ∀ f ∈ fs, ∀ m w, W.Spares w (f.verdict m w).2) (m : Message) {w : ω}
    (h : Forwarder.Attached W.subscription W.name q (W.port.get w)) :
    Forwarder.Attached W.subscription W.name q (W.port.get (judgement fs m w).2) := by
  induction fs generalizing w with
  | nil => exact h
  | cons f fs ih =>
      have hf := h.spared (hfs f List.mem_cons_self m w)
      rw [judgement]
      cases (f.verdict m w).1 with
      | some e => exact hf
      | none => exact ih (fun f' h' => hfs f' (List.mem_cons_of_mem f h')) hf

theorem attached_thread (ms : List Message) {w : ω}
    (h : Forwarder.Attached W.subscription W.name q (W.port.get w)) :
    Forwarder.Attached W.subscription W.name q
      (W.port.get (thread (judgement b.sieves) ms w).2) := by
  induction ms generalizing w with
  | nil => exact h
  | cons m ms ih => exact ih (attached_judgement hW.spares m h)

/-- Only a filter may blame the forwarder for a rejection. -/
theorem clean_judgements (o : ObserverId) (ms : List Message) (w : ω) :
    ∀ e ∈ (thread (judgement b.sieves) ms w).1.flatMap (Judgement.entries o), W.Clean e := by
  intro e he
  obtain ⟨j, hj, he⟩ := List.mem_flatMap.1 he
  obtain ⟨m, -, w', rfl⟩ := exists_of_mem_thread hj
  rcases List.mem_append.1 he with hasked | hrejected
  · obtain ⟨label, -, rfl⟩ := List.mem_map.1 hasked
    exact clean_of_not_ack nofun
  · obtain ⟨err, herr, rfl⟩ := List.mem_map.1 hrejected
    obtain ⟨f, hf, w'', hv⟩ := exists_of_failure? (Option.mem_toList.1 herr)
    intro o' i c reason hack
    cases hack
    exact hW.rejected f hf m w'' _ hv

theorem linked_sift (o : ObserverId) (ms : List Message) (h : W.Linked q k s) :
    let judged := thread (judgement b.sieves) ms s.outside
    W.Linked q k (s.extend (judged.1.flatMap (Judgement.entries o))
      (b.logged (judged.1.flatMap Judgement.logs)) judged.2) :=
  h.extend (hW.clean_judgements o ms s.outside) _ (hW.attached_thread ms h.attached)

end Serves

end Watch

/-! ## Posting -/

namespace Outlet

variable (F : Outlet ω) (b : Bus ω)

/-- The envelopes that are due to an outlet from a batch of accepted messages. -/
def due (ms : List Message) (s : State ω) : List Envelope :=
  match b.storage.answer ms s.store with
  | .ok () => F.share (b.envelopes s.made.length ms)
  | .error _ => []

/-- Whether the messages of a stored batch can be copied that the store or a subscription
copies. -/
def Copyable (ms : List Message) (st : MessageStore) : Prop :=
  b.storage.answer ms st = .ok () →
    ∀ m ∈ ms, b.storage.keeps = true ∨ m.messageClass ∈ F.classes → m.fragile = false

/-- Whether user code of some voice may post a batch.  If it is not quiet, these are any
messages that can be copied. -/
def Postable (voice : Voice) (batch : List Message) : Prop :=
  (∀ m ∈ batch, m.messageClass ∉ F.classes) ∨
    voice ≠ .quiet ∧ ∀ m ∈ batch, m.fragile = false

theorem due_nil (s : State ω) : F.due b [] s = [] := by
  rw [due]
  cases b.storage.answer [] s.store with
  | error e => rfl
  | ok => rfl

/-- No envelope is due from messages of other classes. -/
theorem share_envelopes_eq_nil {ms : List Message} (hm : ∀ m ∈ ms, m.messageClass ∉ F.classes)
    (n : Nat) : F.share (b.envelopes n ms) = [] := by
  refine share_eq_nil fun e he => ?_
  obtain ⟨m, hmem, i, rfl⟩ := exists_of_mem_envelopes he
  exact hm m hmem

end Outlet

namespace Watch.Serves

variable {W : Watch ω} {voice : Voice} {blamed : Panic → Prop} {b : Bus ω}
  (hW : W.Serves voice blamed b) {q k : List Envelope} {s : State ω}
include hW

/-- What is handed on of messages that are wrapped. -/
theorem relays_deliverEach_envelopes (o : ObserverId) {n : Nat} {ms : List Message}
    (hm : ∀ m ∈ ms, m.messageClass ∈ W.classes → m.fragile = false) :
    W.Relays voice blamed (W.share (b.envelopes n ms)) (b.deliverEach o (b.envelopes n ms)) := by
  refine hW.relays_deliverEach o fun e he => ?_
  obtain ⟨m, hmem, i, rfl⟩ := exists_of_mem_envelopes he
  exact hm m hmem

/-- What is due from messages that the store took is handed on. -/
theorem ends_stored (o : ObserverId) {ms : List Message}
    (hm : ∀ m ∈ ms, m.messageClass ∈ W.classes → m.fragile = false) (h : W.Linked q k s) :
    W.Ends voice blamed q (k ++ W.share (b.envelopes s.made.length ms))
      (W.share (b.envelopes s.made.length ms))
      ((b.wrapAll ms >>= fun es => b.deliverEach o es) s) := by
  rw [bind_of_ok (b.wrapAll_eq ms s)]
  exact (hW.relays_deliverEach_envelopes o hm).ends (h.making _)

/-- What is due from a batch is handed on. -/
theorem ends_dispatchBatch (o : ObserverId) {ms : List Message}
    (hm : W.Copyable b ms s.store) (h : W.Linked q k s) :
    W.Ends voice blamed q (k ++ W.due b ms s) (W.due b ms s) (b.dispatchBatch o ms s) := by
  cases ms with
  | nil =>
      rw [Outlet.due_nil, List.append_nil]
      exact (Relays.pure 0).ends h
  | cons m ms =>
      have hoffer := b.offer_eq_answer rfl fun hok hk m' hm' => hm hok m' hm' (.inl hk)
      have hclean : ∀ e ∈ b.offerEntries (m :: ms), W.Clean e := by
        rw [offerEntries]
        split
        · exact List.forall_mem_singleton.2 (clean_of_not_ack fun _ _ h => by cases h)
        · exact List.forall_mem_nil _
      have hoffered := (h.storing (b.storage.after (m :: ms) s.store)).entries hclean []
      rw [Outlet.due, dispatchBatch, List.isEmpty_cons, if_neg Bool.false_ne_true,
        bind_of_ok hoffer]
      cases hanswer : b.storage.answer (m :: ms) s.store with
      | error e =>
          rw [List.append_nil]
          refine (Relays.after (.trace _ _ _) fun _ => ?_).ends hoffered
          exact .after (.acknowledgeUnstored o e (m :: ms)) fun _ => .pure _
      | ok =>
          have hcopies := hm hanswer
          exact hW.ends_stored o (fun m' hm' hc => hcopies m' hm' (.inr hc)) hoffered

/-- Whatever becomes of a batch that is posted, what is due from it is handed on. -/
theorem ends_postAll (o : ObserverId) {batch : List Message}
    (hm : W.Copyable b (b.admitted batch s.outside) s.store) (h : W.Linked q k s) :
    W.Ends voice blamed q (k ++ W.due b (b.admitted batch s.outside) s)
      (W.due b (b.admitted batch s.outside) s) (b.postAll o batch s) := by
  rw [postAll, bind_of_ok (sift_eq b o batch s)]
  let judged := thread (judgement b.sieves) batch s.outside
  let s₁ := s.extend (judged.1.flatMap (Judgement.entries o))
    (b.logged (judged.1.flatMap Judgement.logs)) judged.2
  have hsifted : W.Linked q k s₁ := hW.linked_sift o batch h
  exact (hW.ends_dispatchBatch (s := s₁) o hm hsifted).before fun _ => .conclude o _ _

theorem keeps_postAll (o : ObserverId) (batch : List Message) :
    Keeps State.Poisoned (b.postAll o batch) :=
  lasting_poisoned.keeps_postAll hW.keeps_poisoned trivial batch

/-! ### Posting from a handler -/

/-- To post messages of other classes hands on nothing, if nobody cares who panics. -/
theorem relays_dispatchBatch_other (hblamed : ∀ p, blamed p) (o : ObserverId) {ms : List Message}
    (hm : ∀ m ∈ ms, m.messageClass ∉ W.classes) :
    W.Relays voice blamed [] (b.dispatchBatch o ms) := by
  have hoffer : W.Relays voice blamed [] (b.offer ms) := by
    refine .of_keeps (lasting_poisoned.keeps_offer ms) (fun q k => ?_)
      fun _ p _ _ => .inr (hblamed p)
    refine .bind (.ite (Held.keeps_note (clean_of_not_ack nofun)) (.pure ())) fun _ s hs => ?_
    rw [endState_onStore]
    exact hs.frame rfl rfl rfl rfl
  refine .ite (.pure 0) (.after hoffer fun answer => ?_)
  cases answer with
  | error e =>
      exact .after (.trace _ _ _) fun _ => .after (.acknowledgeUnstored o e ms) fun _ => .pure _
  | ok =>
      have hnone := W.share_envelopes_eq_nil b hm
      refine ⟨.bind (lasting_poisoned.keeps_wrapAll b ms) fun es => ?_, fun {q k s} h => ?_⟩
      · exact lasting_poisoned.keeps_deliverEach hW.keeps_poisoned trivial es
      · have hends := hW.ends_stored o (fun m hmem hc => absurd hc (hm m hmem)) h
        rwa [hnone, List.append_nil] at hends

theorem relays_postAll_other (hblamed : ∀ p, blamed p) (o : ObserverId) {batch : List Message}
    (hm : ∀ m ∈ batch, m.messageClass ∉ W.classes) :
    W.Relays voice blamed [] (b.postAll o batch) where
  poisoned := hW.keeps_postAll o batch
  ends := by
    intro q k s h
    rw [postAll, bind_of_ok (sift_eq b o batch s)]
    have hsifted := hW.linked_sift o batch h
    refine (Relays.after (hW.relays_dispatchBatch_other hblamed o fun m hmem => ?_) fun _ =>
      .conclude o _ _).ends hsifted
    exact hm m (mem_of_mem_accepted hmem)

/-- What is due from a batch that a handler posts is something got besides. -/
theorem relays_postAll_inner (hblamed : ∀ p, blamed p) (o : ObserverId) {batch : List Message}
    (hm : W.Postable voice batch) : W.Relays voice blamed [] (b.postAll o batch) := by
  rcases hm with hother | ⟨hvoice, hcopies⟩
  · exact hW.relays_postAll_other hblamed o hother
  · refine ⟨hW.keeps_postAll o batch, fun {q k s} h => ?_⟩
    have hends := hW.ends_postAll o (fun _ m hm _ => hcopies m (mem_of_mem_accepted hm)) h
    exact hends.forget hvoice

theorem relays_post_inner (hblamed : ∀ p, blamed p) (o : ObserverId) {m : Message}
    (hm : W.Postable voice [m]) : W.Relays voice blamed [] (b.post o m) :=
  .ite (.after (.trace _ _ _) fun _ => .acknowledge o nofun) (hW.relays_postAll_inner hblamed o hm)

end Watch.Serves

end Switchboard.Bus
