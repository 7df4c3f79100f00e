import Mathlib.Data.List.Induction
import Switchboard.Proofs.Forwarding.Subscriptions

/-!
# Whom a dispatch reaches

A subscription *stands* after some uses of a forwarder if it was made in the course of them and
has not been dropped since (`Stands`).  Also after a dispatch that broke off, the subscriptions
that the forwarder takes to be live are those that stand (`isLive_run_iff`).

So a dispatch that goes through reaches whoever stands, prunes the other senders and keeps the
rest in order.  It fails if nobody stands, and otherwise it answers with one target for each
subscription that does (`dispatch_prunes`).  The targets are the name of the forwarder with
numbers, and no two numbers have the same digits (`targetName_injective`).

Where the list of senders is not empty, a copy of the envelope has to be made.  If that panics,
the dispatch neither fails nor answers (`not_settled_by_fragile`).
-/

namespace Switchboard.Bus

/-! ## Sets of targets -/

variable {s t : String} {l ids : List String}

theorem mem_insertText : t ∈ insertText s l ↔ t = s ∨ t ∈ l := by
  induction l with
  | nil => simp [insertText]
  | cons u l ih =>
      rw [insertText]
      split
      · exact List.mem_cons
      · split
        · next heq => simp [heq]
        · rw [List.mem_cons, ih, List.mem_cons]
          exact or_left_comm

/-- The place of a text in an ordered list is the only one. -/
theorem pairwise_insertText (h : l.Pairwise (· < ·)) : (insertText s l).Pairwise (· < ·) := by
  induction l with
  | nil => exact List.pairwise_singleton _ s
  | cons u l ih =>
      obtain ⟨hu, hl⟩ := List.pairwise_cons.1 h
      rw [insertText]
      split
      · next hlt =>
          refine List.pairwise_cons.2 ⟨fun t ht => ?_, h⟩
          rcases List.mem_cons.1 ht with rfl | ht
          · exact hlt
          · exact String.lt_trans hlt (hu t ht)
      · split
        · exact h
        · next hnot hne =>
            have hlt : u < s := ((Std.lt_trichotomy s u).resolve_left hnot).resolve_left hne
            refine List.pairwise_cons.2 ⟨fun t ht => ?_, ih hl⟩
            rcases mem_insertText.1 ht with rfl | ht
            · exact hlt
            · exact hu t ht

namespace Targets

theorem mem_foldl_insertText :
    t ∈ ids.foldl (fun l s => insertText s l) l ↔ t ∈ ids ∨ t ∈ l := by
  induction ids generalizing l with
  | nil => simp
  | cons s ids ih =>
      rw [List.foldl_cons, ih, mem_insertText, List.mem_cons]
      exact or_left_comm.trans or_assoc.symm

theorem pairwise_foldl_insertText (h : l.Pairwise (· < ·)) :
    (ids.foldl (fun l s => insertText s l) l).Pairwise (· < ·) := by
  induction ids generalizing l with
  | nil => exact h
  | cons s ids ih => exact ih (pairwise_insertText h)

theorem mem_ofList : t ∈ (ofList ids).ids ↔ t ∈ ids :=
  mem_foldl_insertText.trans (or_iff_left List.not_mem_nil)

theorem nodup_ofList (ids : List String) : (ofList ids).ids.Nodup := by
  have hsorted : (ofList ids).ids.Pairwise (· < ·) := pairwise_foldl_insertText .nil
  rw [List.Nodup]
  refine hsorted.imp fun {s t} hlt heq => ?_
  rw [heq] at hlt
  exact String.lt_irrefl t hlt

/-- Different texts are all targets. -/
theorem size_ofList (h : ids.Nodup) : (ofList ids).size = ids.length :=
  ((List.perm_ext_iff_of_nodup (nodup_ofList ids) h).2 fun _ => mem_ofList).length_eq

end Targets

namespace Forwarder

/-- No two targets of a forwarder are the same text. -/
theorem targetName_injective (name : String) :
    Function.Injective fun k : Nat => name ++ "#" ++ toString k := by
  intro k n h
  have hdigits : Nat.toDigits 10 k = Nat.toDigits 10 n := by
    rw [← Nat.toList_repr, ← Nat.toList_repr]
    exact congrArg String.toList ((String.append_right_inj _).1 h)
  rw [← Nat.ofDigitChars_toDigits (n := k) (by decide : 1 < 10) (Nat.le_refl 10), hdigits,
    Nat.ofDigitChars_toDigits (by decide) (Nat.le_refl 10)]

theorem mem_targets {name : String} {n : Nat} :
    t ∈ (targets name n).ids ↔ ∃ k < n, t = name ++ "#" ++ toString k := by
  rw [targets, Targets.mem_ofList, List.mem_map]
  exact exists_congr fun k => and_congr List.mem_range eq_comm

theorem size_targets (name : String) (n : Nat) : (targets name n).size = n := by
  rw [targets, Targets.size_ofList (List.nodup_range.map (targetName_injective name)),
    List.length_map, List.length_range]

/-! ## Subscriptions that stand -/

variable {f : Forwarder} {e : Envelope} {i j : SubscriptionId} {us us' : List Use} {u : Use}

/-- Whether a subscription was made in the course of some uses and not dropped since. -/
def Stands (f : Forwarder) (us : List Use) (i : SubscriptionId) : Prop :=
  ∃ before after, us = before ++ .subscribe :: after ∧ (run before f).subscribe.1 = i ∧
    .drop i ∉ after

theorem not_stands_nil : ¬ Stands f [] i := by
  rintro ⟨before, after, h, -⟩
  exact List.append_ne_nil_of_right_ne_nil before (List.cons_ne_nil _ after) h.symm

/-- A use makes a subscription stand or leaves it as it is, unless it drops it. -/
theorem stands_concat :
    Stands f (us ++ [u]) i ↔
      (u = .subscribe ∧ (run us f).subscribe.1 = i) ∨ (Stands f us i ∧ u ≠ .drop i) := by
  constructor
  · rintro ⟨before, after, h, hi, hdrop⟩
    rcases List.eq_nil_or_concat' after with rfl | ⟨after, v, rfl⟩
    · obtain ⟨rfl, hu⟩ := List.append_inj' h rfl
      obtain rfl := List.singleton_inj.1 hu
      exact .inl ⟨rfl, hi⟩
    · rw [← List.cons_append, ← List.append_assoc] at h
      obtain ⟨rfl, hu⟩ := List.append_inj' h rfl
      obtain rfl := List.singleton_inj.1 hu
      rw [List.mem_append, List.mem_singleton, not_or] at hdrop
      exact .inr ⟨⟨before, after, rfl, hi, hdrop.1⟩, fun hu => hdrop.2 hu.symm⟩
  · rintro (⟨rfl, hi⟩ | ⟨⟨before, after, rfl, hi, hdrop⟩, hu⟩)
    · exact ⟨us, [], rfl, hi, List.not_mem_nil⟩
    · refine ⟨before, after ++ [u], by simp, hi, ?_⟩
      rw [List.mem_append, List.mem_singleton, not_or]
      exact ⟨hdrop, fun h => hu h.symm⟩

theorem isLive_drop (f : Forwarder) (i j : SubscriptionId) :
    (f.drop j).isLive i = true ↔ f.isLive i = true ∧ j ≠ i := by
  rw [isLive_eq_isSome, lookup_drop, isLive_eq_isSome]
  split
  · next h => simp [h]
  · next h => simp [h]

/-- A dispatch does nothing, or it breaks off and poisons the lock, or it goes through. -/
theorem after_dispatch (e : Envelope) (f : Forwarder) :
    (Use.dispatch e).after f = f ∨
      (Use.dispatch e).after f = { f with senders := f.senders.poison f.senders.value } ∨
      (Use.dispatch e).after f = f.broadcast e := by
  have hd := dispatched_dispatch e f
  rw [Use.after, endState]
  generalize dispatch e f = r at hd
  cases hd with
  | poisoned _ => exact .inl rfl
  | panicked p _ _ => exact .inr (.inl rfl)
  | unheard _ _ => exact .inr (.inr rfl)
  | heard _ _ => exact .inr (.inr rfl)

/-- A dispatch changes nobody's being live, also if it breaks off. -/
theorem isLive_dispatch (e : Envelope) (f : Forwarder) (i : SubscriptionId) :
    ((Use.dispatch e).after f).isLive i = f.isLive i := by
  rcases after_dispatch e f with h | h | h
  · rw [h]
  · rw [h]
    rfl
  · rw [h]
    exact isLive_broadcast e f i

theorem isLive_after (u : Use) (f : Forwarder) (i : SubscriptionId) :
    (u.after f).isLive i = true ↔
      (u = .subscribe ∧ f.subscribe.1 = i) ∨ (f.isLive i = true ∧ u ≠ .drop i) := by
  cases u with
  | subscribe =>
      rw [Use.after, isLive_subscribe, or_comm]
      simp [Forwarder.subscribe, @eq_comm _ i]
  | drop j => simp [Use.after, isLive_drop]
  | dispatch e => simp [isLive_dispatch]
  | receive j held => simp [Use.after, isLive_receive]

/-- The live subscriptions of a new forwarder that was used are those that stand. -/
theorem isLive_run_iff (name : String) (us : List Use) (i : SubscriptionId) :
    (run us { name := name }).isLive i = true ↔ Stands { name := name } us i := by
  induction us using List.reverseRecOn with
  | nil => exact iff_of_false Bool.false_ne_true not_stands_nil
  | append_singleton us u ih => rw [run_append, stands_concat, ← ih]; exact isLive_after u _ i

/-! ## Pruning -/

theorem Sound.mem_reached (h : Sound f) (hwhole : f.senders.poisoned = false) :
    i ∈ f.reached ↔ f.isLive i = true :=
  List.mem_filter.trans (and_iff_right_of_imp (h.linked hwhole i))

/-- A broadcast leaves the senders that it reached. -/
theorem subscriberCount_broadcast (e : Envelope) (hwhole : f.senders.poisoned = false) :
    (f.broadcast e).subscriberCount = f.reached.length := by
  have hread : (f.broadcast e).senders.read? = some f.reached := Guarded.read?_of_whole hwhole
  rw [subscriberCount, hread, Option.getD_some]

/-- What a dispatch comes to that goes through. -/
theorem dispatch_of_copyable (hwhole : f.senders.poisoned = false)
    (h : f.senders.value = [] ∨ e.message.fragile = false) :
    dispatch e f = .ok
      (if f.reached = [] then .error ⟨"`" ++ f.name ++ "` has no live subscribers"⟩
        else .ok (targets f.name f.reached.length)) (f.broadcast e) := by
  have hd := dispatched_dispatch e f
  generalize hr : dispatch e f = r at hd
  cases hd with
  | poisoned hp => rw [hp] at hwhole; cases hwhole
  | panicked p _ hcopy =>
      -- there is nobody to make the copy for
      rcases h with hnil | hfragile
      · rw [dispatch, if_neg (Bool.eq_false_iff.1 hwhole), hnil] at hr
        cases hr
      · rw [Message.copy, if_neg (Bool.eq_false_iff.1 hfragile)] at hcopy
        cases hcopy
  | unheard _ hreached => rw [if_pos hreached]
  | heard _ hreached => rw [if_neg hreached]

/-- A copy that has to be made and cannot breaks a dispatch off. -/
theorem dispatch_of_fragile (hwhole : f.senders.poisoned = false) (h : f.senders.value ≠ [])
    (hfragile : e.message.fragile = true) :
    ∃ p, e.message.copy = .error p ∧
      dispatch e f = .error p { f with senders := f.senders.poison f.senders.value } := by
  obtain ⟨i, is, hsenders⟩ := List.exists_cons_of_ne_nil h
  have hcopy : e.message.copy = .error ⟨"clone of `" ++ e.message.body ++ "`"⟩ := if_pos hfragile
  refine ⟨_, hcopy, ?_⟩
  rw [dispatch, if_neg (Bool.eq_false_iff.1 hwhole), hsenders, hcopy]

/-- A forwarder is used in any order, and its lock is whole.  Then a dispatch fails exactly if no
subscription stands.  Otherwise it answers with as many targets as subscriptions stand, all
different, which are its name with the numbers from zero.  In both cases it takes away the senders
of those that do not stand and leaves the others in their order, so it counts as many as stand.

Only where the list of senders is not empty and the envelope cannot be copied does it break off,
and then the list is left as it was. -/
theorem dispatch_prunes (name : String) (us : List Use) (e : Envelope)
    (hwhole : (run us { name := name }).senders.poisoned = false) :
    let start : Forwarder := { name := name }
    let f := run us start
    ∃ live : List SubscriptionId, live.Nodup ∧ (∀ i, i ∈ live ↔ Stands start us i) ∧
      (f.senders.value = [] ∨ e.message.fragile = false →
        ∃ answer f', dispatch e f = .ok answer f' ∧
          ((∃ err, answer = .error err) ↔ live = []) ∧
          (live ≠ [] → ∃ ts, answer = .ok ts ∧ ts.size = live.length ∧ ts.ids.Nodup ∧
            ∀ t, t ∈ ts.ids ↔ ∃ k < live.length, t = name ++ "#" ++ toString k) ∧
          f'.senders.value = f.senders.value.filter (· ∈ live) ∧
          f'.subscriberCount = live.length) ∧
      (f.senders.value ≠ [] ∧ e.message.fragile = true →
        ∃ p f', dispatch e f = .error p f' ∧ f'.senders.value = f.senders.value) := by
  intro start f
  have hsound : Sound f := (sound_new name).run us
  refine ⟨f.reached, hsound.senders_nodup.filter _, fun i => ?_, fun h => ?_, fun h => ?_⟩
  · exact (hsound.mem_reached hwhole).trans (isLive_run_iff name us i)
  · refine ⟨_, _, dispatch_of_copyable hwhole h, ?_, fun hlive => ?_, ?_, ?_⟩
    · split
      · next hnil => exact iff_of_true ⟨_, rfl⟩ hnil
      · next hlive => exact iff_of_false (fun ⟨_, herr⟩ => by cases herr) hlive
    · refine ⟨_, if_neg hlive, size_targets _ _, Targets.nodup_ofList _, fun t => ?_⟩
      rw [mem_targets, name_run]
    · refine List.filter_congr fun i hi => ?_
      rw [Bool.eq_iff_iff, decide_eq_true_iff]
      exact (hsound.mem_reached hwhole).symm
    · exact subscriberCount_broadcast e hwhole
  · obtain ⟨p, -, hp⟩ := dispatch_of_fragile hwhole h.1 h.2
    exact ⟨p, _, hp, rfl⟩

/-- Of four subscriptions the second and the last are dropped, the last of them after it was
sent to. -/
def turnover : List Use :=
  [.subscribe, .subscribe, .subscribe, .drop ⟨1⟩, .subscribe, .dispatch (letter "a"), .drop ⟨3⟩]

theorem dispatch_prunes_turnover :
    let f := run turnover { name := "outbox" }
    f.senders.poisoned = false ∧ f.senders.value = [⟨0⟩, ⟨2⟩, ⟨3⟩] ∧
      ∃ ts f', dispatch (letter "b") f = .ok (.ok ts) f' ∧ ts.size = 2 ∧
        (∀ t, t ∈ ts.ids ↔ ∃ k < 2, t = "outbox" ++ "#" ++ toString k) ∧
        f'.senders.value = [⟨0⟩, ⟨2⟩] ∧ f'.subscriberCount = 2 := by
  intro f
  have hwhole : f.senders.poisoned = false := rfl
  have hsenders : f.senders.value = [⟨0⟩, ⟨2⟩, ⟨3⟩] := by decide
  obtain ⟨live, hnodup, hstands, hgoes, -⟩ := dispatch_prunes "outbox" turnover (letter "b") hwhole
  have hlive (i : SubscriptionId) : i ∈ live ↔ i ∈ [⟨0⟩, ⟨2⟩] := by
    have hinboxes : f.inboxes = [(⟨0⟩, [letter "a"]), (⟨2⟩, [letter "a"])] := by decide
    rw [hstands, ← isLive_run_iff, isLive, hinboxes]
    simp [@eq_comm _ i]
  have hlength : live.length = 2 :=
    ((List.perm_ext_iff_of_nodup hnodup (by decide)).2 hlive).length_eq
  have hne : live ≠ [] := List.ne_nil_of_length_pos (hlength ▸ Nat.two_pos)
  obtain ⟨answer, f', hok, -, hreaches, hpruned, hcount⟩ := hgoes (.inr rfl)
  obtain ⟨ts, rfl, hsize, -, hnames⟩ := hreaches hne
  rw [hlength] at hsize hnames hcount
  refine ⟨hwhole, hsenders, ts, f', hok, hsize, hnames, ?_, hcount⟩
  simp only [hlive] at hpruned
  rw [hpruned, hsenders]
  decide

/-- With one subscription, a dispatch of an envelope that cannot be copied neither fails nor
answers. -/
theorem not_settled_by_fragile :
    ¬ ∀ (name : String) (us : List Use) (e : Envelope),
      (run us { name := name }).senders.poisoned = false →
        ∃ answer f', dispatch e (run us { name := name }) = .ok answer f' ∧
          ((∃ err, answer = .error err) ↔ ∀ i, ¬ Stands { name := name } us i) := by
  intro h
  obtain ⟨answer, f', hok, -⟩ :=
    h "outbox" [.subscribe] (.wrap default { (default : Message) with fragile := true }) rfl
  cases hok

end Forwarder

end Switchboard.Bus
