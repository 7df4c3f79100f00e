import Switchboard.Proofs.Records.History

/-!
# The record store as a partial map

The deeds of a history say what is kept now: under an identity there is the last record
that was kept, unless a later deed erased it (`Holds`).  A store whose lock is whole answers
every question accordingly, as far as user code lets it find and copy what it keeps
(`Answers`).  A store whose lock is poisoned answers none (`Refuses`).

Requests that fail do no deeds, and neither do those that only look.  All that follows
goes through the ways in which a request ends: a request keeps the store and the deeds in
step (`Accounts.act`), and so does a history.
-/

namespace Switchboard.Records

variable {ι σ ρ : Type}

/-! ## What deeds leave -/

/-- Whether some deeds, the oldest first, leave a record under an identity: it was kept,
and no later deed is about the identity. -/
def Holds (ds : List (Deed ι ρ)) (i : ι) (r : Record ι ρ) : Prop :=
  ∃ before after, ds = before ++ .kept r :: after ∧ r.id = i ∧ ∀ d ∈ after, d.id ≠ i

theorem not_holds_nil (i : ι) (r : Record ι ρ) : ¬ Holds [] i r := by
  rintro ⟨before, after, h, _⟩
  cases before with
  | nil => cases h
  | cons d before => cases h

/-- The last deed settles what is left under its identity. -/
theorem holds_concat {ds : List (Deed ι ρ)} {d : Deed ι ρ} {i : ι} {r : Record ι ρ} :
    Holds (ds ++ [d]) i r ↔ (d = .kept r ∧ r.id = i) ∨ (d.id ≠ i ∧ Holds ds i r) := by
  constructor
  · rintro ⟨before, after, h, hr, hafter⟩
    rcases List.eq_nil_or_concat after with rfl | ⟨after, last, rfl⟩
    · obtain ⟨_, hlast⟩ := List.append_inj' h rfl
      exact .inl ⟨List.singleton_inj.1 hlast, hr⟩
    · rw [List.concat_eq_append, ← List.cons_append, ← List.append_assoc] at h
      obtain ⟨hds, hlast⟩ := List.append_inj' h rfl
      cases hlast
      exact .inr ⟨hafter d (by simp), before, after, hds, hr, fun x hx => hafter x (by simp [hx])⟩
  · rintro (⟨rfl, hr⟩ | ⟨hd, before, after, rfl, hr, hafter⟩)
    · exact ⟨ds, [], rfl, hr, by simp⟩
    · refine ⟨before, after ++ [d], by simp, hr, fun x hx => ?_⟩
      rcases List.mem_append.1 hx with hx | hx
      · exact hafter x hx
      · exact List.mem_singleton.1 hx ▸ hd

/-! ## Records under identities -/

section

variable [DecidableEq ι]

theorem findRecord?_cons (i : ι) (x : Record ι ρ) (rs : List (Record ι ρ)) :
    findRecord? i (x :: rs) = if x.id = i then some x else findRecord? i rs := by
  by_cases hx : x.id = i <;> simp [findRecord?, hx]

theorem findRecord?_putRecord (r : Record ι ρ) (i : ι) (rs : List (Record ι ρ)) :
    findRecord? i (putRecord r rs) = if r.id = i then some r else findRecord? i rs := by
  induction rs with
  | nil => exact findRecord?_cons i r []
  | cons x rs ih =>
      rw [putRecord]
      by_cases hx : x.id = r.id
      · rw [if_pos hx, findRecord?_cons, findRecord?_cons, hx]
        by_cases hi : r.id = i <;> simp [hi]
      · rw [if_neg hx, findRecord?_cons, ih, findRecord?_cons]
        by_cases hi : r.id = i
        · have hxi : x.id ≠ i := hi ▸ hx
          simp [hi, hxi]
        · simp [hi]

theorem findRecord?_dropRecord (i j : ι) (rs : List (Record ι ρ)) :
    findRecord? i (dropRecord j rs) = if j = i then none else findRecord? i rs := by
  rw [findRecord?, dropRecord, List.find?_filter]
  by_cases hi : j = i
  · subst hi
    simp
  · rw [if_neg hi, findRecord?]
    congr 1
    funext r
    by_cases hr : r.id = i
    · simp [hr, Ne.symm hi]
    · simp [hr]

theorem map_id_putRecord (r : Record ι ρ) (rs : List (Record ι ρ)) :
    (putRecord r rs).map Record.id =
      if r.id ∈ rs.map Record.id then rs.map Record.id else rs.map Record.id ++ [r.id] := by
  induction rs with
  | nil => rfl
  | cons x rs ih =>
      rw [putRecord]
      by_cases hx : x.id = r.id
      · simp [hx]
      · rw [if_neg hx, List.map_cons, ih, List.map_cons]
        by_cases hr : r.id ∈ rs.map Record.id
        · simp [hr]
        · simp [hr, Ne.symm hx]

theorem nodup_putRecord {rs : List (Record ι ρ)} (h : (rs.map Record.id).Nodup)
    (r : Record ι ρ) : ((putRecord r rs).map Record.id).Nodup := by
  rw [map_id_putRecord]
  by_cases hr : r.id ∈ rs.map Record.id
  · rwa [if_pos hr]
  · rw [if_neg hr]
    exact List.nodup_append.2 ⟨h, List.nodup_singleton _, fun a ha b hb hab =>
      hr (List.mem_singleton.1 hb ▸ hab ▸ ha)⟩

theorem nodup_dropRecord {rs : List (Record ι ρ)} (h : (rs.map Record.id).Nodup) (i : ι) :
    ((dropRecord i rs).map Record.id).Nodup :=
  h.sublist (List.filter_sublist.map Record.id)

/-- Where identities are distinct, to look a record up is to have it. -/
theorem findRecord?_eq_some_iff {rs : List (Record ι ρ)} (h : (rs.map Record.id).Nodup) {i : ι}
    {r : Record ι ρ} : findRecord? i rs = some r ↔ r ∈ rs ∧ r.id = i :=
  find?_key_eq_some_iff h

end

/-! ## Requests -/

/-- A request to a record store: a call, or a question. -/
inductive Request (ι σ ρ : Type) where
  | call (k : StoreCall ι σ ρ)
  | read (i : ι)
  | length

section

variable [DecidableEq ι]

namespace Request

/-- The action of a request that says whether it succeeded. -/
def act (f : Faults ι ρ) :
    Request ι σ ρ → EStateM Panic (RecordStore ι σ ρ) (Except StoreError Unit)
  | call k => k.attempt f
  | read i => attempt (RecordStore.read f i)
  | length => attempt (RecordStore.repository f).length

/-- What a request does that lasts, if it succeeds. -/
def deed? (spec : Specification ι σ) : Request ι σ ρ → Option (Deed ι ρ)
  | call k => k.deed? spec
  | read _ | length => none

/-- The deeds of a request to a store: there are none if it fails or breaks off. -/
def deeds (f : Faults ι ρ) (k : Request ι σ ρ) (s : RecordStore ι σ ρ) : List (Deed ι ρ) :=
  match k.act f s with
  | .ok (.ok ()) _ => (k.deed? s.spec).toList
  | .ok (.error _) _ | .error _ _ => []

/-- Whether a request to a store breaks off. -/
def BreaksOff (f : Faults ι ρ) (k : Request ι σ ρ) (s : RecordStore ι σ ρ) : Prop :=
  ∃ p s', k.act f s = .error p s'

end Request

/-- The store after some requests, the first request first, and their deeds.  Each request has the
faults in its course with it. -/
def chronicle : List (Faults ι ρ × Request ι σ ρ) → RecordStore ι σ ρ → List (Deed ι ρ) →
    RecordStore ι σ ρ × List (Deed ι ρ)
  | [], s, ds => (s, ds)
  | (f, k) :: ks, s, ds => chronicle ks (endState (k.act f) s) (ds ++ k.deeds f s)

/-! ## The ways in which a request ends -/

namespace RecordStore

variable {f : Faults ι ρ} {s : RecordStore ι σ ρ}

/-- The ways in which a look under an identity ends. -/
inductive Looked (f : Faults ι ρ) (i : ι) (s : RecordStore ι σ ρ) :
    EStateM.Result Panic (RecordStore ι σ ρ) (Except StoreError (Option (Record ι ρ))) → Prop where
  | poisoned : s.records.poisoned = true → Looked f i s (.ok (.error .poisoned) s)
  /-- The place of the identity cannot be found. -/
  | lost {p : Panic} :
    s.records.poisoned = false → f.place i = some p → Looked f i s (.error p s)
  /-- The record that is found cannot be copied. -/
  | broken {r : Record ι ρ} {p : Panic} :
    s.records.poisoned = false → findRecord? i s.records.value = some r → f.copy r = some p →
    Looked f i s (.error p s)
  | found :
    s.records.poisoned = false → Looked f i s (.ok (.ok (findRecord? i s.records.value)) s)

theorem read_looked (f : Faults ι ρ) (i : ι) (s : RecordStore ι σ ρ) :
    Looked f i s (read f i s) := by
  rw [read]
  cases hp : s.records.poisoned with
  | true => simpa [Guarded.read?, hp] using Looked.poisoned hp
  | false =>
      rw [Guarded.read?_of_whole hp]
      cases hv : s.records.value with
      | nil => simpa [hv, findRecord?] using Looked.found (f := f) (i := i) hp
      | cons r rs =>
          dsimp only
          rw [← hv]
          cases hf : (f.place i).or ((findRecord? i s.records.value).bind f.copy) with
          | some p =>
              rcases Option.or_eq_some_iff.1 hf with hplace | ⟨-, hcopy⟩
              · exact .lost hp hplace
              · obtain ⟨x, hx, hcopy⟩ := Option.bind_eq_some_iff.1 hcopy
                exact .broken hp hx hcopy
          | none => exact .found hp

/-- A write poisons the lock only where the identity cannot be copied or its place cannot be
found. -/
theorem fault_of_write {r : Record ι ρ} (hp : s.records.poisoned = false)
    (hq : (endState (write f r) s).records.poisoned = true) :
    ∃ p, f.copyId r.id = some p ∨ f.place r.id = some p := by
  have hw := write_written f r s
  rw [endState] at hq
  generalize write f r s = res at hw hq
  cases hw with
  | unfit | poisoned | kept => exact absurd (hp.symm.trans hq) (by simp)
  | broken _ _ hf => exact ⟨_, hf⟩

theorem fault_of_writeEntity {e : Entity ι σ} (payload : ρ) (hp : s.records.poisoned = false)
    (hq : (endState (writeEntity f e payload) s).records.poisoned = true) :
    ∃ p, f.copyId e.id = some p ∨ f.place e.id = some p := by
  rcases writeEntity_cases f e payload s with ⟨err, -, he⟩ | hr
  · rw [endState_of_ok he] at hq
    exact absurd (hp.symm.trans hq) (by simp)
  · exact fault_of_write hp (endState_congr hr ▸ hq)

theorem fault_of_delete {i : ι} (hp : s.records.poisoned = false)
    (hq : (endState (delete f i) s).records.poisoned = true) : ∃ p, f.place i = some p := by
  have hd := delete_deleted f i s
  rw [endState] at hq
  generalize delete f i s = res at hd hq
  cases hd with
  | poisoned | gone => exact absurd (hp.symm.trans hq) (by simp)
  | broken _ hf => exact ⟨_, hf⟩

end RecordStore

namespace Request

variable {f : Faults ι ρ} {k : Request ι σ ρ} {s : RecordStore ι σ ρ}

theorem act_ended (f : Faults ι ρ) (k : Request ι σ ρ) (s : RecordStore ι σ ρ) :
    s.Ended (k.deed? s.spec) (k.act f s) := by
  cases k with
  | call k => exact k.attempt_ended f s
  | read i =>
      rw [act]
      have hl := RecordStore.read_looked f i s
      generalize hres : RecordStore.read f i s = res at hl
      cases hl with
      | poisoned =>
          rw [attempt_of_ok hres]
          exact .failed
      | lost | broken =>
          rw [attempt_of_error hres]
          exact .broken
      | found =>
          rw [attempt_of_ok hres]
          exact .looked rfl
  | length =>
      have hl : (RecordStore.repository f).length s = .ok s.length s := rfl
      rw [act, attempt_of_ok hl]
      cases s.length with
      | error e => exact .failed
      | ok n => exact .looked rfl

/-- A request that fails changes no more than the log. -/
theorem state_of_failed {e : StoreError} {s' : RecordStore ι σ ρ}
    (h : k.act f s = .ok (.error e) s') : ∃ log, s' = { s with log := log } := by
  have hk := k.act_ended f s
  rw [h] at hk
  cases hk with
  | @failed _ log => exact ⟨log, rfl⟩

/-- A request that breaks off changes nothing of what is kept. -/
theorem kept_of_broken {p : Panic} {s' : RecordStore ι σ ρ} (h : k.act f s = .error p s') :
    s'.records.value = s.records.value := by
  have hk := k.act_ended f s
  rw [h] at hk
  cases hk with
  | broken => rfl

/-- A request that does no deed leaves the lock as it was. -/
theorem poisoned_of_no_deed (hk : k.deed? s.spec = none) :
    (endState (k.act f) s).records.poisoned = s.records.poisoned := by
  cases k with
  | call k =>
      cases k with
      | write | writeEntity | writeSnapshot | delete => cases hk
      | query q =>
          have hq := RecordStore.query_queried f q s
          rw [act, StoreCall.attempt, attempt, endState_map, endState]
          generalize RecordStore.query f q s = res at hq
          cases hq with
          | invalid | poisoned | failed | broken | found => rfl
      | unmade => rfl
  | read i =>
      have hl := RecordStore.read_looked f i s
      rw [act, attempt, endState_map, endState]
      generalize RecordStore.read f i s = res at hl
      cases hl with
      | poisoned | lost | broken | found => rfl
  | length => rfl

/-- A request poisons the lock only where it would change what is kept under an identity
that cannot be copied or whose place cannot be found. -/
theorem fault_of_poisoned (hp : s.records.poisoned = false)
    (hq : (endState (k.act f) s).records.poisoned = true) :
    ∃ d p, k.deed? s.spec = some d ∧ (f.copyId d.id = some p ∨ f.place d.id = some p) := by
  have hdeed : k.deed? s.spec ≠ none := by
    intro hk
    rw [poisoned_of_no_deed hk, hp] at hq
    cases hq
  cases k with
  | call k =>
      cases k with
      | write r =>
          obtain ⟨p, hf⟩ := RecordStore.fault_of_write hp (endState_map _ _ s ▸ hq)
          exact ⟨_, p, rfl, hf⟩
      | writeEntity e payload =>
          obtain ⟨p, hf⟩ := RecordStore.fault_of_writeEntity payload hp (endState_map _ _ s ▸ hq)
          exact ⟨_, p, rfl, hf⟩
      | writeSnapshot e =>
          obtain ⟨p, hf⟩ :=
            RecordStore.fault_of_writeEntity e.snapshot hp (endState_map _ _ s ▸ hq)
          exact ⟨_, p, rfl, hf⟩
      | delete i =>
          obtain ⟨p, hf⟩ := RecordStore.fault_of_delete hp (endState_map _ _ s ▸ hq)
          exact ⟨_, p, rfl, .inr hf⟩
      | query | unmade => exact absurd rfl hdeed
  | read | length => exact absurd rfl hdeed

theorem spec_act (f : Faults ι ρ) (k : Request ι σ ρ) (s : RecordStore ι σ ρ) :
    (endState (k.act f) s).spec = s.spec := by
  have hk := k.act_ended f s
  rw [endState]
  generalize k.act f s = res at hk
  cases hk with
  | failed | looked | kept | erased | broken => rfl

end Request

/-! ## Accounts -/

/-- What a store keeps is what some deeds leave. -/
structure Accounts (s : RecordStore ι σ ρ) (ds : List (Deed ι ρ)) : Prop where
  /-- No identity occurs twice. -/
  nodup : (s.records.value.map Record.id).Nodup
  find_iff : ∀ i r, findRecord? i s.records.value = some r ↔ Holds ds i r

namespace Accounts

variable {s : RecordStore ι σ ρ} {ds : List (Deed ι ρ)}

theorem start (spec : Specification ι σ) : Accounts (.empty spec : RecordStore ι σ ρ) [] where
  nodup := List.nodup_nil
  find_iff i r := by simp [RecordStore.empty, findRecord?, not_holds_nil]

theorem put (h : Accounts s ds) (r : Record ι ρ) : Accounts (s.put r) (ds ++ [.kept r]) where
  nodup := nodup_putRecord h.nodup r
  find_iff i x := by
    rw [holds_concat, ← h.find_iff i x]
    change findRecord? i (putRecord r s.records.value) = some x ↔ _
    rw [findRecord?_putRecord, Deed.id]
    by_cases hi : r.id = i
    · rw [if_pos hi]
      constructor
      · intro hx
        cases hx
        exact .inl ⟨rfl, hi⟩
      · rintro (⟨hx, -⟩ | ⟨hne, -⟩)
        · cases hx
          rfl
        · exact absurd hi hne
    · rw [if_neg hi]
      constructor
      · exact fun hx => .inr ⟨hi, hx⟩
      · rintro (⟨hx, hxi⟩ | ⟨-, hx⟩)
        · cases hx
          exact absurd hxi hi
        · exact hx

theorem drop (h : Accounts s ds) (i : ι) : Accounts (s.drop i) (ds ++ [.erased i]) where
  nodup := nodup_dropRecord h.nodup i
  find_iff j x := by
    rw [holds_concat, ← h.find_iff j x]
    change findRecord? j (dropRecord i s.records.value) = some x ↔ _
    rw [findRecord?_dropRecord, Deed.id]
    by_cases hj : i = j <;> simp [hj]

/-- Every request keeps the store and the deeds in step. -/
theorem act (h : Accounts s ds) (f : Faults ι ρ) (k : Request ι σ ρ) :
    Accounts (endState (k.act f) s) (ds ++ k.deeds f s) := by
  have hk := k.act_ended f s
  rw [endState, Request.deeds]
  generalize k.act f s = res at hk
  cases hk with
  | failed | broken =>
      simp only [List.append_nil]
      exact ⟨h.nodup, h.find_iff⟩
  | looked hd =>
      simp only [hd, Option.toList_none, List.append_nil]
      exact ⟨h.nodup, h.find_iff⟩
  | @kept r hd =>
      simp only [hd, Option.toList_some]
      exact h.put r
  | @erased i hd =>
      simp only [hd, Option.toList_some]
      exact h.drop i

theorem chronicle (h : Accounts s ds) (ks : List (Faults ι ρ × Request ι σ ρ)) :
    Accounts (chronicle ks s ds).1 (Records.chronicle ks s ds).2 := by
  induction ks generalizing s ds with
  | nil => exact h
  | cons turn ks ih => exact ih (h.act turn.1 turn.2)

end Accounts

/-! ## Answers -/

/-- A store answers every question by what some deeds leave, and it takes every record
that fits.  What can break that off is to look for the place of an identity, to copy a record
that is handed out, and to copy the identity of a record that is written. -/
structure Answers (s : RecordStore ι σ ρ) (ds : List (Deed ι ρ)) : Prop where
  read : ∀ f i,
    (∃ p, f.place i = some p ∧ RecordStore.read f i s = .error p s) ∨
    (∃ r p, Holds ds i r ∧ f.copy r = some p ∧ RecordStore.read f i s = .error p s) ∨
    ∃ found, RecordStore.read f i s = .ok (.ok found) s ∧ ∀ r, found = some r ↔ Holds ds i r
  delete : ∀ f i, (∃ p s', f.place i = some p ∧ RecordStore.delete f i s = .error p s') ∨
    ∃ found s', RecordStore.delete f i s = .ok (.ok found) s' ∧
      (found = true ↔ ∃ r, Holds ds i r)
  length : ∃ ids : List ι, s.length = .ok ids.length ∧ ids.Nodup ∧
    ∀ i, i ∈ ids ↔ ∃ r, Holds ds i r
  /-- The query for every record, in no order and without a limit. -/
  query : ∀ q : Query, q.validate s.spec.catalog = .ok () → q.orderBy = [] → q.limit = none →
    (∀ c, q.predicate.eval c = .ok true) →
    ∃ found, (found.map Record.id).Nodup ∧ (∀ r, r ∈ found ↔ Holds ds r.id r) ∧
      ∀ f, RecordStore.HandsOut f q s found
  write : ∀ f (r : Record ι ρ), s.spec.checkColumns r.columns = .ok () →
    (∃ p s', (f.copyId r.id = some p ∨ f.place r.id = some p) ∧
      RecordStore.write f r s = .error p s') ∨
    ∃ s', RecordStore.write f r s = .ok (.ok ()) s'

/-- A store has no answer to any question, because its lock is poisoned. -/
structure Refuses (s : RecordStore ι σ ρ) : Prop where
  read : ∀ f i, RecordStore.read f i s = .ok (.error .poisoned) s
  delete : ∀ f i, RecordStore.delete f i s = .ok (.error .poisoned) s
  length : s.length = .error .poisoned
  query : ∀ f (q : Query), q.validate s.spec.catalog = .ok () →
    RecordStore.query f q s = .ok (.error .poisoned) s
  write : ∀ f (r : Record ι ρ), s.spec.checkColumns r.columns = .ok () →
    RecordStore.write f r s = .ok (.error .poisoned) s

omit [DecidableEq ι] in
theorem Query.select_of_true {p : Predicate} {rs : List (Record ι ρ)}
    (h : ∀ c, p.eval c = .ok true) : select p rs = .ok rs := by
  induction rs with
  | nil => rfl
  | cons r rs ih =>
      rw [select, h, ih]
      rfl

omit [DecidableEq ι] in
/-- No keys, no change of order. -/
theorem Query.sortBy_nil (rs : List (Record ι ρ)) : sortBy [] rs = rs :=
  List.mergeSort_of_pairwise (List.pairwise_of_forall fun _ _ => rfl)

omit [DecidableEq ι] in
theorem Query.apply_of_true {q : Query} {rs : List (Record ι ρ)} (ho : q.orderBy = [])
    (hl : q.limit = none) (h : ∀ c, q.predicate.eval c = .ok true) : q.apply rs = .ok rs := by
  rw [apply, select_of_true h]
  simp only [ho, hl, sortBy_nil, truncate]

namespace Accounts

variable {s : RecordStore ι σ ρ} {ds : List (Deed ι ρ)}

theorem mem_ids_iff (h : Accounts s ds) (i : ι) :
    i ∈ s.records.value.map Record.id ↔ ∃ r, Holds ds i r := by
  simp only [← h.find_iff, findRecord?_eq_some_iff h.nodup, List.mem_map]

theorem mem_iff (h : Accounts s ds) (r : Record ι ρ) :
    r ∈ s.records.value ↔ Holds ds r.id r := by
  rw [← h.find_iff, findRecord?_eq_some_iff h.nodup, and_iff_left rfl]

theorem answers (h : Accounts s ds) (hp : s.records.poisoned = false) : Answers s ds where
  read f i := by
    have hl := RecordStore.read_looked f i s
    generalize RecordStore.read f i s = res at hl
    cases hl with
    | poisoned hq => exact absurd (hp.symm.trans hq) (by simp)
    | lost _ hf => exact .inl ⟨_, hf, rfl⟩
    | broken _ hr hf => exact .inr (.inl ⟨_, _, (h.find_iff i _).1 hr, hf, rfl⟩)
    | found => exact .inr (.inr ⟨_, rfl, h.find_iff i⟩)
  delete f i := by
    have hd := RecordStore.delete_deleted f i s
    generalize RecordStore.delete f i s = res at hd
    cases hd with
    | poisoned hq => exact absurd (hp.symm.trans hq) (by simp)
    | @broken p _ hf => exact .inl ⟨p, _, hf, rfl⟩
    | gone =>
        refine .inr ⟨_, _, rfl, ?_⟩
        simp only [Option.isSome_iff_exists, h.find_iff]
  length := by
    refine ⟨s.records.value.map Record.id, ?_, h.nodup, h.mem_ids_iff⟩
    rw [RecordStore.length, Guarded.read?_of_whole hp, List.length_map]
  query q hq ho hl ht := by
    refine ⟨s.records.value, h.nodup, h.mem_iff, fun f => ?_⟩
    exact RecordStore.handsOut_of_apply hq hp (Query.apply_of_true ho hl ht)
  write f r hr := by
    have hw := RecordStore.write_written f r s
    generalize RecordStore.write f r s = res at hw
    cases hw with
    | unfit he => exact absurd (hr.symm.trans he) (by simp)
    | poisoned _ hq => exact absurd (hp.symm.trans hq) (by simp)
    | @broken p _ _ hf => exact .inl ⟨p, _, hf, rfl⟩
    | kept => exact .inr ⟨_, rfl⟩

end Accounts

theorem refuses_of_poisoned {s : RecordStore ι σ ρ} (hp : s.records.poisoned = true) :
    Refuses s where
  read f i := by rw [RecordStore.read, Guarded.read?_of_poisoned hp]
  delete f i := by rw [RecordStore.delete, Guarded.read?_of_poisoned hp]
  length := by rw [RecordStore.length, Guarded.read?_of_poisoned hp]
  query _ _ hq := RecordStore.query_of_poisoned hq hp
  write f r hr := by
    rw [RecordStore.write, hr]
    simp only [RecordStore.insert, Guarded.read?_of_poisoned hp]

/-! ## Histories -/

/-- A history of requests keeps a store sound. -/
theorem RecordStore.Sound.chronicle {spec : Specification ι σ} {s : RecordStore ι σ ρ}
    (h : s.Sound spec) (ks : List (Faults ι ρ × Request ι σ ρ)) (ds : List (Deed ι ρ)) :
    (chronicle ks s ds).1.Sound spec := by
  induction ks generalizing s ds with
  | nil => exact h
  | cons turn ks ih =>
      obtain ⟨f, k⟩ := turn
      exact ih (h.of_ended (k.act_ended f s)) (ds ++ k.deeds f s)

theorem spec_chronicle (ks : List (Faults ι ρ × Request ι σ ρ)) (s : RecordStore ι σ ρ)
    (ds : List (Deed ι ρ)) : (chronicle ks s ds).1.spec = s.spec := by
  induction ks generalizing s ds with
  | nil => rfl
  | cons turn ks ih =>
      obtain ⟨f, k⟩ := turn
      exact (ih (endState (k.act f) s) (ds ++ k.deeds f s)).trans (k.spec_act f s)

/-- Where a history poisons the lock, one of its requests does. -/
theorem exists_poisoning {s : RecordStore ι σ ρ} {ds : List (Deed ι ρ)}
    (ks : List (Faults ι ρ × Request ι σ ρ)) (hp : s.records.poisoned = false)
    (hq : (chronicle ks s ds).1.records.poisoned = true) :
    ∃ before f k after, ks = before ++ (f, k) :: after ∧
      (chronicle before s ds).1.records.poisoned = false ∧
      (endState (k.act f) (chronicle before s ds).1).records.poisoned = true := by
  induction ks generalizing s ds with
  | nil => exact absurd (hp.symm.trans hq) (by simp)
  | cons turn ks ih =>
      obtain ⟨f, k⟩ := turn
      cases hk : (endState (k.act f) s).records.poisoned with
      | true => exact ⟨[], f, k, ks, rfl, hp, hk⟩
      | false =>
          obtain ⟨before, f', k', after, rfl, hb⟩ := ih hk hq
          exact ⟨(f, k) :: before, f', k', after, rfl, hb⟩

/-- A history poisons the lock only if one of its requests breaks off that would change what is
kept, because an identity cannot be copied or its place cannot be found. -/
theorem exists_fault_of_poisoned {spec : Specification ι σ}
    (ks : List (Faults ι ρ × Request ι σ ρ))
    (hq : (chronicle ks (.empty spec) []).1.records.poisoned = true) :
    ∃ before f k after d p, ks = before ++ (f, k) :: after ∧
      k.BreaksOff f (chronicle before (.empty spec) []).1 ∧
      k.deed? spec = some d ∧ (f.copyId d.id = some p ∨ f.place d.id = some p) := by
  obtain ⟨before, f, k, after, hks, hwhole, hk⟩ := exists_poisoning ks rfl hq
  obtain ⟨d, p, hd, hf⟩ := k.fault_of_poisoned hwhole hk
  rw [spec_chronicle] at hd
  exact ⟨before, f, k, after, d, p, hks, (k.act_ended f _).breaks_of_poisoned hwhole hk, hd, hf⟩

/-- After any history a store answers by the deeds of the history: a read gives the last
record that was kept under the identity and not erased since.  It has no answers if the
lock is poisoned, and that takes a request that broke off and that would have changed what is
kept.  A request that fails leaves all but the log as it was, and one that breaks off leaves
what is kept as it was. -/
theorem answers_chronicle (spec : Specification ι σ) (ks : List (Faults ι ρ × Request ι σ ρ)) :
    let start : RecordStore ι σ ρ := .empty spec
    let s := (chronicle ks start []).1
    let ds := (chronicle ks start []).2
    s.spec = spec ∧
      (s.records.poisoned = false → Answers s ds) ∧
      (s.records.poisoned = true → Refuses s ∧
        ∃ before f k after d p, ks = before ++ (f, k) :: after ∧
          k.BreaksOff f (chronicle before start []).1 ∧
          k.deed? spec = some d ∧ (f.copyId d.id = some p ∨ f.place d.id = some p)) ∧
      ∀ (f : Faults ι ρ) (k : Request ι σ ρ),
        (∀ e s', k.act f s = .ok (.error e) s' → ∃ log, s' = { s with log := log }) ∧
        (∀ p s', k.act f s = .error p s' → s'.records.value = s.records.value) := by
  intro start s ds
  have hs : Accounts s ds := (Accounts.start spec).chronicle ks
  refine ⟨spec_chronicle ks start [], hs.answers,
    fun hp => ⟨refuses_of_poisoned hp, exists_fault_of_poisoned ks hp⟩, fun f k => ⟨?_, ?_⟩⟩
  · exact fun _ _ hk => k.state_of_failed hk
  · exact fun _ _ hk => k.kept_of_broken hk

/-- What is kept can be out of reach: a record is written, then a write under another
identity breaks off, and behind the poisoned lock the record cannot be read. -/
theorem read_not_last_written :
    ¬ ∀ (ks : List (Faults Nat Unit × Request Nat Unit Unit)) (f : Faults Nat Unit) (i : Nat)
        (r : Record Nat Unit),
      Holds (chronicle ks (.empty bare) []).2 i r →
        RecordStore.read f i (chronicle ks (.empty bare) []).1 =
          .ok (.ok (some r)) (chronicle ks (.empty bare) []).1 := by
  intro h
  have hread := h [({}, .call (.write ⟨0, (), .empty⟩)),
      ({ place := fun _ => some ⟨"hash"⟩ }, .call (.write ⟨1, (), .empty⟩))] {} 0
    ⟨0, (), .empty⟩ ⟨[], [], rfl, rfl, by simp⟩
  cases hread

end

end Switchboard.Records
