import Switchboard.Proofs.Records.Typing

/-!
# Histories of a record store

A history is a list of calls on a store that keeps nothing yet, each with the faults of
the user code in its course.  Calls may fail, and a call may break off, because to look for
the place of an identity and to copy what is kept are user code.  So is to make what a call
hands to the store, and a call that breaks off there does not reach the store at all.

* A *deed* is what a call did that lasts.  `RecordStore.Ended` lists the ways in which a
  call ends, by its deed and by what it does to the store.
* A store is `Sound` for a specification if every record that it keeps fits.  Every
  call keeps it so, and so does a history (`Sound.run`).
* A query after a history fails exactly as its validation does.  Two things stand between
  a valid query and its answer: a poisoned lock, which takes a call that broke off, and a
  record that the query selects and that cannot be copied (`query_run`).

So nothing that is stored can make a valid query fail, whatever columns and
extractors the writers came up with.
-/

namespace Switchboard.Records

variable {ι σ ρ : Type} [DecidableEq ι]

theorem mem_putRecord {r x : Record ι ρ} :
    ∀ {rs : List (Record ι ρ)}, x ∈ putRecord r rs → x = r ∨ x ∈ rs
  | [], h => .inl (List.mem_singleton.1 h)
  | y :: rs, h => by
      by_cases hy : y.id = r.id
      · rw [putRecord, if_pos hy, List.mem_cons] at h
        exact h.imp_right (List.mem_cons_of_mem y)
      · rw [putRecord, if_neg hy, List.mem_cons] at h
        cases h with
        | inl h => exact .inr (h ▸ List.mem_cons_self)
        | inr h => exact (mem_putRecord h).imp_right (List.mem_cons_of_mem y)

namespace RecordStore

variable {f : Faults ι ρ} {s : RecordStore ι σ ρ} {spec : Specification ι σ}

/-! ## The ways in which a write ends -/

/-- The store with a record put in its place. -/
def put (s : RecordStore ι σ ρ) (r : Record ι ρ) : RecordStore ι σ ρ :=
  report { s with records := s.records.write (putRecord r s.records.value) } .debug
    "record written" [("replaced", .flag (findRecord? r.id s.records.value).isSome)]

/-- The store after a write of columns that do not fit. -/
def reject (s : RecordStore ι σ ρ) (e : SpecificationError) : RecordStore ι σ ρ :=
  s.report .warn "record rejected" [("error", .text e.message)]

/-- The store after an operation that broke off under the lock. -/
def poison (s : RecordStore ι σ ρ) : RecordStore ι σ ρ :=
  { s with records := s.records.poison s.records.value }

/-- The ways in which a write ends. -/
inductive Written (f : Faults ι ρ) (r : Record ι ρ) (s : RecordStore ι σ ρ) :
    EStateM.Result Panic (RecordStore ι σ ρ) (Except StoreError Unit) → Prop where
  | unfit {e : SpecificationError} :
    s.spec.checkColumns r.columns = .error e →
    Written f r s (.ok (.error (.invalidRecord e)) (s.reject e))
  | poisoned :
    s.spec.checkColumns r.columns = .ok () → s.records.poisoned = true →
    Written f r s (.ok (.error .poisoned) s)
  /-- The identity cannot be copied, or its place cannot be found. -/
  | broken {p : Panic} :
    s.spec.checkColumns r.columns = .ok () → s.records.poisoned = false →
    f.copyId r.id = some p ∨ f.place r.id = some p → Written f r s (.error p s.poison)
  | kept :
    s.spec.checkColumns r.columns = .ok () → s.records.poisoned = false →
    Written f r s (.ok (.ok ()) (s.put r))

/-- A write ends in one of these ways. -/
theorem write_written (f : Faults ι ρ) (r : Record ι ρ) (s : RecordStore ι σ ρ) :
    Written f r s (write f r s) := by
  rw [write]
  cases hc : s.spec.checkColumns r.columns with
  | error e => exact .unfit hc
  | ok u =>
      cases hp : s.records.poisoned with
      | true => simpa [insert, Guarded.read?, hp] using Written.poisoned hc hp
      | false =>
          cases hf : (f.copyId r.id).or (f.place r.id) with
          | some p =>
              have hpanic := (Option.or_eq_some_iff.1 hf).imp_right And.right
              simpa [insert, Guarded.read?, hp, hf, poison] using Written.broken hc hp hpanic
          | none => simpa [insert, Guarded.read?, hp, hf, put] using Written.kept hc hp

/-- A record whose columns do not fit changes no more than the log. -/
theorem write_of_unfit {r : Record ι ρ} {err : SpecificationError}
    (h : s.spec.checkColumns r.columns = .error err) :
    write f r s = .ok (.error (.invalidRecord err)) (s.reject err) := by
  rw [write, h]
  rfl

/-- An entity whose columns do not conform changes nothing.  Any other is written as
the record of the specification. -/
theorem writeEntity_cases (f : Faults ι ρ) (e : Entity ι σ) (payload : ρ)
    (s : RecordStore ι σ ρ) :
    (∃ err, s.spec.checkColumns (s.spec.valuesIn e) = .error err ∧
      writeEntity f e payload s = .ok (.error (.invalidRecord err)) s) ∨
    writeEntity f e payload s = write f (s.spec.record e payload) s := by
  rw [writeEntity, Repository.writeEntity, repository]
  dsimp only
  rw [Specification.checkedValuesIn]
  cases s.spec.checkColumns (s.spec.valuesIn e) with
  | error err => exact .inl ⟨err, rfl, rfl⟩
  | ok => exact .inr rfl

/-! ## The ways in which a deletion ends -/

/-- The store without the record of an identity. -/
def drop (s : RecordStore ι σ ρ) (i : ι) : RecordStore ι σ ρ :=
  { s with records := s.records.write (dropRecord i s.records.value) }

/-- The ways in which a deletion ends. -/
inductive Deleted (f : Faults ι ρ) (i : ι) (s : RecordStore ι σ ρ) :
    EStateM.Result Panic (RecordStore ι σ ρ) (Except StoreError Bool) → Prop where
  | poisoned : s.records.poisoned = true → Deleted f i s (.ok (.error .poisoned) s)
  /-- The place of the identity cannot be found. -/
  | broken {p : Panic} :
    s.records.poisoned = false → f.place i = some p → Deleted f i s (.error p s.poison)
  /-- There is no record under the identity any more. -/
  | gone :
    s.records.poisoned = false →
    Deleted f i s (.ok (.ok (findRecord? i s.records.value).isSome) (s.drop i))

/-- A deletion ends in one of these ways. -/
theorem delete_deleted (f : Faults ι ρ) (i : ι) (s : RecordStore ι σ ρ) :
    Deleted f i s (delete f i s) := by
  rw [delete]
  cases hp : s.records.poisoned with
  | true => simpa [Guarded.read?, hp] using Deleted.poisoned hp
  | false =>
      cases hf : f.place i with
      | some p => simpa [Guarded.read?, hp, hf, poison] using Deleted.broken hp hf
      | none => simpa [Guarded.read?, hp, hf, drop] using Deleted.gone hp

/-! ## The ways in which a query ends -/

/-- The store after a query with an answer. -/
def answered (s : RecordStore ι σ ρ) (found : List (Record ι ρ)) : RecordStore ι σ ρ :=
  s.report .debug "record query evaluated"
    [("scanned", .number s.records.value.length), ("matched", .number found.length)]

/-- The ways in which a query ends. -/
inductive Queried (f : Faults ι ρ) (q : Query) (s : RecordStore ι σ ρ) :
    EStateM.Result Panic (RecordStore ι σ ρ) (Except StoreError (List (Record ι ρ))) → Prop where
  | invalid {e : QueryError} :
    q.validate s.spec.catalog = .error e → Queried f q s (.ok (.error (.query e)) s)
  | poisoned :
    q.validate s.spec.catalog = .ok () → s.records.poisoned = true →
    Queried f q s (.ok (.error .poisoned) s)
  /-- It cannot be evaluated on what is kept. -/
  | failed {e : QueryError} :
    q.validate s.spec.catalog = .ok () → s.records.poisoned = false →
    q.apply s.records.value = .error e → Queried f q s (.ok (.error (.query e)) s)
  /-- One of the records that it selects cannot be copied. -/
  | broken {found : List (Record ι ρ)} {r : Record ι ρ} {p : Panic} :
    q.validate s.spec.catalog = .ok () → s.records.poisoned = false →
    q.apply s.records.value = .ok found → r ∈ found → f.copy r = some p →
    Queried f q s (.error p s)
  | found {found : List (Record ι ρ)} :
    q.validate s.spec.catalog = .ok () → s.records.poisoned = false →
    q.apply s.records.value = .ok found → (∀ r ∈ found, f.copy r = none) →
    Queried f q s (.ok (.ok found) (s.answered found))

omit [DecidableEq ι] in
/-- A query ends in one of these ways. -/
theorem query_queried (f : Faults ι ρ) (q : Query) (s : RecordStore ι σ ρ) :
    Queried f q s (query f q s) := by
  rw [query]
  cases hq : q.validate s.spec.catalog with
  | error e => exact .invalid hq
  | ok u =>
      cases hp : s.records.poisoned with
      | true => simpa only [evaluate, Guarded.read?_of_poisoned hp] using Queried.poisoned hq hp
      | false =>
          simp only [evaluate, Guarded.read?_of_whole hp]
          cases ha : q.apply s.records.value with
          | error e => exact .failed hq hp ha
          | ok found =>
              cases hf : found.findSome? f.copy with
              | some p =>
                  obtain ⟨r, hr, hcopy⟩ := List.exists_of_findSome?_eq_some hf
                  simpa only [hf] using Queried.broken hq hp ha hr hcopy
              | none =>
                  have hcopies := List.findSome?_eq_none_iff.1 hf
                  simpa only [hf, answered] using Queried.found hq hp ha hcopies

omit [DecidableEq ι] in
/-- Behind a poisoned lock a valid query fails. -/
theorem query_of_poisoned {q : Query} (h : q.validate s.spec.catalog = .ok ())
    (hp : s.records.poisoned = true) : query f q s = .ok (.error .poisoned) s := by
  rw [query, h]
  simp only [evaluate, Guarded.read?_of_poisoned hp]

/-- Whether a query hands out copies of certain records.  It breaks off if one of them cannot be
copied. -/
def HandsOut (f : Faults ι ρ) (q : Query) (s : RecordStore ι σ ρ) (found : List (Record ι ρ)) :
    Prop :=
  ((∀ r ∈ found, f.copy r = none) ∧ ∃ s', query f q s = .ok (.ok found) s') ∨
    ∃ r ∈ found, ∃ p, f.copy r = some p ∧ query f q s = .error p s

omit [DecidableEq ι] in
/-- Behind a whole lock a valid query hands out copies of what it gives on the records. -/
theorem handsOut_of_apply {q : Query} {found : List (Record ι ρ)}
    (h : q.validate s.spec.catalog = .ok ()) (hp : s.records.poisoned = false)
    (ha : q.apply s.records.value = .ok found) : HandsOut f q s found := by
  have hq := query_queried f q s
  generalize hres : query f q s = res at hq
  cases hq with
  | invalid hq => exact absurd (h.symm.trans hq) (by simp)
  | poisoned _ hq => exact absurd (hp.symm.trans hq) (by simp)
  | failed _ _ hq => exact absurd (ha.symm.trans hq) (by simp)
  | broken _ _ hq hr hcopy =>
      cases ha.symm.trans hq
      exact .inr ⟨_, hr, _, hcopy, hres⟩
  | found _ _ hq hcopies =>
      cases ha.symm.trans hq
      exact .inl ⟨hcopies, _, hres⟩

omit [DecidableEq ι] in
/-- An answer is what the query gives on the records. -/
theorem apply_of_query {q : Query} {found : List (Record ι ρ)} {s' : RecordStore ι σ ρ}
    (h : query f q s = .ok (.ok found) s') : q.apply s.records.value = .ok found := by
  have hq := query_queried f q s
  rw [h] at hq
  cases hq with
  | found _ _ ha => exact ha

end RecordStore

/-! ## Deeds -/

/-- What a call did that lasts. -/
inductive Deed (ι ρ : Type) where
  | kept (r : Record ι ρ)
  /-- There is nothing under an identity any more. -/
  | erased (i : ι)

/-- The identity that a deed is about. -/
def Deed.id : Deed ι ρ → ι
  | kept r => r.id
  | erased i => i

/-! ## The ways in which a call ends -/

section

variable {τ α : Type}

/-- An action that says whether it succeeded, and not with what answer. -/
def attempt (act : EStateM Panic τ (Except StoreError α)) :
    EStateM Panic τ (Except StoreError Unit) :=
  Except.map (fun _ => ()) <$> act

variable {act act' : EStateM Panic τ (Except StoreError α)} {s s' : τ}

theorem attempt_of_ok {answer : Except StoreError α} (h : act s = .ok answer s') :
    attempt act s = .ok (answer.map fun _ => ()) s' := by
  simp only [attempt, Functor.map, EStateM.map, h]

theorem attempt_of_error {p : Panic} (h : act s = .error p s') : attempt act s = .error p s' :=
  map_of_error _ h

theorem attempt_congr (h : act s = act' s) : attempt act s = attempt act' s := by
  simp only [attempt, Functor.map, EStateM.map, h]

end

namespace RecordStore

variable {s : RecordStore ι σ ρ} {spec : Specification ι σ} {deed? : Option (Deed ι ρ)}

/-- The ways in which a call ends, if it does a certain deed when it succeeds. -/
inductive Ended (deed? : Option (Deed ι ρ)) (s : RecordStore ι σ ρ) :
    EStateM.Result Panic (RecordStore ι σ ρ) (Except StoreError Unit) → Prop where
  | failed {e : StoreError} {log : List LogEntry} :
    Ended deed? s (.ok (.error e) { s with log := log })
  /-- It did no deed. -/
  | looked {log : List LogEntry} : deed? = none → Ended deed? s (.ok (.ok ()) { s with log := log })
  | kept {r : Record ι ρ} :
    deed? = some (.kept r) → s.spec.checkColumns r.columns = .ok () →
    Ended deed? s (.ok (.ok ()) (s.put r))
  | erased {i : ι} : deed? = some (.erased i) → Ended deed? s (.ok (.ok ()) (s.drop i))
  /-- It broke off.  Nothing is changed behind the lock, which may be poisoned. -/
  | broken {p : Panic} {poisoned : Bool} :
    Ended deed? s (.error p { s with records := { s.records with poisoned := poisoned } })

theorem ended_write (f : Faults ι ρ) (r : Record ι ρ) (s : RecordStore ι σ ρ) :
    Ended (some (.kept r)) s (attempt (write f r) s) := by
  have hw := write_written f r s
  generalize hres : write f r s = res at hw
  cases hw with
  | unfit | poisoned =>
      rw [attempt_of_ok hres]
      exact .failed
  | broken =>
      rw [attempt_of_error hres]
      exact .broken
  | kept hc =>
      rw [attempt_of_ok hres]
      exact .kept rfl hc

theorem ended_writeEntity (f : Faults ι ρ) (e : Entity ι σ) (payload : ρ)
    (s : RecordStore ι σ ρ) :
    Ended (some (.kept (s.spec.record e payload))) s (attempt (writeEntity f e payload) s) := by
  rcases writeEntity_cases f e payload s with ⟨err, -, he⟩ | hr
  · rw [attempt_of_ok he]
    exact .failed
  · rw [attempt_congr hr]
    exact ended_write f _ s

theorem ended_delete (f : Faults ι ρ) (i : ι) (s : RecordStore ι σ ρ) :
    Ended (some (.erased i)) s (attempt (delete f i) s) := by
  have hd := delete_deleted f i s
  generalize hres : delete f i s = res at hd
  cases hd with
  | poisoned =>
      rw [attempt_of_ok hres]
      exact .failed
  | broken =>
      rw [attempt_of_error hres]
      exact .broken
  | gone =>
      rw [attempt_of_ok hres]
      exact .erased rfl

theorem ended_query (f : Faults ι ρ) (q : Query) (s : RecordStore ι σ ρ) :
    Ended none s (attempt (query f q) s) := by
  have hq := query_queried f q s
  generalize hres : query f q s = res at hq
  cases hq with
  | invalid | poisoned | failed =>
      rw [attempt_of_ok hres]
      exact .failed
  | broken =>
      rw [attempt_of_error hres]
      exact .broken
  | found =>
      rw [attempt_of_ok hres]
      exact .looked rfl

/-- A call poisons the lock only by breaking off. -/
theorem Ended.breaks_of_poisoned {act : EStateM Panic (RecordStore ι σ ρ) (Except StoreError Unit)}
    (h : Ended deed? s (act s)) (hp : s.records.poisoned = false)
    (hq : (endState act s).records.poisoned = true) : ∃ p s', act s = .error p s' := by
  rw [endState] at hq
  generalize act s = res at h hq
  cases h with
  | failed | looked | kept | erased => exact absurd (hp.symm.trans hq) (by simp)
  | @broken p => exact ⟨p, _, rfl⟩

/-! ## Sound stores -/

/-- What every call keeps: the specification, and that all records fit it. -/
structure Sound (spec : Specification ι σ) (s : RecordStore ι σ ρ) : Prop where
  spec_eq : s.spec = spec
  fits : ∀ r ∈ s.records.value, spec.checkColumns r.columns = .ok ()

omit [DecidableEq ι] in
theorem sound_empty (spec : Specification ι σ) : Sound spec (.empty spec : RecordStore ι σ ρ) where
  spec_eq := rfl
  fits := by simp [RecordStore.empty]

theorem Sound.put (h : Sound spec s) {r : Record ι ρ}
    (hr : s.spec.checkColumns r.columns = .ok ()) : Sound spec (s.put r) where
  spec_eq := h.spec_eq
  fits := by
    intro x hx
    rcases mem_putRecord hx with rfl | hx
    · exact h.spec_eq ▸ hr
    · exact h.fits x hx

theorem Sound.drop (h : Sound spec s) (i : ι) : Sound spec (s.drop i) where
  spec_eq := h.spec_eq
  fits := fun x hx => h.fits x (List.mem_filter.1 hx).1

/-- However a call ends, it keeps a store sound. -/
theorem Sound.of_ended (h : Sound spec s)
    {act : EStateM Panic (RecordStore ι σ ρ) (Except StoreError Unit)}
    (ha : Ended deed? s (act s)) : Sound spec (endState act s) := by
  rw [endState]
  generalize act s = res at ha
  cases ha with
  | failed | looked | broken => exact ⟨h.spec_eq, h.fits⟩
  | kept _ hc => exact h.put hc
  | erased => exact h.drop _

omit [DecidableEq ι] in
/-- Everything that a sound store keeps is typed, so a valid query can be evaluated. -/
theorem Sound.exists_apply (h : Sound spec s) {q : Query}
    (hq : q.validate spec.catalog = .ok ()) : ∃ found, q.apply s.records.value = .ok found :=
  Query.apply_ok hq fun r hr => Specification.types_of_checkColumns (h.fits r hr)

end RecordStore

/-! ## Calls -/

/-- A call of a record store.  Snapshots can be written only where the payloads are
snapshots. -/
inductive StoreCall (ι σ : Type) : Type → Type 1 where
  | write {ρ : Type} (r : Record ι ρ) : StoreCall ι σ ρ
  /-- Keep a payload with the columns of an entity. -/
  | writeEntity {ρ : Type} (e : Entity ι σ) (payload : ρ) : StoreCall ι σ ρ
  | writeSnapshot (e : Entity ι σ) : StoreCall ι σ (Snapshot σ)
  | delete {ρ : Type} (i : ι) : StoreCall ι σ ρ
  | query {ρ : Type} (q : Query) : StoreCall ι σ ρ
  /-- Break off before the store is reached, because what it should keep cannot be made: the
  columns of an entity, a copy of its identity, or a snapshot of it. -/
  | unmade {ρ : Type} (p : Panic) : StoreCall ι σ ρ

namespace StoreCall

/-- The action of a call, without its answer. -/
def act : {ρ : Type} → Faults ι ρ → StoreCall ι σ ρ → EStateM Panic (RecordStore ι σ ρ) Unit
  | _, f, write r => (fun _ => ()) <$> RecordStore.write f r
  | _, f, writeEntity e payload => (fun _ => ()) <$> RecordStore.writeEntity f e payload
  | _, f, writeSnapshot e => (fun _ => ()) <$> RecordStore.writeSnapshot f e
  | _, f, delete i => (fun _ => ()) <$> RecordStore.delete f i
  | _, f, query q => (fun _ => ()) <$> RecordStore.query f q
  | _, _, unmade p => throw p

/-- Whether a call on a store breaks off. -/
def BreaksOff (f : Faults ι ρ) (k : StoreCall ι σ ρ) (s : RecordStore ι σ ρ) : Prop :=
  ∃ p s', k.act f s = .error p s'

/-- The action of a call that says whether it succeeded. -/
def attempt : {ρ : Type} → Faults ι ρ → StoreCall ι σ ρ →
    EStateM Panic (RecordStore ι σ ρ) (Except StoreError Unit)
  | _, f, write r => Records.attempt (RecordStore.write f r)
  | _, f, writeEntity e payload => Records.attempt (RecordStore.writeEntity f e payload)
  | _, f, writeSnapshot e => Records.attempt (RecordStore.writeSnapshot f e)
  | _, f, delete i => Records.attempt (RecordStore.delete f i)
  | _, f, query q => Records.attempt (RecordStore.query f q)
  | _, _, unmade p => throw p

/-- What a call does that lasts, if it succeeds. -/
def deed? (spec : Specification ι σ) : {ρ : Type} → StoreCall ι σ ρ → Option (Deed ι ρ)
  | _, write r => some (.kept r)
  | _, writeEntity e payload => some (.kept (spec.record e payload))
  | _, writeSnapshot e => some (.kept (spec.record e e.snapshot))
  | _, delete i => some (.erased i)
  | _, query _ | _, unmade _ => none

theorem act_eq (f : Faults ι ρ) (k : StoreCall ι σ ρ) :
    k.act f = (fun _ => ()) <$> k.attempt f := by
  cases k with
  | write | writeEntity | writeSnapshot | delete | query =>
      rw [act, attempt, Records.attempt, Functor.map_map]
  | unmade => rfl

theorem attempt_ended (f : Faults ι ρ) (k : StoreCall ι σ ρ) (s : RecordStore ι σ ρ) :
    s.Ended (k.deed? s.spec) (k.attempt f s) := by
  cases k with
  | write r => exact s.ended_write f r
  | writeEntity e payload => exact s.ended_writeEntity f e payload
  | writeSnapshot e => exact s.ended_writeEntity f e e.snapshot
  | delete i => exact s.ended_delete f i
  | query q => exact s.ended_query f q
  | unmade p => exact .broken

/-- Every call keeps a store sound. -/
theorem sound_act {spec : Specification ι σ} {s : RecordStore ι σ ρ} (h : s.Sound spec)
    (f : Faults ι ρ) (k : StoreCall ι σ ρ) : (endState (k.act f) s).Sound spec := by
  rw [act_eq, endState_map]
  exact h.of_ended (k.attempt_ended f s)

/-- A call poisons the lock only by breaking off. -/
theorem breaksOff_of_poisoned {f : Faults ι ρ} {k : StoreCall ι σ ρ} {s : RecordStore ι σ ρ}
    (hp : s.records.poisoned = false) (hq : (endState (k.act f) s).records.poisoned = true) :
    k.BreaksOff f s := by
  rw [act_eq, endState_map] at hq
  obtain ⟨p, s', h⟩ := (k.attempt_ended f s).breaks_of_poisoned hp hq
  exact ⟨p, s', by rw [act_eq, map_of_error _ h]⟩

end StoreCall

/-! ## Histories -/

/-- The store after some calls, the first call first, each with the faults in its course. -/
def run : List (Faults ι ρ × StoreCall ι σ ρ) → RecordStore ι σ ρ → RecordStore ι σ ρ
  | [], s => s
  | (f, k) :: ks, s => run ks (endState (k.act f) s)

theorem RecordStore.Sound.run {spec : Specification ι σ} {s : RecordStore ι σ ρ}
    (h : s.Sound spec) (ks : List (Faults ι ρ × StoreCall ι σ ρ)) : (run ks s).Sound spec := by
  induction ks generalizing s with
  | nil => exact h
  | cons turn ks ih => exact ih (turn.2.sound_act h turn.1)

/-- A history poisons the lock only if one of its calls breaks off. -/
theorem exists_breaksOff_of_poisoned {s : RecordStore ι σ ρ}
    (ks : List (Faults ι ρ × StoreCall ι σ ρ)) (hp : s.records.poisoned = false)
    (hq : (run ks s).records.poisoned = true) :
    ∃ before f k after, ks = before ++ (f, k) :: after ∧ k.BreaksOff f (run before s) := by
  induction ks generalizing s with
  | nil =>
      rw [run, hp] at hq
      cases hq
  | cons turn ks ih =>
      obtain ⟨f, k⟩ := turn
      cases hk : (endState (k.act f) s).records.poisoned with
      | true => exact ⟨[], f, k, ks, rfl, k.breaksOff_of_poisoned hp hk⟩
      | false =>
          obtain ⟨before, f', k', after, rfl, hb⟩ := ih hk hq
          exact ⟨(f, k) :: before, f', k', after, rfl, hb⟩

/-- After any history an invalid query fails with the failure of its validation.  A valid query
can be evaluated on what is kept.  It hands out copies of the records that it selects, and it
breaks off where one of them cannot be copied.  If the lock is poisoned it fails instead, and that
takes a call that broke off. -/
theorem query_run (spec : Specification ι σ) (ks : List (Faults ι ρ × StoreCall ι σ ρ))
    (f : Faults ι ρ) (q : Query) :
    let start : RecordStore ι σ ρ := .empty spec
    let s := run ks start
    (∀ e, q.validate spec.catalog = .error e →
      RecordStore.query f q s = .ok (.error (.query e)) s) ∧
    (q.validate spec.catalog = .ok () → s.records.poisoned = false →
      ∃ found, q.apply s.records.value = .ok found ∧ RecordStore.HandsOut f q s found) ∧
    (q.validate spec.catalog = .ok () → s.records.poisoned = true →
      RecordStore.query f q s = .ok (.error .poisoned) s) ∧
    (s.records.poisoned = true →
      ∃ before f k after, ks = before ++ (f, k) :: after ∧ k.BreaksOff f (run before start)) := by
  intro start s
  have hs : s.Sound spec := (RecordStore.sound_empty spec).run ks
  refine ⟨fun e he => ?_, fun hq hp => ?_, fun hq hp => ?_, ?_⟩
  · rw [RecordStore.query, hs.spec_eq, he]
  · obtain ⟨found, ha⟩ := hs.exists_apply hq
    exact ⟨found, ha, RecordStore.handsOut_of_apply (hs.spec_eq ▸ hq) hp ha⟩
  · exact RecordStore.query_of_poisoned (hs.spec_eq ▸ hq) hp
  · exact exists_breaksOff_of_poisoned (s := start) ks rfl

def bare : Specification Nat Unit := ⟨"bare", [], [], .nil⟩

/-- Validity alone does not save a query from failing: the deletion breaks off, and
behind the poisoned lock the query for every record fails. -/
theorem query_failure_not_iff_invalid :
    ¬ ∀ (ks : List (Faults Nat Unit × StoreCall Nat Unit Unit)) (f : Faults Nat Unit) (q : Query),
      (∃ e s', RecordStore.query f q (run ks (.empty bare)) = .ok (.error e) s') ↔
        ∃ e, q.validate bare.catalog = .error e := by
  intro h
  have hdeletion := h [({ place := fun _ => some ⟨"hash"⟩ }, .delete 0)] {} .all
  obtain ⟨e, he⟩ := hdeletion.1 ⟨.poisoned, _, rfl⟩
  have hvalid : Query.all.validate bare.catalog = .ok () := rfl
  rw [hvalid] at he
  cases he

end Switchboard.Records
