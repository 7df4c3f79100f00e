import Switchboard.Proofs.Records.Ledger
import Switchboard.Proofs.Records.Lookup
import Switchboard.Proofs.Records.Reordering

/-!
# Active records

A snapshot is kept together with columns, and both say whether it is archived or deleted.  A
query looks at the columns only.  A record is `Faithful` if its lifecycle columns say what its
payload says.

There are two ways to write a faithful record: to extract the columns of an entity, where the
specification has the lifecycle columns as its system columns, or to make the lifecycle columns
of the snapshot itself (`WritesSnapshots`).  As long as nothing else is written, the query for
active records gives those whose payload is active (`query_active`).  Whatever was replaced,
erased or refused before does not matter, since every record that is kept goes back to a
request that wrote it (`exists_of_mem_deeds`).
-/

namespace Switchboard.Records

variable {ι σ ρ : Type}

/-! ## Faithful records -/

/-- A record whose lifecycle columns say what its payload says. -/
structure Record.Faithful (r : Record ι (Snapshot σ)) : Prop where
  archived_eq : r.value archivedName = .bool r.payload.lifecycle.archived
  deleted_eq : r.value deletedName = .bool r.payload.lifecycle.deleted
  version_eq : r.value versionName = .ofVersion r.payload.version

/-- The lifecycle columns of a snapshot are faithful to it. -/
theorem Record.faithful_ofSnapshot (i : ι) (s : Snapshot σ) : (ofSnapshot i s).Faithful := by
  let entries : List (ColumnName × ColumnValue) :=
    [(archivedName, .bool s.lifecycle.archived), (deletedName, .bool s.lifecycle.deleted),
      (versionName, .ofVersion s.version)]
  have hnames : (entries.map Prod.fst).Nodup :=
    (by decide : [archivedName, deletedName, versionName].Nodup)
  exact
    { archived_eq := Columns.value_ofList hnames (.head _)
      deleted_eq := Columns.value_ofList hnames (.tail _ (.head _))
      version_eq := Columns.value_ofList hnames (.tail _ (.tail _ (.head _))) }

/-- The columns of an entity are faithful to its snapshot. -/
theorem Specification.faithful_record {spec : Specification ι σ}
    (h : spec.system = lifecycleColumns) (e : Entity ι σ) :
    (spec.record e e.snapshot).Faithful where
  archived_eq := spec.value_valuesIn (c := archivedColumn) (h ▸ .head _) e
  deleted_eq := spec.value_valuesIn (c := deletedColumn) (h ▸ .tail _ (.head _)) e
  version_eq := spec.value_valuesIn (c := versionColumn) (h ▸ .tail _ (.tail _ (.head _))) e

/-! ## The query for active records -/

/-- A flag is compared with false. -/
theorem Predicate.eval_compare_flag {c : Columns} {name : ColumnName} {b : Bool}
    (h : c.value name = .bool b) :
    (Predicate.compare name .equal (.bool false)).eval c = .ok (!b) := by
  rw [eval, h]
  cases b with
  | true => rfl
  | false => rfl

namespace Query

/-- It is valid where the lifecycle columns are declared. -/
theorem active_valid {spec : Specification ι σ} (h : spec.system = lifecycleColumns) :
    active.validate spec.catalog = .ok () := by
  have hflag {c : Column (Entity ι σ)} (hc : c ∈ spec.system) (ht : c.type = .bool) :
      (Predicate.compare c.name .equal (.bool false)).validate spec.catalog = .ok () := by
    rw [Predicate.validate, Predicate.validateCompare_eq_ok_iff]
    refine ⟨c.type, ?_, ht ▸ rfl⟩
    simp only [Specification.catalog, spec.find?_of_mem_system hc]
    rfl
  have harchived := hflag (c := archivedColumn) (h ▸ .head _) rfl
  have hdeleted := hflag (c := deletedColumn) (h ▸ .tail _ (.head _)) rfl
  have hpredicate : active.predicate.validate spec.catalog = .ok () := by
    show Predicate.validateEach _ _ = _
    exact Predicate.validateEach_cons_eq_ok_iff.2
      ⟨harchived, Predicate.validateEach_cons_eq_ok_iff.2 ⟨hdeleted, rfl⟩⟩
  rw [validate, hpredicate]
  rfl

/-- On a faithful record it asks what the payload says. -/
theorem active_eval {r : Record ι (Snapshot σ)} (h : r.Faithful) :
    active.predicate.eval r.columns = .ok r.payload.lifecycle.isActive := by
  have harchived := Predicate.eval_compare_flag h.archived_eq
  have hdeleted := Predicate.eval_compare_flag h.deleted_eq
  show Predicate.evalAll _ _ = _
  rw [Predicate.evalAll, harchived, LifecycleFlags.isActive]
  cases r.payload.lifecycle.archived with
  | true => rfl
  | false =>
      simp only [Bool.not_false, Bool.true_and]
      rw [Predicate.evalAll, hdeleted]
      cases r.payload.lifecycle.deleted with
      | true => rfl
      | false => rfl

theorem active_apply {rs : List (Record ι (Snapshot σ))} (h : ∀ r ∈ rs, r.Faithful) :
    active.apply rs = .ok (rs.filter fun r => r.payload.lifecycle.isActive) := by
  have hevaluates : active.Evaluates rs := fun r hr => ⟨_, active_eval (h r hr)⟩
  have hselects : rs.filter active.selects = rs.filter fun r => r.payload.lifecycle.isActive := by
    refine List.filter_congr fun r hr => ?_
    rw [selects, Predicate.accepts, active_eval (h r hr)]
  rw [apply_of_evaluates hevaluates, hselects]
  exact congrArg Except.ok (sortBy_nil _)

end Query

/-! ## Histories of snapshots -/

section

variable [DecidableEq ι]

namespace Request

/-- A request that writes nothing but snapshots of entities and records with the lifecycle
columns. -/
inductive WritesSnapshots : Request ι σ (Snapshot σ) → Prop where
  | entity (e : Entity ι σ) : WritesSnapshots (call (.writeSnapshot e))
  | record (i : ι) (s : Snapshot σ) : WritesSnapshots (call (.write (.ofSnapshot i s)))
  | delete (i : ι) : WritesSnapshots (call (.delete i))
  | query (q : Query) : WritesSnapshots (call (.query q))
  | unmade (p : Panic) : WritesSnapshots (call (.unmade p))
  | read (i : ι) : WritesSnapshots (read i)
  | length : WritesSnapshots length

omit [DecidableEq ι] in
/-- Both ways to write a snapshot write a faithful record. -/
theorem WritesSnapshots.faithful {k : Request ι σ (Snapshot σ)} (hk : k.WritesSnapshots)
    {spec : Specification ι σ} (hspec : spec.system = lifecycleColumns)
    {r : Record ι (Snapshot σ)} (hr : k.deed? spec = some (.kept r)) : r.Faithful := by
  cases hk with
  | entity e =>
      cases hr
      exact Specification.faithful_record hspec e
  | record i s =>
      cases hr
      exact Record.faithful_ofSnapshot i s
  | delete | query | unmade | read | length => cases hr

theorem deed?_of_mem_deeds {f : Faults ι ρ} {k : Request ι σ ρ} {s : RecordStore ι σ ρ}
    {d : Deed ι ρ} (h : d ∈ k.deeds f s) : k.deed? s.spec = some d := by
  rw [deeds] at h
  cases hk : k.act f s with
  | error p s' => simp [hk] at h
  | ok answer s' =>
      cases answer with
      | error e => simp [hk] at h
      | ok u => simpa [hk] using h

end Request

/-- Every deed of a history is what one of its requests does. -/
theorem exists_of_mem_deeds {ks : List (Faults ι ρ × Request ι σ ρ)} {s : RecordStore ι σ ρ}
    {ds : List (Deed ι ρ)} {d : Deed ι ρ} (h : d ∈ (chronicle ks s ds).2) :
    d ∈ ds ∨ ∃ turn ∈ ks, turn.2.deed? s.spec = some d := by
  induction ks generalizing s ds with
  | nil => exact .inl h
  | cons turn ks ih =>
      rcases ih h with hd | ⟨turn', hturn, hd⟩
      · refine (List.mem_append.1 hd).imp_right fun hd => ?_
        exact ⟨turn, List.mem_cons_self, Request.deed?_of_mem_deeds hd⟩
      · rw [Request.spec_act] at hd
        exact .inr ⟨turn', List.mem_cons_of_mem turn hturn, hd⟩

/-- Every record that is kept after a history was written by one of its requests. -/
theorem exists_of_kept {spec : Specification ι σ} {ks : List (Faults ι ρ × Request ι σ ρ)}
    {r : Record ι ρ} (hr : r ∈ (chronicle ks (.empty spec) []).1.records.value) :
    ∃ turn ∈ ks, turn.2.deed? spec = some (.kept r) := by
  have hs := (Accounts.start (ρ := ρ) spec).chronicle ks
  obtain ⟨before, after, hds, _⟩ := (hs.mem_iff r).1 hr
  have hmem : Deed.kept r ∈ (chronicle ks (.empty spec) []).2 :=
    hds ▸ List.mem_append_right before List.mem_cons_self
  exact (exists_of_mem_deeds hmem).resolve_left List.not_mem_nil

/-- After such a history the store keeps faithful records only. -/
theorem faithful_of_kept {spec : Specification ι σ} (hspec : spec.system = lifecycleColumns)
    {ks : List (Faults ι (Snapshot σ) × Request ι σ (Snapshot σ))}
    (hks : ∀ turn ∈ ks, turn.2.WritesSnapshots) {r : Record ι (Snapshot σ)}
    (hr : r ∈ (chronicle ks (.empty spec) []).1.records.value) : r.Faithful := by
  obtain ⟨turn, hturn, hd⟩ := exists_of_kept hr
  exact (hks turn hturn).faithful hspec hd

/-- After a history that writes snapshots only, the query for active records hands out the records
that are left and whose payload is active, each of them once.  It breaks off where one of these
cannot be copied, and it fails only behind a poisoned lock.  The lock is poisoned only by a request
that would change what is kept under an identity that cannot be copied or whose place cannot be
found, and that broke off. -/
theorem query_active {spec : Specification ι σ} (hspec : spec.system = lifecycleColumns)
    {ks : List (Faults ι (Snapshot σ) × Request ι σ (Snapshot σ))}
    (hks : ∀ turn ∈ ks, turn.2.WritesSnapshots) :
    let start : RecordStore ι σ (Snapshot σ) := .empty spec
    let s := (chronicle ks start []).1
    let ds := (chronicle ks start []).2
    (s.records.poisoned = false →
      ∃ found, (found.map Record.id).Nodup ∧
        (∀ r, r ∈ found ↔ Holds ds r.id r ∧ r.payload.lifecycle.isActive = true) ∧
        ∀ f, RecordStore.HandsOut f .active s found) ∧
    (s.records.poisoned = true →
      (∀ f, RecordStore.query f .active s = .ok (.error .poisoned) s) ∧
        ∃ before f k after d p, ks = before ++ (f, k) :: after ∧
          k.BreaksOff f (chronicle before start []).1 ∧
          k.deed? spec = some d ∧ (f.copyId d.id = some p ∨ f.place d.id = some p)) := by
  intro start s ds
  have hs : Accounts s ds := (Accounts.start spec).chronicle ks
  have hvalid : Query.active.validate s.spec.catalog = .ok () := by
    rw [spec_chronicle ks start []]
    exact Query.active_valid hspec
  refine ⟨fun hp => ?_, fun hp => ⟨fun f => ?_, exists_fault_of_poisoned ks hp⟩⟩
  · have happly := Query.active_apply fun r (hr : r ∈ s.records.value) =>
      faithful_of_kept hspec hks hr
    refine ⟨_, hs.nodup.sublist (List.filter_sublist.map Record.id), fun r => ?_,
      fun f => RecordStore.handsOut_of_apply hvalid hp happly⟩
    rw [List.mem_filter, hs.mem_iff]
  · exact RecordStore.query_of_poisoned hvalid hp

/-- Orders by their totals.  An empty order extracts a text where a number is declared. -/
def orderSpecification : Specification Nat Int64 where
  recordType := "sales.Order"
  system := lifecycleColumns
  state := [⟨"total", .int, fun total => if total = 0 then .text "empty" else .int total⟩]
  distinct := by decide

/-- Order 1 is written, and it cannot be archived once it is empty.  Order 2 is archived when
it is written, and a record replaces it that is not.  Order 3 is deleted.  Before that it is
read, and that breaks off because it cannot be copied. -/
def orderRequests :
    List (Faults Nat (Snapshot Int64) × Request Nat Int64 (Snapshot Int64)) :=
  [({}, .call (.writeSnapshot ⟨1, 40, 1, {}⟩)),
    ({}, .call (.writeSnapshot ⟨2, 7, 1, { archived := true }⟩)),
    ({}, .call (.write (.ofSnapshot 3 ⟨5, 1, {}⟩))),
    ({}, .call (.writeSnapshot ⟨1, 0, 2, { archived := true }⟩)),
    ({ copy := fun r => if r.id = 3 then some ⟨"copy"⟩ else none }, .read 3),
    ({}, .call (.write (.ofSnapshot 2 ⟨0, 2, {}⟩))),
    ({}, .call (.delete 3))]

/-- The store after these requests, and their deeds. -/
def orderHistory : RecordStore Nat Int64 (Snapshot Int64) × List (Deed Nat (Snapshot Int64)) :=
  chronicle orderRequests (.empty orderSpecification) []

theorem query_active_orders :
    orderSpecification.system = lifecycleColumns ∧
      (∀ turn ∈ orderRequests, turn.2.WritesSnapshots) ∧
      orderHistory.1.records.poisoned = false ∧
      ∃ found, (found.map Record.id).Nodup ∧
        (∀ r, r ∈ found ↔ Holds orderHistory.2 r.id r ∧ r.payload.lifecycle.isActive = true) ∧
        (∀ i, i ∈ found.map Record.id ↔ i ∈ [1, 2]) ∧
        ∃ s', RecordStore.query {} .active orderHistory.1 = .ok (.ok found) s' := by
  have hwrites : ∀ turn ∈ orderRequests, turn.2.WritesSnapshots := by
    simp only [orderRequests, List.forall_mem_cons]
    exact ⟨.entity _, .entity _, .record _ _, .entity _, .read _, .record _ _, .delete _,
      fun turn hturn => absurd hturn List.not_mem_nil⟩
  have hp : orderHistory.1.records.poisoned = false := by decide +kernel
  have hids : (orderHistory.1.records.value.filter
      fun r => r.payload.lifecycle.isActive).map Record.id = [1, 2] := by decide +kernel
  have hs : Accounts orderHistory.1 orderHistory.2 :=
    (Accounts.start orderSpecification).chronicle orderRequests
  have hsystem : orderSpecification.system = lifecycleColumns := rfl
  obtain ⟨found, hnodup, hfound, hout⟩ := (query_active hsystem hwrites).1 hp
  refine ⟨hsystem, hwrites, hp, found, hnodup, hfound, fun i => ?_, ?_⟩
  · rw [← hids, List.mem_map, List.mem_map]
    simp only [List.mem_filter, hs.mem_iff]
    exact exists_congr fun r => and_congr_left fun _ => hfound r
  · rcases hout {} with ⟨-, hanswer⟩ | ⟨r, -, p, hcopy, -⟩
    · exact hanswer
    · cases hcopy

/-- A snapshot whose identity has no place is written.  That breaks off, and behind the poisoned
lock the query fails. -/
theorem query_active_fails :
    ¬ ∀ (spec : Specification Nat Int64)
        (ks : List (Faults Nat (Snapshot Int64) × Request Nat Int64 (Snapshot Int64))),
      spec.system = lifecycleColumns → (∀ turn ∈ ks, turn.2.WritesSnapshots) →
        ∃ found s', RecordStore.query {} .active (chronicle ks (.empty spec) []).1 =
          .ok (.ok found) s' := by
  intro h
  let faults : Faults Nat (Snapshot Int64) := { place := fun _ => some ⟨"hash"⟩ }
  obtain ⟨found, s', hs'⟩ := h orderSpecification
    [(faults, .call (.writeSnapshot ⟨1, 40, 1, {}⟩))] rfl (List.forall_mem_singleton.2 (.entity _))
  have hp : (chronicle [(faults, Request.call (.writeSnapshot (⟨1, 40, 1, {}⟩ : Entity Nat Int64)))]
      (.empty orderSpecification) []).1.records.poisoned = true := by decide +kernel
  rw [RecordStore.query_of_poisoned (Query.active_valid rfl) hp] at hs'
  cases hs'

end

end Switchboard.Records
