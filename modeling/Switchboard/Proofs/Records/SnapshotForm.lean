import Mathlib
import Switchboard.Proofs.Records.Activity
import Switchboard.Proofs.Records.Relevance

/-!
# Two forms of a record

An entity is kept in full, with every column of its specification, or as a mere snapshot, with the
lifecycle columns only (`Form`).  The two are made in different ways: one extracts from the entity,
the other reads the payload.

Where the system columns of the specification are the lifecycle columns, the snapshot has just
those columns of the full record, with the same values (`Specification.restrict_valuesIn`).  So the
two forms cannot be told apart by predicates and sort keys that look at nothing else, and a query of
this kind finds the same positions however the two forms are mixed (`snapshot_agrees`).
-/

namespace Switchboard.Records

variable {ι σ : Type}

def lifecycleNames : List ColumnName := [archivedName, deletedName, versionName]

/-- The entries of a map under some names. -/
def Columns.restrict (c : Columns) (names : List ColumnName) : Columns :=
  c.filter fun name _ => name ∈ names

theorem Columns.get?_restrict_eq_some_iff {c : Columns} {names : List ColumnName}
    {name : ColumnName} {v : ColumnValue} :
    (c.restrict names).get? name = some v ↔ c.get? name = some v ∧ name ∈ names := by
  rw [restrict, get?_filter, Option.filter_eq_some_iff, decide_eq_true_iff]

theorem Columns.value_restrict {c : Columns} {names : List ColumnName} {name : ColumnName}
    (h : name ∈ names) : (c.restrict names).value name = c.value name := by
  rw [value, value, restrict, get?_filter]
  cases c.get? name with
  | none => rfl
  | some v => rw [Option.filter_some, if_pos (decide_eq_true h)]

namespace Specification

/-- What is extracted under the names of the system columns are the system columns. -/
theorem restrict_valuesIn (s : Specification ι σ) (e : Entity ι σ) :
    (s.valuesIn e).restrict (s.system.map Column.name) =
      .ofList (s.system.map fun c => (c.name, c.extract e)) := by
  have hnames : ((s.system.map fun c => (c.name, c.extract e)).map Prod.fst).Nodup := by
    rw [List.map_map]
    exact (List.nodup_append.1 s.distinct).1
  refine Columns.ext_get? fun name => Option.ext fun v => ?_
  rw [Columns.get?_restrict_eq_some_iff, s.get?_valuesIn_eq_some_iff,
    Columns.get?_ofList_eq_some_iff hnames]
  constructor
  · rintro ⟨⟨r, hr, rfl, rfl⟩, hname⟩
    obtain ⟨c, hc, hcr⟩ := List.mem_map.1 hname
    have hmem : .system c ∈ s.columnRefs := List.mem_append_left _ (List.mem_map_of_mem hc)
    obtain rfl := s.eq_of_name_eq hmem hr hcr
    exact List.mem_map_of_mem hc
  · intro hmem
    obtain ⟨c, hc, heq⟩ := List.mem_map.1 hmem
    obtain ⟨rfl, rfl⟩ := Prod.mk.inj heq
    exact ⟨⟨.system c, List.mem_append_left _ (List.mem_map_of_mem hc), rfl, rfl⟩,
      List.mem_map_of_mem hc⟩

end Specification

/-! ## Forms -/

/-- An entity is kept as a record, in full or as a snapshot. -/
inductive Entity.KeptAs (s : Specification ι σ) (e : Entity ι σ) :
    Record ι (Snapshot σ) → Prop where
  | full : KeptAs s e (s.record e e.snapshot)
  | snapshot : KeptAs s e (.ofSnapshot e.id e.snapshot)

theorem columns_ofSnapshot {s : Specification ι σ} (hs : s.system = lifecycleColumns)
    (e : Entity ι σ) :
    (Record.ofSnapshot e.id e.snapshot).columns = (s.valuesIn e).restrict lifecycleNames := by
  have h := s.restrict_valuesIn e
  rw [hs] at h
  exact h.symm

/-- Every form has the lifecycle columns of the entity. -/
theorem Entity.KeptAs.value_eq {s : Specification ι σ} (hs : s.system = lifecycleColumns)
    {e : Entity ι σ} {r : Record ι (Snapshot σ)} (h : e.KeptAs s r) {name : ColumnName}
    (hname : name ∈ lifecycleNames) : r.columns.value name = (s.valuesIn e).value name := by
  cases h with
  | full => rfl
  | snapshot => rw [columns_ofSnapshot hs, Columns.value_restrict hname]

/-- However entities are kept, a query that mentions only lifecycle columns finds the same
positions. -/
theorem Entity.KeptAs.positions_eq {s : Specification ι σ} (hs : s.system = lifecycleColumns)
    {q : Query} (hq : ∀ m ∈ q.mentions, m.column ∈ lifecycleNames) {es : List (Entity ι σ)}
    {rs : List (Record ι (Snapshot σ))} (h : List.Forall₂ (KeptAs s) es rs) :
    q.positions (es.map fun e => s.record e e.snapshot) = q.positions rs :=
  Query.positions_eq (List.forall₂_map_left_iff.2
    (h.imp fun _ _ hkept m hm => (hkept.value_eq hs (hq m hm)).symm))

/-- A snapshot has just the lifecycle columns of the full record.  So predicates come to the same
on both, failures included, if they mention no other columns, and sort keys put both in the same
place.  A query of this kind finds the same positions, however the two forms are mixed. -/
theorem snapshot_agrees {s : Specification ι σ} (hs : s.system = lifecycleColumns) :
    (∀ e : Entity ι σ,
      (Record.ofSnapshot e.id e.snapshot).columns = (s.valuesIn e).restrict lifecycleNames) ∧
    (∀ p : Predicate, (∀ m ∈ p.mentions, m.column ∈ lifecycleNames) → ∀ e : Entity ι σ,
      p.eval (Record.ofSnapshot e.id e.snapshot).columns = p.eval (s.valuesIn e)) ∧
    (∀ ks : List OrderBy, (∀ k ∈ ks, k.column ∈ lifecycleNames) →
      ∀ (e : Entity ι σ) (c : Columns),
        let snapshot := (Record.ofSnapshot e.id e.snapshot).columns
        OrderBy.orderAll ks snapshot c = OrderBy.orderAll ks (s.valuesIn e) c ∧
          OrderBy.orderAll ks c snapshot = OrderBy.orderAll ks c (s.valuesIn e)) ∧
    ∀ q : Query, (∀ m ∈ q.mentions, m.column ∈ lifecycleNames) →
      ∀ (es : List (Entity ι σ)) (rs rs' : List (Record ι (Snapshot σ))),
        List.Forall₂ (Entity.KeptAs s) es rs → List.Forall₂ (Entity.KeptAs s) es rs' →
          q.positions rs = q.positions rs' := by
  have hvalue (e : Entity ι σ) {name : ColumnName} (hname : name ∈ lifecycleNames) :=
    (Entity.KeptAs.snapshot : e.KeptAs s _).value_eq hs hname
  refine ⟨columns_ofSnapshot hs, fun p hp e => ?_, fun ks hks e c => ⟨?_, ?_⟩,
    fun q hq es rs rs' hrs hrs' => ?_⟩
  · exact p.eval_congr fun m hm => hvalue e (hp m hm)
  · exact OrderBy.orderAll_congr (fun k hk => hvalue e (hks k hk)) fun _ _ => rfl
  · exact OrderBy.orderAll_congr (fun _ _ => rfl) fun k hk => hvalue e (hks k hk)
  · exact (Entity.KeptAs.positions_eq hs hq hrs).symm.trans (Entity.KeptAs.positions_eq hs hq hrs')

/-- The orders that are active, the latest first. -/
def latest : Query := Query.active.thenBy versionName .descending

/-- Order 2 is archived, and the version of order 3 is too large for a column. -/
def orders : List (Entity Nat Int64) :=
  [⟨1, 40, 3, {}⟩, ⟨2, 7, 9, { archived := true }⟩, ⟨3, 5, 18446744073709551615, {}⟩]

/-- The orders with a total for each that is kept in full. -/
def mixedOrders : List (Record Nat (Snapshot Int64)) :=
  [orderSpecification.record ⟨1, 40, 3, {}⟩ ⟨40, 3, {}⟩, .ofSnapshot 2 ⟨7, 9, { archived := true }⟩,
    .ofSnapshot 3 ⟨5, 18446744073709551615, {}⟩]

theorem snapshot_agrees_orders :
    orderSpecification.system = lifecycleColumns ∧
      (∀ m ∈ latest.mentions, m.column ∈ lifecycleNames) ∧
      List.Forall₂ (Entity.KeptAs orderSpecification) orders mixedOrders ∧
      latest.positions (orders.map fun e => orderSpecification.record e e.snapshot) = .ok [2, 0] ∧
      latest.positions mixedOrders = .ok [2, 0] := by
  have hsystem : orderSpecification.system = lifecycleColumns := rfl
  have hmentions : ∀ m ∈ latest.mentions, m.column ∈ lifecycleNames := by decide
  have hmixed : List.Forall₂ (Entity.KeptAs orderSpecification) orders mixedOrders :=
    .cons .full (.cons .snapshot (.cons .snapshot .nil))
  have hfull : List.Forall₂ (Entity.KeptAs orderSpecification) orders
      (orders.map fun e => orderSpecification.record e e.snapshot) :=
    List.forall₂_map_right_iff.2 (List.forall₂_same.2 fun _ _ => .full)
  have hpositions :
      latest.positions (orders.map fun e => orderSpecification.record e e.snapshot) =
        .ok [2, 0] := by cbv
  obtain ⟨-, -, -, hqueries⟩ := snapshot_agrees hsystem
  exact ⟨hsystem, hmentions, hmixed, hpositions,
    (hqueries latest hmentions orders _ _ hmixed hfull).trans hpositions⟩

end Switchboard.Records
