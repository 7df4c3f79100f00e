import Mathlib
import Switchboard.Proofs.Records.Activity

/-!
# Versions in order

A version is a number without a sign, and its column has a sign.  The versions above the greatest
value of the column share that value, and all others are kept as they are (`exists_ofVersion`).  So
the column compares versions up to that bound (`isLE_compare_ofVersion`).  It never puts a greater
version first, and it confuses only versions at the bound and above (`ofVersion_eq_iff`).

The version of a record is that of its payload where the columns were extracted from the entity
whose snapshot is written, and where they were made of the payload itself (`WritesVersions`).  A
query that sorts by version first sorts such records by the versions of their payloads, up to the
bound (`Record.AtMost`).
-/

namespace Switchboard.Records

/-! ## Versions as values -/

/-- The version is at the greatest value of the column, or above. -/
def AtBound (v : UInt64) : Prop := 2 ^ 63 - 1 ≤ v.toNat

namespace ColumnValue

theorem exists_ofVersion (v : UInt64) :
    ∃ n : Int64, ofVersion v = .int n ∧ n.toInt = min (v.toNat : Int) (2 ^ 63 - 1) := by
  by_cases hv : v.toNat < 2 ^ 63
  · refine ⟨Int64.ofNat v.toNat, ?_, ?_⟩
    · rw [ofVersion, ofUInt64?, if_pos (by omega)]
      rfl
    · rw [Int64.toInt_ofNat_of_lt hv]
      omega
  · refine ⟨Int64.maxValue, ?_, ?_⟩
    · rw [ofVersion, ofUInt64?, if_neg (by omega)]
      rfl
    · have hmax : Int64.maxValue.toInt = 2 ^ 63 - 1 := by decide
      rw [hmax]
      omega

theorem isLE_compare_ofVersion (v w : UInt64) :
    (compare (ofVersion v) (ofVersion w)).isLE = true ↔ v ≤ w ∨ (AtBound v ∧ AtBound w) := by
  obtain ⟨n, hv, hn⟩ := exists_ofVersion v
  obtain ⟨m, hw, hm⟩ := exists_ofVersion w
  have hcompare : compare (int n) (int m) = compare n m := rfl
  rw [hv, hw, hcompare, Std.isLE_compare, Int64.le_iff_toInt_le, hn, hm, UInt64.le_iff_toNat_le,
    AtBound, AtBound]
  omega

theorem ofVersion_eq_iff (v w : UInt64) :
    ofVersion v = ofVersion w ↔ v = w ∨ (AtBound v ∧ AtBound w) := by
  obtain ⟨n, hv, hn⟩ := exists_ofVersion v
  obtain ⟨m, hw, hm⟩ := exists_ofVersion w
  rw [hv, hw, int.injEq, ← Int64.toInt_inj, hn, hm, ← UInt64.toNat_inj, AtBound, AtBound]
  omega

end ColumnValue

/-! ## Records with the versions of their payloads -/

variable {ι σ ρ : Type}

theorem Record.version_ofPayload [LifecycleRecord ρ] (i : ι) (p : ρ) :
    (ofPayload i p).value versionName = .ofVersion (LifecycleRecord.version p) :=
  (faithful_ofSnapshot i (⟨(), LifecycleRecord.version p, LifecycleRecord.lifecycle p⟩ :
    Snapshot Unit)).version_eq

/-- A record may come before another if its payload has no greater version, or if both versions
are at the bound or above. -/
def Record.AtMost [LifecycleRecord ρ] (a b : Record ι ρ) : Prop :=
  LifecycleRecord.version a.payload ≤ LifecycleRecord.version b.payload ∨
    (AtBound (LifecycleRecord.version a.payload) ∧ AtBound (LifecycleRecord.version b.payload))

/-- An answer that is sorted by version first has the versions of payloads in order, if the records
have the versions of their payloads. -/
theorem Query.pairwise_atMost [LifecycleRecord ρ] {q : Query} {ks : List OrderBy}
    (hq : q.orderBy = ⟨versionName, .ascending⟩ :: ks) {rs found : List (Record ι ρ)}
    (hrs : ∀ r ∈ rs, r.value versionName = .ofVersion (LifecycleRecord.version r.payload))
    (h : q.apply rs = .ok found) : found.Pairwise Record.AtMost := by
  refine (pairwise_of_apply h).imp_of_mem ?_
  intro a b ha hb hab
  have hfirst : (compare (a.value versionName) (b.value versionName)).isLE = true := by
    rw [OrderBy.Precedes, hq, OrderBy.orderAll, Ordering.isLE_then_iff_and] at hab
    exact hab.1
  rw [hrs a (mem_of_mem_apply h ha), hrs b (mem_of_mem_apply h hb)] at hfirst
  exact (ColumnValue.isLE_compare_ofVersion _ _).1 hfirst

/-! ## Histories -/

section

variable [DecidableEq ι]

namespace Request

/-- A request that writes no record but that of a snapshot, with the columns of the entity, or that
of a payload, with the lifecycle columns. -/
inductive WritesVersions : {ρ : Type} → [LifecycleRecord ρ] → Request ι σ ρ → Prop where
  | snapshot (e : Entity ι σ) : WritesVersions (call (.writeSnapshot e))
  | payload {ρ : Type} [LifecycleRecord ρ] (i : ι) (p : ρ) :
    WritesVersions (call (.write (.ofPayload i p)))
  | other {ρ : Type} [LifecycleRecord ρ] {k : Request ι σ ρ} :
    (∀ spec r, k.deed? spec ≠ some (.kept r)) → WritesVersions k

omit [DecidableEq ι] in
theorem WritesVersions.version_eq [LifecycleRecord ρ] {k : Request ι σ ρ} (hk : k.WritesVersions)
    {spec : Specification ι σ} (hspec : versionColumn ∈ spec.system) {r : Record ι ρ}
    (hr : k.deed? spec = some (.kept r)) :
    r.value versionName = .ofVersion (LifecycleRecord.version r.payload) := by
  cases hk with
  | snapshot e =>
      cases hr
      exact spec.value_valuesIn hspec e
  | payload i p =>
      cases hr
      exact Record.version_ofPayload i p
  | other hnone => exact absurd hr (hnone spec r)

end Request

/-- As values, versions saturate at the greatest value of the column.  That keeps their order and
tells apart all but those at the bound and above.  So after a history that writes no records but
those with the versions of their payloads, a valid query that sorts by version first hands out
records in the order of the versions of their payloads, up to the bound. -/
theorem versions_saturate [LifecycleRecord ρ] :
    (∀ v : UInt64,
      ∃ n : Int64, ColumnValue.ofVersion v = .int n ∧ n.toInt = min (v.toNat : Int) (2 ^ 63 - 1)) ∧
    (∀ v w : UInt64,
      (v ≤ w → (compare (ColumnValue.ofVersion v) (ColumnValue.ofVersion w)).isLE = true) ∧
      (ColumnValue.ofVersion v = ColumnValue.ofVersion w ↔
        v = w ∨ (2 ^ 63 - 1 ≤ v.toNat ∧ 2 ^ 63 - 1 ≤ w.toNat))) ∧
    ∀ (spec : Specification ι σ) (ks : List (Faults ι ρ × Request ι σ ρ)),
      versionColumn ∈ spec.system → (∀ turn ∈ ks, turn.2.WritesVersions) →
      ∀ (f : Faults ι ρ) (q : Query) (rest : List OrderBy),
        q.orderBy = ⟨versionName, .ascending⟩ :: rest →
        let s := (chronicle ks (.empty spec) []).1
        (q.validate spec.catalog = .ok () → s.records.poisoned = false →
          ∃ found, RecordStore.HandsOut f q s found) ∧
        ∀ found s', RecordStore.query f q s = .ok (.ok found) s' →
          found.Pairwise fun a b =>
            LifecycleRecord.version a.payload ≤ LifecycleRecord.version b.payload ∨
              (2 ^ 63 - 1 ≤ (LifecycleRecord.version a.payload).toNat ∧
                2 ^ 63 - 1 ≤ (LifecycleRecord.version b.payload).toNat) := by
  refine ⟨ColumnValue.exists_ofVersion, ?_, ?_⟩
  · intro v w
    refine ⟨?_, ColumnValue.ofVersion_eq_iff v w⟩
    intro hvw
    exact (ColumnValue.isLE_compare_ofVersion v w).2 (.inl hvw)
  · intro spec ks hspec hks f q rest hq s
    have hsound : s.Sound spec := (RecordStore.sound_empty spec).chronicle ks []
    refine ⟨?_, ?_⟩
    · intro hvalid hp
      obtain ⟨found, happly⟩ := hsound.exists_apply hvalid
      exact ⟨found, RecordStore.handsOut_of_apply (hsound.spec_eq ▸ hvalid) hp happly⟩
    · intro found s' hfound
      refine Query.pairwise_atMost hq ?_ (RecordStore.apply_of_query hfound)
      intro r hr
      obtain ⟨turn, hturn, hd⟩ := exists_of_kept hr
      exact (hks turn hturn).version_eq hspec hd

/-- The first version is above the bound, the second is at it, and the third is below. -/
def shipments : List (Faults Nat (Snapshot Int64) × Request Nat Int64 (Snapshot Int64)) :=
  [({}, .call (.writeSnapshot ⟨1, 40, 18446744073709551615, {}⟩)),
    ({}, .call (.write (.ofPayload 2 ⟨7, 9223372036854775807, {}⟩))),
    ({}, .call (.writeSnapshot ⟨3, 5, 9223372036854775806, {}⟩))]

/-- What the store keeps of them. -/
def shipped : List (Record Nat (Snapshot Int64)) :=
  [orderSpecification.record ⟨1, 40, 18446744073709551615, {}⟩ ⟨40, 18446744073709551615, {}⟩,
    .ofPayload 2 ⟨7, 9223372036854775807, {}⟩,
    orderSpecification.record ⟨3, 5, 9223372036854775806, {}⟩ ⟨5, 9223372036854775806, {}⟩]

def byVersion : Query := Query.all.thenBy versionName .ascending

set_option maxRecDepth 2000 in
theorem versions_saturate_shipments :
    versionColumn ∈ orderSpecification.system ∧ (∀ turn ∈ shipments, turn.2.WritesVersions) ∧
      byVersion.orderBy = [⟨versionName, .ascending⟩] ∧
      ∃ found s',
        RecordStore.query {} byVersion (chronicle shipments (.empty orderSpecification) []).1 =
          .ok (.ok found) s' ∧
        (found.Pairwise fun a b => a.payload.version ≤ b.payload.version ∨
          (2 ^ 63 - 1 ≤ a.payload.version.toNat ∧ 2 ^ 63 - 1 ≤ b.payload.version.toNat)) ∧
        found.map Record.id = [3, 1, 2] := by
  have hcolumn : versionColumn ∈ orderSpecification.system := .tail _ (.tail _ (.head _))
  have hwrites : ∀ turn ∈ shipments, turn.2.WritesVersions := by
    simp only [shipments, List.forall_mem_cons]
    exact ⟨.snapshot _, .payload _ _, .snapshot _,
      fun turn hturn => absurd hturn List.not_mem_nil⟩
  have hvalid : byVersion.validate orderSpecification.catalog = .ok () := by decide +kernel
  have hp : (chronicle shipments (.empty orderSpecification) []).1.records.poisoned = false := by
    decide +kernel
  have hshipped :
      (chronicle shipments (.empty orderSpecification) []).1.records.value = shipped := by
    decide +kernel
  have hids : (byVersion.apply shipped).map (List.map Record.id) = .ok [3, 1, 2] := by cbv
  obtain ⟨-, -, hhistories⟩ := versions_saturate (ι := Nat) (σ := Int64) (ρ := Snapshot Int64)
  obtain ⟨hout, hordered⟩ :=
    hhistories orderSpecification shipments hcolumn hwrites {} byVersion [] rfl
  obtain ⟨found, ⟨-, s', hfound⟩ | ⟨r, -, p, hcopy, -⟩⟩ := hout hvalid hp
  · have happly : byVersion.apply shipped = .ok found := by
      rw [← hshipped]
      exact RecordStore.apply_of_query hfound
    rw [happly] at hids
    exact ⟨hcolumn, hwrites, rfl, found, s', hfound, hordered found s' hfound,
      Except.ok.inj hids⟩
  · cases hcopy

end

end Switchboard.Records
