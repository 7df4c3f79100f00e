import Mathlib
import Switchboard.Proofs.Records.Ordering

/-!
# Queries on reordered records

The records of a store come in no particular order, so an answer should not depend on it.
It does not, as far as the sort keys can tell (`apply_perm`).  The same records in another
order make a query fail or succeed alike, and the answers have the same keys, position by
position.  Only records that agree on every key may change places, and a limit may then
cut off one in place of the other.

The answer to a query is its selection, sorted and cut off (`apply_of_evaluates`).
Selecting looks at one record at a time, so it yields the same records in another order.
Two sorted lists of the same records have the same keys, since the order of keys is
antisymmetric where that of records is not (`map_keysOf_eq`).
-/

namespace Switchboard.Records

/-! ## Selecting -/

/-- Whether a predicate is true of column values, and does not fail. -/
def Predicate.accepts (p : Predicate) (c : Columns) : Bool :=
  match p.eval c with
  | .ok b => b
  | .error _ => false

namespace Query

variable {ι ρ : Type} {q : Query} {rs : List (Record ι ρ)}

/-- Whether the predicate of a query does not fail on any of some records. -/
def Evaluates (q : Query) (rs : List (Record ι ρ)) : Prop :=
  ∀ r ∈ rs, ∃ b, q.predicate.eval r.columns = .ok b

def selects (q : Query) (r : Record ι ρ) : Bool := q.predicate.accepts r.columns

theorem select_of_evaluates (h : q.Evaluates rs) :
    select q.predicate rs = .ok (rs.filter q.selects) := by
  induction rs with
  | nil => rfl
  | cons r rs ih =>
      obtain ⟨b, hb⟩ := h r List.mem_cons_self
      have hr : q.selects r = b := by rw [selects, Predicate.accepts, hb]
      rw [select, hb, ih fun x hx => h x (List.mem_cons_of_mem r hx), List.filter_cons, hr]

theorem evaluates_of_select {kept : List (Record ι ρ)} (h : select q.predicate rs = .ok kept) :
    q.Evaluates rs := by
  induction rs generalizing kept with
  | nil => exact fun r hr => absurd hr List.not_mem_nil
  | cons r rs ih =>
      rw [select] at h
      cases hb : q.predicate.eval r.columns with
      | error e =>
          rw [hb] at h
          cases h
      | ok b =>
          cases hk : select q.predicate rs with
          | error e =>
              rw [hb, hk] at h
              cases h
          | ok kept' => exact List.forall_mem_cons.2 ⟨⟨b, hb⟩, ih hk⟩

theorem apply_of_evaluates (h : q.Evaluates rs) :
    q.apply rs = .ok (truncate q.limit (sortBy q.orderBy (rs.filter q.selects))) := by
  rw [apply, select_of_evaluates h]

/-- A query succeeds just on records on which its predicate does not fail. -/
theorem exists_apply_iff : (∃ found, q.apply rs = .ok found) ↔ q.Evaluates rs := by
  constructor
  · rintro ⟨found, h⟩
    rw [apply] at h
    cases hs : select q.predicate rs with
    | error e =>
        rw [hs] at h
        cases h
    | ok kept => exact evaluates_of_select hs
  · exact fun h => ⟨_, apply_of_evaluates h⟩

theorem exists_error_iff : (∃ e, q.apply rs = .error e) ↔ ¬ q.Evaluates rs := by
  rw [← exists_apply_iff]
  cases q.apply rs with
  | error e => simp
  | ok found => simp

theorem Evaluates.perm {rs' : List (Record ι ρ)} (h : q.Evaluates rs) (hp : rs.Perm rs') :
    q.Evaluates rs' :=
  fun r hr => h r (hp.mem_iff.2 hr)

/-! ## Sorting -/

theorem sortBy_perm (ks : List OrderBy) (rs : List (Record ι ρ)) : (sortBy ks rs).Perm rs :=
  List.mergeSort_perm rs _

/-- Whether a record may stand before another. -/
def mayPrecede (ks : List OrderBy) (a b : Record ι ρ) : Bool :=
  (OrderBy.orderAll ks a.columns b.columns).isLE

theorem mayPrecede_trans (ks : List OrderBy) (a b c : Record ι ρ) :
    mayPrecede ks a b = true → mayPrecede ks b c = true → mayPrecede ks a c = true :=
  OrderBy.Precedes.trans

theorem mayPrecede_total (ks : List OrderBy) (a b : Record ι ρ) :
    (mayPrecede ks a b || mayPrecede ks b a) = true :=
  (Bool.or_eq_true _ _).mpr (OrderBy.precedes_total ks a.columns b.columns)

theorem pairwise_sortBy (ks : List OrderBy) (rs : List (Record ι ρ)) :
    (sortBy ks rs).Pairwise fun a b => OrderBy.Precedes ks a.columns b.columns :=
  List.pairwise_mergeSort (mayPrecede_trans ks) (mayPrecede_total ks) rs

/-- Records that stand in order already keep their order when they are sorted with others. -/
theorem sublist_sortBy {ks : List OrderBy} {kept : List (Record ι ρ)}
    (hkept : kept.Pairwise fun a b => OrderBy.Precedes ks a.columns b.columns)
    (h : kept.Sublist rs) : kept.Sublist (sortBy ks rs) :=
  List.sublist_mergeSort (mayPrecede_trans ks) (mayPrecede_total ks) hkept h

theorem keysOf_eq_iff {a b : Record ι ρ} :
    q.keysOf a = q.keysOf b ↔ OrderBy.orderAll q.orderBy a.columns b.columns = .eq :=
  OrderBy.orderAll_eq_eq.symm

variable {rs' : List (Record ι ρ)}

/-- Sorted lists of the same records have the same keys. -/
theorem map_keysOf_eq (h : rs.Perm rs')
    (hrs : rs.Pairwise fun a b => OrderBy.Precedes q.orderBy a.columns b.columns)
    (hrs' : rs'.Pairwise fun a b => OrderBy.Precedes q.orderBy a.columns b.columns) :
    rs.map q.keysOf = rs'.map q.keysOf := by
  -- the order of records as an order of keys, which is antisymmetric
  let le (x y : List ColumnValue) : Prop :=
    ∃ a b : Record ι ρ, q.keysOf a = x ∧ q.keysOf b = y ∧
      OrderBy.Precedes q.orderBy a.columns b.columns
  refine List.Perm.eq_of_pairwise (fun x y _ _ hxy hyx => ?_)
    (List.pairwise_map.2 (hrs.imp fun hab => ⟨_, _, rfl, rfl, hab⟩) : (rs.map q.keysOf).Pairwise le)
    (List.pairwise_map.2 (hrs'.imp fun hab => ⟨_, _, rfl, rfl, hab⟩)) (h.map q.keysOf)
  obtain ⟨a, b, rfl, rfl, hab⟩ := hxy
  obtain ⟨b', a', hb, ha, hba⟩ := hyx
  exact keysOf_eq_iff.2 (hab.antisymm (hba.congr (keysOf_eq_iff.1 hb) (keysOf_eq_iff.1 ha)))

/-- Sorted lists of the same records are the same if no two records have the same keys. -/
theorem eq_of_perm_of_nodup (h : rs.Perm rs') (hkeys : (rs.map q.keysOf).Nodup)
    (hrs : rs.Pairwise fun a b => OrderBy.Precedes q.orderBy a.columns b.columns)
    (hrs' : rs'.Pairwise fun a b => OrderBy.Precedes q.orderBy a.columns b.columns) :
    rs = rs' := by
  refine List.Perm.eq_of_pairwise (fun a b ha hb hab hba => ?_) hrs hrs' h
  exact List.inj_on_of_nodup_map hkeys ha (h.mem_iff.2 hb) (keysOf_eq_iff.2 (hab.antisymm hba))

/-! ## Cutting off -/

theorem map_truncate_congr {κ : Type} {f : Record ι ρ → κ} (h : rs.map f = rs'.map f)
    (limit : Option UInt64) : (truncate limit rs).map f = (truncate limit rs').map f := by
  cases limit with
  | none => exact h
  | some n => rw [truncate, truncate, List.map_take, List.map_take, h]

theorem truncate_sublist (limit : Option UInt64) (rs : List (Record ι ρ)) :
    (truncate limit rs).Sublist rs := by
  cases limit with
  | none => exact .refl rs
  | some n => exact List.take_sublist n.toNat rs

/-! ## Answers -/

theorem sublist_of_apply {found : List (Record ι ρ)} (h : q.apply rs = .ok found) :
    found.Sublist (sortBy q.orderBy (rs.filter q.selects)) := by
  rw [apply_of_evaluates (exists_apply_iff.1 ⟨_, h⟩)] at h
  obtain rfl := Except.ok.inj h
  exact truncate_sublist _ _

theorem mem_of_mem_apply {found : List (Record ι ρ)} (h : q.apply rs = .ok found)
    {r : Record ι ρ} (hr : r ∈ found) : r ∈ rs :=
  List.mem_of_mem_filter ((sortBy_perm _ _).mem_iff.1 ((sublist_of_apply h).subset hr))

/-- An answer is in order. -/
theorem pairwise_of_apply {found : List (Record ι ρ)} (h : q.apply rs = .ok found) :
    found.Pairwise fun a b => OrderBy.Precedes q.orderBy a.columns b.columns :=
  (pairwise_sortBy _ _).sublist (sublist_of_apply h)

/-- A query on the same records in another order fails or succeeds alike.  The answers have
the same keys, position by position.  If no two of the selected records agree on every key,
the answers are the same, also where a limit cuts them off. -/
theorem apply_perm (q : Query) {rs rs' : List (Record ι ρ)} (h : rs.Perm rs') :
    ((∃ e, q.apply rs = .error e) ↔ ∃ e, q.apply rs' = .error e) ∧
      ∀ found found', q.apply rs = .ok found → q.apply rs' = .ok found' →
        found.length = found'.length ∧ found.map q.keysOf = found'.map q.keysOf ∧
          (((rs.filter q.selects).map q.keysOf).Nodup → found = found') := by
  have hsorted : (sortBy q.orderBy (rs.filter q.selects)).Perm
      (sortBy q.orderBy (rs'.filter q.selects)) :=
    (sortBy_perm _ _).trans ((h.filter _).trans (sortBy_perm _ _).symm)
  have hkeys := map_keysOf_eq hsorted (pairwise_sortBy _ _) (pairwise_sortBy _ _)
  refine ⟨?_, fun found found' hfound hfound' => ?_⟩
  · rw [exists_error_iff, exists_error_iff]
    exact not_congr ⟨fun he => he.perm h, fun he => he.perm h.symm⟩
  · rw [apply_of_evaluates (exists_apply_iff.1 ⟨_, hfound⟩)] at hfound
    rw [apply_of_evaluates (exists_apply_iff.1 ⟨_, hfound'⟩)] at hfound'
    obtain rfl := Except.ok.inj hfound
    obtain rfl := Except.ok.inj hfound'
    have hcut := map_truncate_congr hkeys q.limit
    refine ⟨?_, hcut, fun hdistinct => ?_⟩
    · have hlength := congrArg List.length hcut
      rwa [List.length_map, List.length_map] at hlength
    · have hnodup : ((sortBy q.orderBy (rs.filter q.selects)).map q.keysOf).Nodup :=
        ((sortBy_perm _ _).map _).nodup_iff.2 hdistinct
      rw [eq_of_perm_of_nodup hsorted hnodup (pairwise_sortBy _ _) (pairwise_sortBy _ _)]

/-- The two parcels with the lowest zone that are not archived, the dearer first. -/
def nearest : Query :=
  { predicate := .compare archivedName .equal (.bool false)
    orderBy := [⟨"zone", .ascending⟩, ⟨"price", .descending⟩]
    limit := some 2 }

def parcel (id : Nat) (zone price : Int64) (archived : Bool) : Record Nat Unit :=
  ⟨id, (), .ofList [("zone", .int zone), ("price", .int price), (archivedName, .bool archived)]⟩

def parcels : List (Record Nat Unit) :=
  [parcel 1 1 5 false, parcel 2 0 3 true, parcel 3 0 2 false, parcel 4 1 5 false,
    parcel 5 1 4 false]

/-- Parcels 1 and 4 agree on both keys, and the limit leaves room for one of them. -/
theorem apply_perm_parcels :
    parcels.Perm parcels.reverse ∧
      ∃ found found', nearest.apply parcels = .ok found ∧
        nearest.apply parcels.reverse = .ok found' ∧ found.map Record.id = [3, 1] ∧
        found'.map Record.id = [3, 4] ∧ found.map nearest.keysOf = found'.map nearest.keysOf := by
  have hperm : parcels.Perm parcels.reverse := (List.reverse_perm parcels).symm
  have hfound : nearest.apply parcels = .ok [parcel 3 0 2 false, parcel 1 1 5 false] := by cbv
  have hfound' : nearest.apply parcels.reverse = .ok [parcel 3 0 2 false, parcel 4 1 5 false] := by
    cbv
  obtain ⟨-, hanswers⟩ := apply_perm nearest hperm
  obtain ⟨-, hkeys, -⟩ := hanswers _ _ hfound hfound'
  exact ⟨hperm, _, _, hfound, hfound', rfl, rfl, hkeys⟩

end Query

end Switchboard.Records
