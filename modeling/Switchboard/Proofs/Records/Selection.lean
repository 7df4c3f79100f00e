import Mathlib
import Switchboard.Proofs.Records.Reordering

/-!
# What a query selects

A query either fails or selects.  It fails on the first record on which its predicate fails,
with that failure, whatever its limit is.  Otherwise it selects the records of which its
predicate is true (`Query.Selected`).

* They are the same records, as often as they came.
* Of two records, the first sort key on which they differ decides which comes first
  (`OrderBy.Before`).
* Records that agree on every key stay in the order in which they came.  So the records of
  each combination of keys are the same list before and after sorting.

These three leave no choice: sorted lists of the same records have the same keys, position by
position, and among the records of one combination of keys the order is given.  A limit cuts
off the end of what would be selected without it (`Query.apply_selected`).
-/

namespace Switchboard.Records

/-! ## Sort keys -/

/-- Null is the least value. -/
theorem ColumnValue.eq_null_or_null_lt (v : ColumnValue) : v = .null ∨ compare .null v = .lt := by
  cases v with
  | null => exact .inl rfl
  | _ => exact .inr rfl

namespace OrderBy

/-- A sort key tells two column maps apart and puts the first before the second. -/
def Puts (k : OrderBy) (a b : Columns) : Prop :=
  match k.direction with
  | .ascending => compare (a.value k.column) (b.value k.column) = .lt
  | .descending => compare (b.value k.column) (a.value k.column) = .lt

/-- The first sort key on which two column maps differ puts the first before the second. -/
inductive Before : List OrderBy → Columns → Columns → Prop where
  | first {k : OrderBy} {ks : List OrderBy} {a b : Columns} : k.Puts a b → Before (k :: ks) a b
  | later {k : OrderBy} {ks : List OrderBy} {a b : Columns} :
      a.value k.column = b.value k.column → Before ks a b → Before (k :: ks) a b

theorem order_eq_lt_iff {k : OrderBy} {a b : Columns} : k.order a b = .lt ↔ k.Puts a b := by
  obtain ⟨column, direction⟩ := k
  cases direction with
  | ascending => rfl
  | descending => rw [order_descending, order_ascending, Puts]; rfl

theorem orderAll_eq_lt_iff {ks : List OrderBy} {a b : Columns} :
    orderAll ks a b = .lt ↔ Before ks a b := by
  induction ks with
  | nil => exact ⟨nofun, nofun⟩
  | cons k ks ih =>
      rw [orderAll, Ordering.then_eq_lt, order_eq_lt_iff, order_eq_eq_iff, ih]
      constructor
      · rintro (hk | ⟨hk, hks⟩)
        · exact .first hk
        · exact .later hk hks
      · rintro (hk | ⟨hk, hks⟩)
        · exact .inl hk
        · exact .inr ⟨hk, hks⟩

end OrderBy

namespace Query

variable {ι ρ : Type} {q : Query} {rs found found' : List (Record ι ρ)}

theorem precedes_iff {a b : Record ι ρ} :
    OrderBy.Precedes q.orderBy a.columns b.columns ↔
      OrderBy.Before q.orderBy a.columns b.columns ∨ q.keysOf a = q.keysOf b := by
  rw [keysOf_eq_iff, ← OrderBy.orderAll_eq_lt_iff, OrderBy.Precedes,
    Ordering.isLE_iff_eq_lt_or_eq_eq]

/-! ## Failing -/

/-- The predicate of a query fails on some record, and on none before it. -/
def FailsFirst (q : Query) (rs : List (Record ι ρ)) (e : QueryError) : Prop :=
  ∃ before r after, rs = before ++ r :: after ∧ q.Evaluates before ∧
    q.predicate.eval r.columns = .error e

theorem select_eq_error_iff {e : QueryError} :
    select q.predicate rs = .error e ↔ q.FailsFirst rs e := by
  constructor
  · intro h
    induction rs with
    | nil => cases h
    | cons r rs ih =>
        cases hr : q.predicate.eval r.columns with
        | error e' =>
            rw [select, hr] at h
            exact ⟨[], r, rs, rfl, fun x hx => absurd hx List.not_mem_nil,
              hr.trans (congrArg Except.error (Except.error.inj h))⟩
        | ok b =>
            cases hrs : select q.predicate rs with
            | error e' =>
                rw [select, hr, hrs] at h
                obtain ⟨before, x, after, hsplit, hbefore, hx⟩ :=
                  ih (hrs.trans (congrArg Except.error (Except.error.inj h)))
                exact ⟨r :: before, x, after, by rw [hsplit, List.cons_append],
                  List.forall_mem_cons.2 ⟨⟨b, hr⟩, hbefore⟩, hx⟩
            | ok kept =>
                rw [select, hr, hrs] at h
                cases h
  · rintro ⟨before, r, after, rfl, hbefore, hr⟩
    induction before with
    | nil => rw [List.nil_append, select, hr]
    | cons x before ih =>
        obtain ⟨⟨b, hx⟩, hbefore⟩ := List.forall_mem_cons.1 hbefore
        rw [List.cons_append, select, hx, ih hbefore]

theorem apply_eq_error_iff {e : QueryError} : q.apply rs = .error e ↔ q.FailsFirst rs e := by
  rw [← select_eq_error_iff, apply]
  cases select q.predicate rs with
  | error e' => exact Iff.rfl
  | ok kept => exact iff_of_false (fun h => by cases h) (fun h => by cases h)

/-! ## Selecting -/

/-- Whether a record has given values of the sort keys. -/
def hasKeys (q : Query) (keys : List ColumnValue) (r : Record ι ρ) : Bool := q.keysOf r = keys

theorem hasKeys_iff {keys : List ColumnValue} {r : Record ι ρ} :
    q.hasKeys keys r = true ↔ q.keysOf r = keys :=
  decide_eq_true_iff

/-- A list of records is what a query without limit selects. -/
structure Selected (q : Query) (rs found : List (Record ι ρ)) : Prop where
  evaluates : q.Evaluates rs
  perm : found.Perm (rs.filter q.selects)
  ordered : found.Pairwise fun a b =>
    OrderBy.Before q.orderBy a.columns b.columns ∨ q.keysOf a = q.keysOf b
  /-- The records of each combination of keys stay in order. -/
  stable : ∀ keys, found.filter (q.hasKeys keys) = (rs.filter q.selects).filter (q.hasKeys keys)
  unordered : q.orderBy = [] → found = rs.filter q.selects

/-- Records that agree on every key stay in order when they are sorted. -/
theorem filter_sortBy (q : Query) (rs : List (Record ι ρ)) (keys : List ColumnValue) :
    (sortBy q.orderBy rs).filter (q.hasKeys keys) = rs.filter (q.hasKeys keys) := by
  have hkeys (r : Record ι ρ) (hr : r ∈ rs.filter (q.hasKeys keys)) : q.keysOf r = keys :=
    hasKeys_iff.1 (List.of_mem_filter hr)
  have hlevel : (rs.filter (q.hasKeys keys)).Pairwise fun a b =>
      OrderBy.Precedes q.orderBy a.columns b.columns :=
    List.pairwise_of_forall_mem_list fun a ha b hb =>
      precedes_iff.2 (.inr ((hkeys a ha).trans (hkeys b hb).symm))
  have hsublist : (rs.filter (q.hasKeys keys)).Sublist
      ((sortBy q.orderBy rs).filter (q.hasKeys keys)) := by
    have h := (sublist_sortBy hlevel List.filter_sublist).filter (q.hasKeys keys)
    rwa [List.filter_filter, funext fun r => Bool.and_self (q.hasKeys keys r)] at h
  have hlength := ((sortBy_perm q.orderBy rs).filter (q.hasKeys keys)).length_eq
  exact (hsublist.eq_of_length hlength.symm).symm

/-- Lists with the same keys, position by position, are the same if the records of each
combination of keys are. -/
theorem eq_of_filter_hasKeys_eq (hkeys : found.map q.keysOf = found'.map q.keysOf)
    (hfilter : ∀ keys, found.filter (q.hasKeys keys) = found'.filter (q.hasKeys keys)) :
    found = found' := by
  induction found generalizing found' with
  | nil => exact (List.map_eq_nil_iff.1 hkeys.symm).symm
  | cons a found ih =>
      obtain ⟨b, rest, rfl, hb, hrest⟩ := List.map_eq_cons_iff.1 hkeys.symm
      have hhead := hfilter (q.keysOf a)
      rw [List.filter_cons_of_pos (hasKeys_iff.2 rfl),
        List.filter_cons_of_pos (hasKeys_iff.2 hb)] at hhead
      obtain ⟨rfl, -⟩ := List.cons.inj hhead
      refine congrArg (a :: ·) (ih hrest.symm fun keys => ?_)
      have htail := hfilter keys
      rw [List.filter_cons, List.filter_cons] at htail
      split at htail
      · exact (List.cons.inj htail).2
      · exact htail

theorem selected_sortBy (h : q.Evaluates rs) :
    q.Selected rs (sortBy q.orderBy (rs.filter q.selects)) where
  evaluates := h
  perm := sortBy_perm _ _
  ordered := (pairwise_sortBy _ _).imp precedes_iff.1
  stable := filter_sortBy q _
  unordered hnil := by
    have hall (r : Record ι ρ) : q.hasKeys [] r = true := hasKeys_iff.2 (by rw [keysOf, hnil]; rfl)
    have h := filter_sortBy q (rs.filter q.selects) []
    rwa [List.filter_eq_self.2 fun r _ => hall r, List.filter_eq_self.2 fun r _ => hall r] at h

theorem Selected.unique (h : q.Selected rs found) (h' : q.Selected rs found') : found = found' := by
  refine eq_of_filter_hasKeys_eq ?_ fun keys => (h.stable keys).trans (h'.stable keys).symm
  exact map_keysOf_eq (h.perm.trans h'.perm.symm) (h.ordered.imp precedes_iff.2)
    (h'.ordered.imp precedes_iff.2)

def unlimited (q : Query) : Query := { q with limit := none }

theorem apply_unlimited_eq_ok_iff : q.unlimited.apply rs = .ok found ↔ q.Selected rs found := by
  constructor
  · intro h
    have hevaluates : q.unlimited.Evaluates rs := exists_apply_iff.1 ⟨found, h⟩
    obtain rfl := Except.ok.inj ((apply_of_evaluates (q := q.unlimited) hevaluates).symm.trans h)
    exact selected_sortBy hevaluates
  · intro h
    rw [h.unique (selected_sortBy h.evaluates)]
    exact apply_of_evaluates (q := q.unlimited) h.evaluates

/-- A limit cuts off the end of the answer. -/
theorem apply_withLimit (q : Query) (rs : List (Record ι ρ)) (n : UInt64) :
    (q.withLimit n).apply rs = (q.unlimited.apply rs).map (List.take n.toNat) := by
  rw [apply, apply, withLimit, unlimited]
  cases select q.predicate rs with
  | error e => rfl
  | ok kept => rfl

/-- A query fails on the first record on which its predicate fails.  Otherwise it selects, in
order, the records of which its predicate is true, and a limit cuts off the end.  Null comes
first in ascending order, and last in descending order. -/
theorem apply_selected (q : Query) (rs : List (Record ι ρ)) :
    (∀ e, q.apply rs = .error e ↔ q.FailsFirst rs e) ∧
      (∀ found, q.unlimited.apply rs = .ok found ↔ q.Selected rs found) ∧
      (∀ n, (q.withLimit n).apply rs = (q.unlimited.apply rs).map (List.take n.toNat)) ∧
      ∀ v, v = .null ∨ compare ColumnValue.null v = .lt :=
  ⟨fun _ => apply_eq_error_iff, fun _ => apply_unlimited_eq_ok_iff, q.apply_withLimit rs,
    ColumnValue.eq_null_or_null_lt⟩

end Query

end Switchboard.Records
