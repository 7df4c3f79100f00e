import Mathlib
import Switchboard.Proofs.Records.Comparison
import Switchboard.Proofs.Records.Selection

/-!
# Queries page by page

The answer to a query can be fetched in pages, if its first sort key is ascending.  One page has
the records whose value under that key is less than some value, and the next has the records whose
value is not.  The pages make up the answer, in order, but for the records that have no value under
the key, or null, which are on neither page (`Query.apply_pages`).

Two orders have to agree for this: that of comparisons, which does not hold of null, and that of
sorting, which puts null first.  On values of one type they do.  Besides, sorting has to respect a
cut.  A stable sort leaves out records as if they had not been there (`Query.filter_sortBy_eq`), and
where all that pass a test come before all that do not, it sorts the two parts one after the other
(`Query.sortBy_append`).
-/

namespace Switchboard.Records

/-- A list in which nothing that fails a test comes before something that passes it is cut in two
by the test. -/
theorem filter_append_filter_not {α : Type} {test : α → Bool} {as : List α}
    (h : as.Pairwise fun a b => test b = true → test a = true) :
    as.filter test ++ as.filter (fun a => !test a) = as := by
  induction as with
  | nil => rfl
  | cons a as ih =>
      obtain ⟨ha, has⟩ := List.pairwise_cons.1 h
      cases hta : test a with
      | true => simp [hta, ih has]
      | false =>
          have hrest : ∀ b ∈ as, test b = false := fun b hb =>
            Bool.eq_false_iff.2 fun htb => by simp [ha b hb htb] at hta
          have hpass : as.filter test = [] :=
            List.filter_eq_nil_iff.2 fun b hb => Bool.eq_false_iff.1 (hrest b hb)
          have hfail : as.filter (fun a => !test a) = as :=
            List.filter_eq_self.2 fun b hb => by rw [hrest b hb]; rfl
          simp [hta, hpass, hfail]

namespace Query

variable {ι ρ : Type} {rs found : List (Record ι ρ)}

/-! ## Sorting in parts -/

/-- What is in order and has the same records, those of the same keys as they came, is sorted. -/
theorem eq_sortBy (q : Query) (hperm : found.Perm rs)
    (hordered : found.Pairwise fun a b => OrderBy.Precedes q.orderBy a.columns b.columns)
    (hstable : ∀ keys, found.filter (q.hasKeys keys) = rs.filter (q.hasKeys keys)) :
    found = sortBy q.orderBy rs := by
  refine eq_of_filter_hasKeys_eq ?_ fun keys => (hstable keys).trans (filter_sortBy q rs keys).symm
  exact map_keysOf_eq (hperm.trans (sortBy_perm _ _).symm) hordered (pairwise_sortBy _ _)

/-- To leave records out after sorting is to leave them out before. -/
theorem filter_sortBy_eq (q : Query) (test : Record ι ρ → Bool) (rs : List (Record ι ρ)) :
    (sortBy q.orderBy rs).filter test = sortBy q.orderBy (rs.filter test) := by
  refine eq_sortBy q ((sortBy_perm _ _).filter test) ((pairwise_sortBy _ _).filter test)
    fun keys => ?_
  rw [List.filter_comm, filter_sortBy, List.filter_comm]

/-- Where all records that pass a test come before all that do not, the two parts are sorted one
after the other. -/
theorem sortBy_append (q : Query) {test : Record ι ρ → Bool}
    (h : ∀ a ∈ rs, ∀ b ∈ rs, test a = true → test b = false →
      OrderBy.Before q.orderBy a.columns b.columns) :
    sortBy q.orderBy (rs.filter test) ++ sortBy q.orderBy (rs.filter fun r => !test r) =
      sortBy q.orderBy rs := by
  rw [← filter_sortBy_eq, ← filter_sortBy_eq]
  refine filter_append_filter_not ((pairwise_sortBy q.orderBy rs).imp_of_mem ?_)
  intro a b ha hb hab htb
  by_contra hta
  have hmem (r : Record ι ρ) : r ∈ sortBy q.orderBy rs ↔ r ∈ rs := (sortBy_perm _ _).mem_iff
  have hba := h b ((hmem b).1 hb) a ((hmem a).1 ha) htb (Bool.eq_false_iff.2 hta)
  have hgt : OrderBy.orderAll q.orderBy a.columns b.columns = .gt :=
    Std.OrientedCmp.gt_iff_lt.2 (OrderBy.orderAll_eq_lt_iff.2 hba)
  rw [OrderBy.Precedes, hgt] at hab
  cases hab

end Query

/-! ## Pages -/

theorem Predicate.eval_both {c : Columns} {p q : Predicate} {x y : Bool} (hp : p.eval c = .ok x)
    (hq : q.eval c = .ok y) : (Predicate.all [p, q]).eval c = .ok (x && y) := by
  rw [eval, evalAll, hp]
  cases x with
  | false => rfl
  | true =>
      simp only [evalAll, hq]
      cases y <;> rfl

namespace Query

variable {ι ρ : Type} {rs : List (Record ι ρ)} {column : ColumnName} {t : ColumnType}
  {v : ColumnValue}

/-- Whether a record has a value in a column, other than null. -/
def hasValue (column : ColumnName) (r : Record ι ρ) : Bool := !(r.value column).isNull

/-- Whether an operator holds of the order of a record's value and another value. -/
def onSide (o : Operator) (column : ColumnName) (v : ColumnValue) (r : Record ι ρ) : Bool :=
  o.holds (compare (r.value column) v)

theorem onSide_greaterOrEqual (column : ColumnName) (v : ColumnValue) (r : Record ι ρ) :
    onSide .greaterOrEqual column v r = !onSide .lessThan column v r := by
  rw [onSide, onSide]
  cases compare (r.value column) v with
  | lt => rfl
  | eq => rfl
  | gt => rfl

/-- Between values of one type a comparison agrees with the storage order.  Without a value it is
false, though null comes first in the storage order. -/
theorem eval_compare {o : Operator} (ho : o ≠ .equal) (hv : v.type? = some t) {r : Record ι ρ}
    (hr : (r.value column).conformsTo t = true) :
    (Predicate.compare column o v).eval r.columns =
      .ok (hasValue column r && onSide o column v r) := by
  rw [Predicate.eval]
  change o.eval (r.value column) v = _
  rw [hasValue, onSide]
  rcases ColumnValue.conformsTo_iff.1 hr with hnone | hsome
  · have hnull := ColumnValue.type?_eq_none hnone
    rw [Operator.eval_of_null o (.inl hnull), hnull]
    simp [ho, ColumnValue.isNull]
  · rw [Operator.eval_of_type?_eq o hsome hv]
    cases hvalue : r.value column with
    | null => simp [hvalue, ColumnValue.type?] at hsome
    | _ => rfl

/-- A page has the records on one side, sorted. -/
theorem apply_page {p : Predicate} {o : Operator} (ho : o ≠ .equal) (ks : List OrderBy)
    (hv : v.type? = some t) (hrs : ∀ r ∈ rs, (r.value column).conformsTo t = true)
    (hp : ∀ r ∈ rs, ∃ b, p.eval r.columns = .ok b) :
    let page : Query := { predicate := .all [p, .compare column o v], orderBy := ks }
    let kept := (rs.filter (matching p).selects).filter (hasValue column)
    page.apply rs = .ok (sortBy ks (kept.filter (onSide o column v))) := by
  intro page kept
  have heval (r : Record ι ρ) (hr : r ∈ rs) : page.predicate.eval r.columns =
      .ok ((matching p).selects r && (hasValue column r && onSide o column v r)) := by
    obtain ⟨b, hb⟩ := hp r hr
    have hselects : (matching p).selects r = b := by rw [selects, Predicate.accepts, matching, hb]
    rw [hselects]
    exact Predicate.eval_both hb (eval_compare ho hv (hrs r hr))
  have hfilter : rs.filter page.selects = kept.filter (onSide o column v) := by
    rw [List.filter_filter, List.filter_filter]
    refine List.filter_congr fun r hr => ?_
    rw [selects, Predicate.accepts, heval r hr]
    exact (Bool.and_comm _ _).trans (congrArg (· && _) (Bool.and_comm _ _))
  rw [apply_of_evaluates fun r hr => ⟨_, heval r hr⟩, hfilter]
  rfl

/-- A query in ascending order of a column, and then in the order of other sort keys. -/
def ascendingBy (column : ColumnName) (ks : List OrderBy) (p : Predicate) : Query :=
  { predicate := p, orderBy := ⟨column, .ascending⟩ :: ks }

/-- In ascending order, what is less than a value comes before what is not. -/
theorem before_of_onSide {ks : List OrderBy} {a b : Record ι ρ}
    (ha : onSide .lessThan column v a = true) (hb : onSide .lessThan column v b = false) :
    OrderBy.Before (⟨column, .ascending⟩ :: ks) a.columns b.columns := by
  have hless : compare (a.value column) v = .lt := Ordering.isLT_iff_eq_lt.1 ha
  have hnotLess : (compare v (b.value column)).isLE = true := by
    rw [onSide, Operator.holds] at hb
    rw [Std.OrientedOrd.eq_swap]
    cases hcompare : compare (b.value column) v with
    | lt => simp [hcompare] at hb
    | eq => rfl
    | gt => rfl
  exact .first (Std.TransCmp.lt_of_lt_of_isLE hless hnotLess)

/-- The answer to a query in ascending order of a column is made up of two pages: what is less than
some value in the column, and then what is not.  Records without a value in the column are on
neither, and to leave them out of the answer or of the records is the same. -/
theorem apply_pages (p : Predicate) (ks : List OrderBy) (hv : v.type? = some t)
    (hrs : ∀ r ∈ rs, (r.value column).conformsTo t = true)
    (hp : ∀ r ∈ rs, ∃ b, p.eval r.columns = .ok b) :
    let query := ascendingBy column ks
    ∃ low high found,
      (query (.all [p, .compare column .lessThan v])).apply rs = .ok low ∧
      (query (.all [p, .compare column .greaterOrEqual v])).apply rs = .ok high ∧
      (query p).apply rs = .ok found ∧
      low ++ high = found.filter (hasValue column) ∧
      (query p).apply (rs.filter (hasValue column)) = .ok (low ++ high) := by
  intro query
  let kept := (rs.filter (query p).selects).filter (hasValue column)
  let keys := (query p).orderBy
  have hlow := apply_page (o := .lessThan) (by decide) keys hv hrs hp
  have hhigh := apply_page (o := .greaterOrEqual) (by decide) keys hv hrs hp
  simp only [funext (onSide_greaterOrEqual column v)] at hhigh
  have hfound : (query p).apply rs = .ok (sortBy keys (rs.filter (query p).selects)) :=
    apply_of_evaluates (q := query p) hp
  have hrest : (query p).apply (rs.filter (hasValue column)) = .ok (sortBy keys kept) := by
    rw [apply_of_evaluates (q := query p) fun r hr => hp r (List.mem_of_mem_filter hr),
      List.filter_comm]
    rfl
  have hcut : sortBy keys (kept.filter (onSide .lessThan column v)) ++
      sortBy keys (kept.filter fun r => !onSide .lessThan column v r) = sortBy keys kept :=
    sortBy_append (query p) fun a _ b _ => before_of_onSide
  refine ⟨_, _, _, hlow, hhigh, hfound, ?_, ?_⟩
  · exact hcut.trans (filter_sortBy_eq (query p) _ _).symm
  · exact hrest.trans (congrArg Except.ok hcut.symm)

/-- Whatever is not in the first zone. -/
def outward : Predicate := .compare "zone" .greaterThan (.int 0)

/-- Parcels with a zone and perhaps a weight. -/
def shelf : List (Record Nat Unit) :=
  [⟨1, (), .ofList [("zone", .int 1), ("weight", .int 30)]⟩,
    ⟨2, (), .ofList [("zone", .int 0), ("weight", .int 5)]⟩,
    ⟨3, (), .ofList [("zone", .int 2)]⟩,
    ⟨4, (), .ofList [("zone", .int 1), ("weight", .int 12)]⟩,
    ⟨5, (), .ofList [("zone", .int 1), ("weight", .null)]⟩,
    ⟨6, (), .ofList [("zone", .int 2), ("weight", .int 30)]⟩]

/-- Parcels 3 and 5 come first by weight, as they have none, and are on neither page. -/
theorem apply_pages_shelf :
    let byWeight := ascendingBy "weight" [⟨"zone", .descending⟩]
    (ColumnValue.int 20).type? = some .int ∧
      (∀ r ∈ shelf, (r.value "weight").conformsTo .int = true) ∧
      (∀ r ∈ shelf, ∃ b, outward.eval r.columns = .ok b) ∧
      ((byWeight outward).apply shelf).map (List.map Record.id) = .ok [3, 5, 4, 6, 1] ∧
      ((byWeight outward).apply (shelf.filter (hasValue "weight"))).map (List.map Record.id) =
        .ok [4, 6, 1] ∧
      ∃ low high,
        (byWeight (.all [outward, .compare "weight" .lessThan (.int 20)])).apply shelf = .ok low ∧
        (byWeight (.all [outward, .compare "weight" .greaterOrEqual (.int 20)])).apply shelf =
          .ok high ∧
        (byWeight outward).apply (shelf.filter (hasValue "weight")) = .ok (low ++ high) := by
  intro byWeight
  have hint : (ColumnValue.int 20).type? = some .int := rfl
  have htypes : ∀ r ∈ shelf, (r.value "weight").conformsTo .int = true := by decide
  have hevaluates : ∀ r ∈ shelf, ∃ b, outward.eval r.columns = .ok b := by
    simp only [shelf, List.forall_mem_cons]
    exact ⟨⟨_, rfl⟩, ⟨_, rfl⟩, ⟨_, rfl⟩, ⟨_, rfl⟩, ⟨_, rfl⟩, ⟨_, rfl⟩, List.forall_mem_nil _⟩
  obtain ⟨low, high, -, hlow, hhigh, -, -, hrest⟩ :=
    apply_pages outward [⟨"zone", .descending⟩] hint htypes hevaluates
  exact ⟨hint, htypes, hevaluates, by cbv, by cbv, low, high, hlow, hhigh, hrest⟩

end Query

end Switchboard.Records
