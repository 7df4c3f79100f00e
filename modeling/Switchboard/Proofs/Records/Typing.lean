import Switchboard.Proofs.Records.Lookup
import Switchboard.Records.Store

/-!
# Typed columns

A catalog *types* a column map if the value of every declared column conforms to
the declared type.  A missing column reads as null and conforms to every type, so
nothing has to be there.

A list of checks in a row comes to the failure of the first that does not pass
(`forM_eq_error_iff`), for column maps as for whatever else is checked piece by piece.

Two checks meet here.  Columns that fit a specification are typed by its catalog
(`Specification.types_of_checkColumns`).  A predicate that is valid for a catalog
evaluates without a failure on everything that the catalog types
(`Predicate.eval_ok`), and so a valid query can be applied to such records
(`Query.apply_ok`).  This is type soundness: evaluation fails on two values of
different types only, and a valid comparison has the same declared type on both
sides.
-/

namespace Switchboard.Records

/-! ## Checks in a row -/

section

variable {α ε : Type} {check : α → Except ε Unit} {as : List α}

theorem forM_cons_of_ok {a : α} (h : check a = .ok ()) : forM (a :: as) check = forM as check := by
  rw [List.forM_cons, h]
  rfl

theorem forM_cons_of_error {a : α} {err : ε} (h : check a = .error err) :
    forM (a :: as) check = .error err := by
  rw [List.forM_cons, h]
  rfl

theorem forM_eq_ok_iff : forM as check = .ok () ↔ ∀ a ∈ as, check a = .ok () := by
  induction as with
  | nil => exact iff_of_true rfl (List.forall_mem_nil _)
  | cons a as ih =>
      rw [List.forall_mem_cons, ← ih]
      cases ha : check a with
      | error err => simp [forM_cons_of_error ha]
      | ok u => simp [forM_cons_of_ok ha]

/-- The failure is that of the first check that does not pass. -/
theorem forM_eq_error_iff {err : ε} :
    forM as check = .error err ↔
      ∃ before a after, as = before ++ a :: after ∧ (∀ b ∈ before, check b = .ok ()) ∧
        check a = .error err := by
  constructor
  · intro h
    induction as with
    | nil => cases h
    | cons a as ih =>
        cases ha : check a with
        | error err' =>
            obtain rfl := Except.error.inj ((forM_cons_of_error ha).symm.trans h)
            exact ⟨[], a, as, rfl, List.forall_mem_nil _, ha⟩
        | ok u =>
            obtain ⟨before, b, after, rfl, hbefore, hb⟩ := ih ((forM_cons_of_ok ha).symm.trans h)
            exact ⟨a :: before, b, after, rfl, List.forall_mem_cons.2 ⟨ha, hbefore⟩, hb⟩
  · rintro ⟨before, a, after, rfl, hbefore, ha⟩
    rw [List.forM_append, forM_eq_ok_iff.2 hbefore]
    exact forM_cons_of_error ha

end

/-! ## Values -/

theorem ColumnValue.conformsTo_iff {v : ColumnValue} {t : ColumnType} :
    v.conformsTo t = true ↔ v.type? = none ∨ v.type? = some t := by
  rw [conformsTo]
  cases v.type? with
  | none => simp
  | some own => simp

theorem ColumnValue.null_conformsTo (t : ColumnType) : ColumnValue.null.conformsTo t = true := rfl

/-- Two values of one column type can be compared. -/
theorem Operator.eval_ok (o : Operator) {left right : ColumnValue} {t : ColumnType}
    (hl : left.conformsTo t = true) (hr : right.conformsTo t = true) :
    ∃ b, o.eval left right = .ok b := by
  rw [ColumnValue.conformsTo_iff] at hl hr
  rw [eval]
  rcases hl with hl | hl <;> rcases hr with hr | hr <;> rw [hl, hr]
  · exact ⟨_, rfl⟩
  · exact ⟨_, rfl⟩
  · exact ⟨_, rfl⟩
  · exact ⟨_, if_pos rfl⟩

/-! ## Column maps -/

/-- The value of every declared column conforms to the declared type. -/
def Catalog.Types (k : Catalog) (c : Columns) : Prop :=
  ∀ name t, k.typeOf? name = some t → (c.value name).conformsTo t = true

namespace Specification

variable {ι σ : Type} {s : Specification ι σ}

/-- One entry fits if its name is declared and its value conforms. -/
theorem checkEntry_eq_ok_iff {name : ColumnName} {v : ColumnValue} :
    s.checkEntry name v = .ok () ↔ ∃ r, s.find? name = some r ∧ v.conformsTo r.type = true := by
  rw [checkEntry]
  cases hf : s.find? name with
  | none => simp
  | some r =>
      cases hv : v.type? with
      | none => simp [ColumnValue.conformsTo, hv]
      | some found =>
          by_cases ht : found = r.type
          · simp [ColumnValue.conformsTo, hv, ht]
          · simp [ColumnValue.conformsTo, hv, ht]

/-- Columns are checked one entry after the other. -/
theorem checkColumns_eq_forM (c : Columns) :
    s.checkColumns c = forM c.entries fun e => s.checkEntry e.1 e.2 := by
  rw [checkColumns]
  induction c.entries with
  | nil => rfl
  | cons e es ih =>
      rw [checkEntries, List.forM_cons, ih]
      cases s.checkEntry e.1 e.2 with
      | error err => rfl
      | ok u => rfl

/-- Columns that fit a specification are typed by its catalog. -/
theorem types_of_checkColumns {c : Columns} (h : s.checkColumns c = .ok ()) :
    s.catalog.Types c := by
  intro name t ht
  obtain ⟨r, hr, rfl⟩ : ∃ r, s.find? name = some r ∧ r.type = t := by
    simpa [catalog, Option.map_eq_some_iff] using ht
  rw [Columns.value]
  cases hv : c.get? name with
  | none => exact ColumnValue.null_conformsTo r.type
  | some v =>
      rw [checkColumns_eq_forM] at h
      have he := forM_eq_ok_iff.1 h _ (Columns.get?_eq_some_iff.1 hv)
      obtain ⟨r', hr', hconf⟩ := checkEntry_eq_ok_iff.1 he
      have hsame : r' = r := Option.some.inj (hr'.symm.trans hr)
      rw [← hsame]
      exact hconf

end Specification

/-! ## Predicates -/

namespace Predicate

variable {k : Catalog} {c : Columns}

/-- A comparison is valid if its column is declared and its constant conforms. -/
theorem validateCompare_eq_ok_iff {name : ColumnName} {v : ColumnValue} :
    validateCompare k name v = .ok () ↔
      ∃ t, k.typeOf? name = some t ∧ v.conformsTo t = true := by
  rw [validateCompare, declaredType]
  cases k.typeOf? name with
  | none => simp
  | some t =>
      cases hv : v.type? with
      | none => simp [ColumnValue.conformsTo, hv]
      | some found =>
          by_cases ht : found = t
          · simp [ColumnValue.conformsTo, hv, ht]
          · simp [ColumnValue.conformsTo, hv, ht]

theorem validateEach_cons_eq_ok_iff {p : Predicate} {ps : List Predicate} :
    validateEach k (p :: ps) = .ok () ↔ p.validate k = .ok () ∧ validateEach k ps = .ok () := by
  rw [validateEach]
  cases p.validate k with
  | error e => simp
  | ok u => simp

mutual

/-- A valid predicate evaluates without a failure on typed columns. -/
theorem eval_ok (hc : k.Types c) :
    ∀ p : Predicate, p.validate k = .ok () → ∃ b, p.eval c = .ok b
  | const b, _ => ⟨b, by rw [eval]⟩
  | compare name o v, h => by
      rw [validate, validateCompare_eq_ok_iff] at h
      obtain ⟨t, ht, hv⟩ := h
      rw [eval]
      exact o.eval_ok (hc name t ht) hv
  | all ps, h => by
      rw [validate] at h
      rw [eval]
      exact evalAll_ok hc ps h
  | either ps, h => by
      rw [validate] at h
      rw [eval]
      exact evalEither_ok hc ps h

theorem evalAll_ok (hc : k.Types c) :
    ∀ ps : List Predicate, validateEach k ps = .ok () → ∃ b, evalAll c ps = .ok b
  | [], _ => ⟨true, by rw [evalAll]⟩
  | p :: ps, h => by
      obtain ⟨hp, hps⟩ := validateEach_cons_eq_ok_iff.1 h
      obtain ⟨b, hb⟩ := eval_ok hc p hp
      rw [evalAll, hb]
      cases b with
      | false => exact ⟨false, rfl⟩
      | true => exact evalAll_ok hc ps hps

theorem evalEither_ok (hc : k.Types c) :
    ∀ ps : List Predicate, validateEach k ps = .ok () → ∃ b, evalEither c ps = .ok b
  | [], _ => ⟨false, by rw [evalEither]⟩
  | p :: ps, h => by
      obtain ⟨hp, hps⟩ := validateEach_cons_eq_ok_iff.1 h
      obtain ⟨b, hb⟩ := eval_ok hc p hp
      rw [evalEither, hb]
      cases b with
      | true => exact ⟨true, rfl⟩
      | false => exact evalEither_ok hc ps hps

end

end Predicate

/-! ## Queries -/

namespace Query

variable {ι ρ : Type} {k : Catalog} {rs : List (Record ι ρ)}

theorem predicate_valid {q : Query} (h : q.validate k = .ok ()) :
    q.predicate.validate k = .ok () := by
  rw [validate] at h
  cases hp : q.predicate.validate k with
  | error e => simp [hp] at h
  | ok u => rfl

/-- Selecting fails only where the predicate fails. -/
theorem select_ok {p : Predicate} (h : ∀ r ∈ rs, ∃ b, p.eval r.columns = .ok b) :
    ∃ kept, select p rs = .ok kept := by
  induction rs with
  | nil => exact ⟨[], rfl⟩
  | cons r rs ih =>
      obtain ⟨b, hb⟩ := h r List.mem_cons_self
      obtain ⟨kept, hk⟩ := ih fun x hx => h x (List.mem_cons_of_mem _ hx)
      rw [select, hb, hk]
      exact ⟨_, rfl⟩

/-- A valid query can be applied to typed records. -/
theorem apply_ok {q : Query} (hq : q.validate k = .ok ()) (hrs : ∀ r ∈ rs, k.Types r.columns) :
    ∃ found, q.apply rs = .ok found := by
  have hsel : ∃ kept, select q.predicate rs = .ok kept :=
    select_ok fun r hr => q.predicate.eval_ok (hrs r hr) (predicate_valid hq)
  obtain ⟨kept, hk⟩ := hsel
  rw [apply, hk]
  exact ⟨_, rfl⟩

end Query

end Switchboard.Records
