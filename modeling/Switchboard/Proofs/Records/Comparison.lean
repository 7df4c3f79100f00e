import Switchboard.Proofs.Forms.TextBytes
import Switchboard.Proofs.Records.Meaning

/-!
# Comparing two values

A comparison fails just if neither value is null and their types differ.  If one of the two is
null, no operator holds but equality, and that only between nulls.  So null breaks the usual laws:
it equals itself and is neither at least nor at most itself.

Values of one type obey them (`Operator.Lawful`).  Everything about two such values follows from
their place in the storage order, less, equal or greater, and that order is a linear order.  What it
means for a value to be less depends on the type alone: false is less than true, numbers compare as
numbers, texts by code points or, what is the same, by bytes, identifiers by bytes, and instants by
seconds and then by nanoseconds (`Operator.eval_laws`).
-/

namespace Switchboard

/-! ## Payloads -/

namespace Timestamp

/-- The seconds from the epoch.  A leap second counts as the second before it. -/
def seconds (t : Timestamp) : Int := t.day * 86400 + t.second.val

/-- An instant comes before another: in an earlier second, or in the same second and earlier. -/
def Earlier (s t : Timestamp) : Prop :=
  s.seconds < t.seconds ∨ s.seconds = t.seconds ∧ s.nano < t.nano

instance (s t : Timestamp) : Decidable (s.Earlier t) :=
  inferInstanceAs (Decidable (_ ∨ _))

theorem compare_eq_lt_iff {s t : Timestamp} : compare s t = .lt ↔ s.Earlier t := by
  have hs := s.second.isLt
  have ht := t.second.isLt
  change (compare s.day t.day).then ((compare s.second.val t.second.val).then _) = .lt ↔ _
  simp only [Ordering.then_eq_lt, Std.compare_eq_lt, Std.compare_eq_iff_eq]
  rw [Earlier, seconds, seconds, Fin.lt_def]
  omega

end Timestamp

theorem compare_bytes_eq_lt_iff {us vs : List UInt8} : compare us vs = .lt ↔ us < vs := by
  induction us generalizing vs with
  | nil =>
      cases vs with
      | nil => exact ⟨nofun, nofun⟩
      | cons v vs => exact iff_of_true rfl .nil
  | cons u us ih =>
      cases vs with
      | nil => exact ⟨nofun, nofun⟩
      | cons v vs =>
          rw [List.compare_cons_cons, Ordering.then_eq_lt, ih, Std.compare_eq_lt,
            Std.compare_eq_iff_eq, List.cons_lt_cons_iff]

namespace Records

/-! ## Outcomes -/

namespace Operator

variable {a b c : ColumnValue} {t : ColumnType}

/-- Between values of one type an operator holds of their order. -/
theorem eval_of_type?_eq (o : Operator) (ha : a.type? = some t) (hb : b.type? = some t) :
    o.eval a b = .ok (o.holds (compare a b)) := by
  rw [eval, ha, hb]
  exact if_pos rfl

theorem eval_of_type?_ne (o : Operator) {s : ColumnType} (ha : a.type? = some s)
    (hb : b.type? = some t) (hne : s ≠ t) : o.eval a b = .error (.typeMismatch s t) := by
  rw [eval, ha, hb]
  exact if_neg hne

/-- With null on a side, equality holds between nulls, and nothing else holds. -/
theorem eval_of_null (o : Operator) (h : a = .null ∨ b = .null) :
    o.eval a b = .ok (o = equal ∧ a = .null ∧ b = .null) := by
  rw [← ColumnValue.type?_eq_none_iff, ← ColumnValue.type?_eq_none_iff] at h
  simp only [eval, ← ColumnValue.type?_eq_none_iff]
  cases ha : a.type? with
  | none =>
      cases hb : b.type? with
      | none => simp
      | some t => simp
  | some s =>
      cases hb : b.type? with
      | none => simp
      | some t => simp [ha, hb] at h

/-- A comparison fails just between types. -/
theorem eval_eq_error_iff {o : Operator} {e : QueryError} :
    o.eval a b = .error e ↔
      ∃ s t, a.type? = some s ∧ b.type? = some t ∧ s ≠ t ∧ e = .typeMismatch s t := by
  constructor
  · intro h
    cases ha : a.type? with
    | none =>
        rw [eval_of_null o (.inl (ColumnValue.type?_eq_none ha))] at h
        cases h
    | some s =>
        cases hb : b.type? with
        | none =>
            rw [eval_of_null o (.inr (ColumnValue.type?_eq_none hb))] at h
            cases h
        | some t =>
            by_cases hst : s = t
            · rw [eval_of_type?_eq o ha (hst ▸ hb)] at h
              cases h
            · rw [eval_of_type?_ne o ha hb hst] at h
              exact ⟨s, t, rfl, rfl, hst, (Except.error.inj h).symm⟩
  · rintro ⟨s, t, ha, hb, hne, rfl⟩
    exact eval_of_type?_ne o ha hb hne

/-! ## Values of one type -/

/-- The operator that says the same with the operands exchanged. -/
def converse : Operator → Operator
  | equal => equal
  | greaterThan => lessThan
  | lessThan => greaterThan
  | greaterOrEqual => lessOrEqual
  | lessOrEqual => greaterOrEqual

/-- The laws of two values that can be told apart and put in order. -/
structure Lawful (a b : ColumnValue) : Prop where
  /-- Just one of the three holds. -/
  one_holds : ∃ o ∈ [equal, greaterThan, lessThan],
    ∀ o' ∈ [equal, greaterThan, lessThan], o'.eval a b = .ok (o' = o)
  greaterOrEqual_eq : greaterOrEqual.eval a b = (lessThan.eval a b).map not
  lessOrEqual_eq : lessOrEqual.eval a b = (greaterThan.eval a b).map not
  exchange : ∀ o : Operator, o.eval b a = o.converse.eval a b
  equal_eq : equal.eval a b = .ok (a = b)

theorem holds_swap (o : Operator) (order : Ordering) :
    o.holds order.swap = o.converse.holds order := by
  cases o <;> cases order <;> rfl

theorem lawful_of_type?_eq (ha : a.type? = some t) (hb : b.type? = some t) : Lawful a b where
  one_holds := by
    simp only [eval_of_type?_eq _ ha hb]
    cases compare a b with
    | lt => exact ⟨lessThan, by decide, by decide⟩
    | eq => exact ⟨equal, by decide, by decide⟩
    | gt => exact ⟨greaterThan, by decide, by decide⟩
  greaterOrEqual_eq := by
    rw [eval_of_type?_eq _ ha hb, eval_of_type?_eq _ ha hb]
    cases compare a b <;> rfl
  lessOrEqual_eq := by
    rw [eval_of_type?_eq _ ha hb, eval_of_type?_eq _ ha hb]
    cases compare a b <;> rfl
  exchange o := by
    rw [eval_of_type?_eq o hb ha, eval_of_type?_eq _ ha hb, Std.OrientedOrd.eq_swap, holds_swap]
  equal_eq := by
    have heq : (compare a b).isEq = true ↔ a = b :=
      Ordering.isEq_iff_eq_eq.trans Std.LawfulEqCmp.compare_eq_iff_eq
    rw [eval_of_type?_eq equal ha hb, holds, Bool.eq_iff_iff.2 (heq.trans decide_eq_true_iff.symm)]

/-- An operator other than equality holds of values of one type only. -/
theorem eval_eq_true_iff {o : Operator} (ho : o ≠ equal) :
    o.eval a b = .ok true ↔
      ∃ t, a.type? = some t ∧ b.type? = some t ∧ o.holds (compare a b) = true := by
  constructor
  · intro h
    have hnull : ¬(a = .null ∨ b = .null) := fun hnull => by
      simp [eval_of_null o hnull, ho] at h
    rw [not_or, ← ColumnValue.type?_eq_none_iff, ← ColumnValue.type?_eq_none_iff] at hnull
    obtain ⟨s, ha⟩ := Option.ne_none_iff_exists'.1 hnull.1
    obtain ⟨t, hb⟩ := Option.ne_none_iff_exists'.1 hnull.2
    by_cases hst : s = t
    · subst hst
      rw [eval_of_type?_eq o ha hb] at h
      exact ⟨s, ha, hb, Except.ok.inj h⟩
    · cases (eval_of_type?_ne o ha hb hst).symm.trans h
  · rintro ⟨t, ha, hb, hholds⟩
    rw [eval_of_type?_eq o ha hb, hholds]

theorem lessThan_trans (hab : lessThan.eval a b = .ok true) (hbc : lessThan.eval b c = .ok true) :
    lessThan.eval a c = .ok true := by
  rw [eval_eq_true_iff (by decide)] at *
  obtain ⟨s, ha, hb, hab⟩ := hab
  obtain ⟨t, hb', hc, hbc⟩ := hbc
  obtain rfl : s = t := Option.some.inj (hb.symm.trans hb')
  rw [holds, Ordering.isLT_iff_eq_lt] at hab hbc
  exact ⟨s, ha, hc, Ordering.isLT_iff_eq_lt.2 (Std.TransCmp.lt_trans hab hbc)⟩

theorem lessOrEqual_trans (hab : lessOrEqual.eval a b = .ok true)
    (hbc : lessOrEqual.eval b c = .ok true) : lessOrEqual.eval a c = .ok true := by
  rw [eval_eq_true_iff (by decide)] at *
  obtain ⟨s, ha, hb, hab⟩ := hab
  obtain ⟨t, hb', hc, hbc⟩ := hbc
  obtain rfl : s = t := Option.some.inj (hb.symm.trans hb')
  exact ⟨s, ha, hc, Std.TransCmp.isLE_trans hab hbc⟩

/-! ## What is less -/

/-- A value of a type is less than another as its payload is less. -/
theorem lessThan_eval {p : Prop} [Decidable p] (ha : a.type? = some t) (hb : b.type? = some t)
    (h : compare a b = .lt ↔ p) : lessThan.eval a b = .ok p := by
  rw [eval_of_type?_eq lessThan ha hb, holds]
  exact congrArg Except.ok
    (Bool.eq_iff_iff.2 (Ordering.isLT_iff_eq_lt.trans (h.trans decide_eq_true_iff.symm)))

/-- What it means, for each type, that a value is less than another. -/
structure LessByPayload : Prop where
  bool (a b : Bool) : lessThan.eval (.bool a) (.bool b) = .ok (a = false ∧ b = true)
  int (m n : Int64) : lessThan.eval (.int m) (.int n) = .ok (m.toInt < n.toInt)
  text (s t : String) : lessThan.eval (.text s) (.text t) = .ok (s.toList < t.toList)
  /-- The bytes of a text give the same order as its code points. -/
  textBytes (s t : String) :
    lessThan.eval (.text s) (.text t) = .ok (s.toUTF8.data.toList < t.toUTF8.data.toList)
  timestamp (s t : Timestamp) : lessThan.eval (.timestamp s) (.timestamp t) = .ok (s.Earlier t)
  uuid (u v : Uuid) : lessThan.eval (.uuid u) (.uuid v) = .ok (u.bytes < v.bytes)

theorem lessByPayload : LessByPayload where
  bool a b := lessThan_eval rfl rfl (by cases a <;> cases b <;> decide)
  int m n :=
    have hlt : compare m n = .lt ↔ m.toInt < n.toInt :=
      Std.compare_eq_lt.trans Int64.lt_iff_toInt_lt
    lessThan_eval rfl rfl hlt
  text s t := lessThan_eval rfl rfl compareOfLessAndEq_eq_lt
  textBytes s t := lessThan_eval rfl rfl (compareOfLessAndEq_eq_lt.trans Text.toUTF8_lt_iff.symm)
  timestamp s t := lessThan_eval rfl rfl Timestamp.compare_eq_lt_iff
  uuid u v := lessThan_eval rfl rfl compare_bytes_eq_lt_iff

/-- A comparison fails just between two types.  With null on a side nothing holds but that null
equals null.  Values of one type that are not null obey the laws of a linear order, in which one
is less than another as their payloads tell. -/
theorem eval_laws (a b : ColumnValue) :
    (∀ (o : Operator) (e : QueryError), o.eval a b = .error e ↔
      ∃ s t, a.type? = some s ∧ b.type? = some t ∧ s ≠ t ∧ e = .typeMismatch s t) ∧
    (a = .null ∨ b = .null → ∀ o : Operator, o.eval a b = .ok (o = equal ∧ a = .null ∧ b = .null)) ∧
    (∀ t, a.type? = some t → b.type? = some t → Lawful a b) ∧
    (∀ c, lessThan.eval a b = .ok true → lessThan.eval b c = .ok true →
      lessThan.eval a c = .ok true) ∧
    (∀ c, lessOrEqual.eval a b = .ok true → lessOrEqual.eval b c = .ok true →
      lessOrEqual.eval a c = .ok true) ∧
    LessByPayload :=
  ⟨fun _ _ => eval_eq_error_iff, fun h o => eval_of_null o h, fun _ => lawful_of_type?_eq,
    fun _ => lessThan_trans, fun _ => lessOrEqual_trans, lessByPayload⟩

end Operator

end Records

end Switchboard
