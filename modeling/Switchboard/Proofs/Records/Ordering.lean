import Switchboard.Records.Query

/-!
# The orders of results

The storage order of values is a linear order, and the order of a list of sort keys is a
total preorder on column maps, in which two maps are level if they agree on every key.

Both are stated through the classes of comparisons: `Std.TransCmp` is a total preorder, and
`Std.LawfulEqCmp` says that only equal things are level.  The storage order compares types
first and payloads of one type next, so its laws come from the laws of the ranks and of each
type of payload.  A list of keys compares by one key after the other, so its laws come by
induction on the list, from those of a single key (`transCmp_orderAll`).
-/

namespace Switchboard

/-! ## Instants and identifiers -/

instance : Std.TransOrd Timestamp :=
  inferInstanceAs (Std.TransCmp (compareLex (compareOn Timestamp.day)
    (compareLex (compareOn fun t => t.second.val) (compareOn fun t => t.nano.val))))

instance : Std.LawfulEqOrd Timestamp where
  eq_of_compare {a b} h := by
    obtain ⟨day, second, nano⟩ := a
    obtain ⟨day', second', nano'⟩ := b
    obtain ⟨hday, h⟩ := Ordering.then_eq_eq.1 h
    obtain ⟨hsecond, hnano⟩ := Ordering.then_eq_eq.1 h
    obtain rfl : day = day' := Std.LawfulEqOrd.eq_of_compare hday
    obtain rfl : second = second' := Fin.ext (Std.LawfulEqOrd.eq_of_compare hsecond)
    obtain rfl : nano = nano' := Fin.ext (Std.LawfulEqOrd.eq_of_compare hnano)
    rfl

instance : Std.TransOrd Uuid := inferInstanceAs (Std.TransCmp (compareOn Uuid.bytes))

instance : Std.LawfulEqOrd Uuid where
  eq_of_compare {a b} h := by
    obtain ⟨bytes, _⟩ := a
    obtain ⟨bytes', _⟩ := b
    obtain rfl : bytes = bytes' := Std.LawfulEqOrd.eq_of_compare h
    rfl

namespace Records

theorem isLE_or_isLE {α : Type} (cmp : α → α → Ordering) [Std.OrientedCmp cmp] (a b : α) :
    (cmp a b).isLE = true ∨ (cmp b a).isLE = true := by
  have hswap : cmp a b = (cmp b a).swap := Std.OrientedCmp.eq_swap
  rw [hswap]
  cases cmp b a with
  | lt => exact .inr rfl
  | eq => exact .inr rfl
  | gt => exact .inl rfl

/-! ## The storage order -/

namespace ColumnValue

/-- Two values of one type. -/
inductive Paired : ColumnValue → ColumnValue → Prop where
  | null : Paired null null
  | bool (a b : Bool) : Paired (bool a) (bool b)
  | int (a b : Int64) : Paired (int a) (int b)
  | text (a b : String) : Paired (text a) (text b)
  | timestamp (a b : Timestamp) : Paired (timestamp a) (timestamp b)
  | uuid (a b : Uuid) : Paired (uuid a) (uuid b)

theorem paired_of_rank_eq {a b : ColumnValue} (h : a.rank = b.rank) : Paired a b := by
  cases a <;> cases b <;> first | constructor | cases h

/-- Values of different types are ordered by type. -/
theorem compare_of_rank_ne {a b : ColumnValue} (h : a.rank ≠ b.rank) :
    compare a b = compare a.rank b.rank := by
  cases a <;> cases b <;> first | rfl | exact absurd rfl h

theorem rank_le_of_isLE {a b : ColumnValue} (h : (compare a b).isLE = true) : a.rank ≤ b.rank := by
  by_cases hr : a.rank = b.rank
  · exact Nat.le_of_eq hr
  · rw [compare_of_rank_ne hr] at h
    exact Nat.isLE_compare.1 h

instance : Std.OrientedOrd ColumnValue where
  eq_swap {a b} := by
    by_cases hr : a.rank = b.rank
    · cases paired_of_rank_eq hr with
      | null => rfl
      | bool a b => exact Std.OrientedOrd.eq_swap (a := a)
      | int a b => exact Std.OrientedOrd.eq_swap (a := a)
      | text a b => exact Std.OrientedOrd.eq_swap (a := a)
      | timestamp a b => exact Std.OrientedOrd.eq_swap (a := a)
      | uuid a b => exact Std.OrientedOrd.eq_swap (a := a)
    · rw [compare_of_rank_ne hr, compare_of_rank_ne (Ne.symm hr)]
      exact Std.OrientedOrd.eq_swap

instance : Std.TransOrd ColumnValue where
  isLE_trans {a b c} hab hbc := by
    have hab' := rank_le_of_isLE hab
    have hbc' := rank_le_of_isLE hbc
    by_cases hr : a.rank = c.rank
    · -- all three have the same type
      have hpab : Paired a b := paired_of_rank_eq (by omega)
      have hpbc : Paired b c := paired_of_rank_eq (by omega)
      cases hpab with
      | null =>
          cases hpbc
          rfl
      | bool a b =>
          cases hpbc with
          | bool _ c => exact Std.TransOrd.isLE_trans (a := a) (b := b) hab hbc
      | int a b =>
          cases hpbc with
          | int _ c => exact Std.TransOrd.isLE_trans (a := a) (b := b) hab hbc
      | text a b =>
          cases hpbc with
          | text _ c => exact Std.TransOrd.isLE_trans (a := a) (b := b) hab hbc
      | timestamp a b =>
          cases hpbc with
          | timestamp _ c => exact Std.TransOrd.isLE_trans (a := a) (b := b) hab hbc
      | uuid a b =>
          cases hpbc with
          | uuid _ c => exact Std.TransOrd.isLE_trans (a := a) (b := b) hab hbc
    · rw [compare_of_rank_ne hr]
      exact Nat.isLE_compare.2 (by omega)

instance : Std.LawfulEqOrd ColumnValue where
  eq_of_compare {a b} h := by
    by_cases hr : a.rank = b.rank
    · cases paired_of_rank_eq hr with
      | null => rfl
      | bool a b => exact congrArg bool (Std.LawfulEqOrd.eq_of_compare h)
      | int a b => exact congrArg int (Std.LawfulEqOrd.eq_of_compare h)
      | text a b => exact congrArg text (Std.LawfulEqOrd.eq_of_compare h)
      | timestamp a b => exact congrArg timestamp (Std.LawfulEqOrd.eq_of_compare h)
      | uuid a b => exact congrArg uuid (Std.LawfulEqOrd.eq_of_compare h)
    · rw [compare_of_rank_ne hr] at h
      exact absurd (Nat.compare_eq_eq.1 h) hr

end ColumnValue

/-! ## Sort keys -/

theorem Direction.orient_eq_eq {d : Direction} {o : Ordering} : d.orient o = .eq ↔ o = .eq := by
  cases d with
  | ascending => rfl
  | descending => cases o <;> decide

namespace OrderBy

theorem order_ascending (column : ColumnName) :
    (⟨column, .ascending⟩ : OrderBy).order = compareOn fun c : Columns => c.value column := rfl

/-- To sort in descending order is to compare the other way round. -/
theorem order_descending (column : ColumnName) :
    (⟨column, .descending⟩ : OrderBy).order =
      fun a b => (⟨column, .ascending⟩ : OrderBy).order b a := by
  funext a b
  exact Std.OrientedOrd.eq_swap.symm

instance transCmp_order (k : OrderBy) : Std.TransCmp k.order := by
  obtain ⟨column, direction⟩ := k
  have hascending : Std.TransCmp (⟨column, .ascending⟩ : OrderBy).order := by
    rw [order_ascending]
    infer_instance
  cases direction with
  | ascending => exact hascending
  | descending =>
      rw [order_descending]
      exact Std.TransCmp.opposite

theorem order_eq_eq_iff {k : OrderBy} {a b : Columns} :
    k.order a b = .eq ↔ a.value k.column = b.value k.column :=
  Direction.orient_eq_eq.trans Std.LawfulEqCmp.compare_eq_iff_eq

theorem orderAll_cons (k : OrderBy) (ks : List OrderBy) :
    orderAll (k :: ks) = compareLex k.order (orderAll ks) := rfl

instance transCmp_orderAll (ks : List OrderBy) : Std.TransCmp (orderAll ks) := by
  induction ks with
  | nil => exact { eq_swap := rfl, isLE_trans := fun _ _ => rfl }
  | cons k ks ih =>
      rw [orderAll_cons]
      infer_instance

/-- Column maps are level if they agree on every sort key. -/
theorem orderAll_eq_eq {ks : List OrderBy} {a b : Columns} :
    orderAll ks a b = .eq ↔
      (ks.map fun k => a.value k.column) = ks.map fun k => b.value k.column := by
  induction ks with
  | nil => exact ⟨fun _ => rfl, fun _ => rfl⟩
  | cons k ks ih =>
      rw [orderAll, Ordering.then_eq_eq, order_eq_eq_iff, ih, List.map_cons, List.map_cons,
        List.cons.injEq]

/-- Whether a column map may stand before another. -/
def Precedes (ks : List OrderBy) (a b : Columns) : Prop := (orderAll ks a b).isLE = true

theorem Precedes.trans {ks : List OrderBy} {a b c : Columns} (hab : Precedes ks a b)
    (hbc : Precedes ks b c) : Precedes ks a c :=
  Std.TransCmp.isLE_trans hab hbc

theorem precedes_total (ks : List OrderBy) (a b : Columns) :
    Precedes ks a b ∨ Precedes ks b a :=
  isLE_or_isLE (orderAll ks) a b

/-- Column maps that may stand in either order are level. -/
theorem Precedes.antisymm {ks : List OrderBy} {a b : Columns} (hab : Precedes ks a b)
    (hba : Precedes ks b a) : orderAll ks a b = .eq :=
  Std.OrientedCmp.isLE_antisymm hab hba

/-- What is level may take each other's place. -/
theorem Precedes.congr {ks : List OrderBy} {a a' b b' : Columns} (ha : orderAll ks a a' = .eq)
    (hb : orderAll ks b b' = .eq) (h : Precedes ks a b) : Precedes ks a' b' := by
  rwa [Precedes, ← Std.TransCmp.congr_left ha, ← Std.TransCmp.congr_right hb]

end OrderBy

end Records

end Switchboard
