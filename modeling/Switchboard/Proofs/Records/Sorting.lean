import Switchboard.Proofs.Records.Selection

/-!
# What sorting rests on

Sorting has a definite result only if the comparison is consistent.  It has to be a total preorder,
also where values of different types stand in one column, or none at all, and where some keys go
up and others down.

The storage order is a total order of values (`TotalOrder`), with the types in a fixed order and
null first.  The order by some keys is a total preorder of records (`TotalPreorder`), because each
key is one, in either direction.  Records are level where they agree on every key.

To turn every key around is to compare the other way round (`orderAll_reverse`).  This holds for a
single key, and the first key that tells two records apart is the same in both lists.
-/

namespace Switchboard.Records

/-! ## Comparisons -/

section

variable {α β : Type} {cmp : α → α → Ordering}

structure TotalPreorder (cmp : α → α → Ordering) : Prop where
  refl : ∀ a, cmp a a = .eq
  swap : ∀ a b, cmp b a = (cmp a b).swap
  trans : ∀ a b c, (cmp a b).isLE = true → (cmp b c).isLE = true → (cmp a c).isLE = true
  total : ∀ a b, (cmp a b).isLE = true ∨ (cmp b a).isLE = true

/-- Only what is the same is level. -/
structure TotalOrder (cmp : α → α → Ordering) : Prop extends TotalPreorder cmp where
  eq_iff : ∀ a b, cmp a b = .eq ↔ a = b
  antisymm : ∀ a b, (cmp a b).isLE = true → (cmp b a).isLE = true → a = b

theorem totalPreorder_of_transCmp (cmp : α → α → Ordering) [Std.TransCmp cmp] :
    TotalPreorder cmp where
  refl _ := Std.ReflCmp.compare_self
  swap _ _ := Std.OrientedCmp.eq_swap
  trans _ _ _ hab hbc := Std.TransCmp.isLE_trans hab hbc
  total := isLE_or_isLE cmp

theorem totalOrder_of_lawfulEqCmp (cmp : α → α → Ordering) [Std.TransCmp cmp]
    [Std.LawfulEqCmp cmp] : TotalOrder cmp where
  toTotalPreorder := totalPreorder_of_transCmp cmp
  eq_iff _ _ := Std.LawfulEqCmp.compare_eq_iff_eq
  antisymm _ _ hab hba :=
    Std.LawfulEqCmp.eq_of_compare (Std.OrientedCmp.isLE_antisymm hab hba)

/-- Things are compared by a part of them. -/
theorem TotalPreorder.on (h : TotalPreorder cmp) (f : β → α) :
    TotalPreorder fun x y => cmp (f x) (f y) where
  refl x := h.refl (f x)
  swap x y := h.swap (f x) (f y)
  trans x y z := h.trans (f x) (f y) (f z)
  total x y := h.total (f x) (f y)

end

/-! ## Values of different types -/

namespace ColumnValue

/-- The types in the storage order.  Null, which has none, comes first. -/
def variants : List (Option ColumnType) :=
  [none, some .bool, some .int, some .text, some .timestamp, some .uuid]

theorem rank_eq_idxOf (v : ColumnValue) : v.rank = variants.idxOf v.type? := by
  cases v with
  | _ => rfl

theorem compare_of_type?_ne {a b : ColumnValue} (h : a.type? ≠ b.type?) :
    compare a b = compare (variants.idxOf a.type?) (variants.idxOf b.type?) := by
  have hrank : a.rank ≠ b.rank := by
    intro hr
    cases paired_of_rank_eq hr with
    | _ => exact h rfl
  rw [compare_of_rank_ne hrank, rank_eq_idxOf, rank_eq_idxOf]

end ColumnValue

/-! ## Keys turned around -/

namespace OrderBy

/-- The key in the other direction. -/
def reverse (k : OrderBy) : OrderBy := { k with direction := k.direction.reverse }

theorem order_reverse (k : OrderBy) (a b : Columns) : k.reverse.order a b = k.order b a := by
  obtain ⟨column, direction⟩ := k
  cases direction with
  | ascending => exact congrFun (congrFun (order_descending column) a) b
  | descending => exact (congrFun (congrFun (order_descending column) b) a).symm

theorem orderAll_reverse (ks : List OrderBy) (a b : Columns) :
    orderAll (ks.map reverse) a b = orderAll ks b a := by
  induction ks with
  | nil => rfl
  | cons k ks ih => rw [List.map_cons, orderAll, orderAll, order_reverse, ih]

end OrderBy

/-- The storage order is a total order, and the order by some keys is a total preorder, whatever
types the values have and whichever way the keys go. -/
theorem orders_total {ι ρ : Type} :
    (TotalOrder (compare : ColumnValue → ColumnValue → Ordering) ∧
      (∀ v : ColumnValue, v ≠ .null → compare .null v = .lt) ∧
      ∀ a b : ColumnValue, a.type? ≠ b.type? →
        compare a b =
          compare (ColumnValue.variants.idxOf a.type?) (ColumnValue.variants.idxOf b.type?)) ∧
    ∀ ks : List OrderBy,
      TotalPreorder (fun a b : Record ι ρ => OrderBy.orderAll ks a.columns b.columns) ∧
      ∀ a b : Record ι ρ,
        (OrderBy.orderAll ks a.columns b.columns = .lt ↔
          OrderBy.Before ks a.columns b.columns) ∧
        (OrderBy.orderAll ks a.columns b.columns = .eq ↔
          ∀ k ∈ ks, (a.columns.get? k.column).getD .null = (b.columns.get? k.column).getD .null) ∧
        OrderBy.orderAll (ks.map OrderBy.reverse) a.columns b.columns =
          (OrderBy.orderAll ks a.columns b.columns).swap := by
  refine ⟨⟨totalOrder_of_lawfulEqCmp compare, ?_, ?_⟩, ?_⟩
  · intro v hv
    exact v.eq_null_or_null_lt.resolve_left hv
  · intro a b h
    exact ColumnValue.compare_of_type?_ne h
  · intro ks
    have hks : TotalPreorder (OrderBy.orderAll ks) := totalPreorder_of_transCmp _
    refine ⟨hks.on Record.columns, ?_⟩
    intro a b
    refine ⟨OrderBy.orderAll_eq_lt_iff, ?_, ?_⟩
    · rw [OrderBy.orderAll_eq_eq]
      exact List.map_inj_left
    · rw [OrderBy.orderAll_reverse, hks.swap a.columns b.columns]

/-- Sizes in ascending order, and names in descending order among equal sizes. -/
def bySize : List OrderBy := [⟨"size", .ascending⟩, ⟨"name", .descending⟩]

/-- A scarf has no size, a coat has a number, and a belt has a text. -/
def scarf : Record Nat Unit := ⟨1, (), .ofList [("name", .text "scarf")]⟩

def coat : Record Nat Unit := ⟨2, (), .ofList [("name", .text "coat"), ("size", .int 48)]⟩

def belt : Record Nat Unit := ⟨3, (), .ofList [("name", .text "belt"), ("size", .text "M")]⟩

theorem orders_total_garments :
    OrderBy.orderAll bySize scarf.columns coat.columns = .lt ∧
      OrderBy.orderAll bySize coat.columns belt.columns = .lt ∧
      (OrderBy.orderAll bySize scarf.columns belt.columns).isLE = true ∧
      OrderBy.orderAll (bySize.map OrderBy.reverse) scarf.columns coat.columns = .gt := by
  obtain ⟨⟨-, hnull, htypes⟩, hkeys⟩ := orders_total (ι := Nat) (ρ := Unit)
  obtain ⟨hpreorder, hrecords⟩ := hkeys bySize
  have hscarf : OrderBy.orderAll bySize scarf.columns coat.columns = .lt :=
    congrArg (Ordering.then · _) (hnull (.int 48) (by decide))
  have hcoat : OrderBy.orderAll bySize coat.columns belt.columns = .lt :=
    congrArg (Ordering.then · _) (htypes (.int 48) (.text "M") (by decide))
  refine ⟨hscarf, hcoat, ?_, ?_⟩
  · refine hpreorder.trans scarf coat belt ?_ ?_
    · simp [hscarf]
    · simp [hcoat]
  · obtain ⟨-, -, hreverse⟩ := hrecords scarf coat
    rw [hreverse, hscarf]
    rfl

end Switchboard.Records
