import Switchboard.Bus.Registry

/-!
# The algebra of listings

What adding, removing and looking up do to each other.  A listing is read through
`holders`, the dispatchers of one class.  Adding and removing change it class by
class (`holders_addAll`, `holders_remove`).

A listing that was built up by adding and removing is `WellFormed`: no class is
listed twice, no class lists nobody, and no dispatcher is listed twice under one
class.  Only then is removing what it seems to be, since it forgets a class that
lists nobody any more, and an older entry of that class would come to light.

`Single` says that every class has at most one dispatcher.
-/

namespace Switchboard.Bus

/-- A dispatcher put at the end of a list, unless it is there. -/
def enter (d : DispatcherId) (ds : List DispatcherId) : List DispatcherId :=
  if d ∈ ds then ds else ds ++ [d]

theorem enter_of_mem {d : DispatcherId} {ds : List DispatcherId} (h : d ∈ ds) : enter d ds = ds :=
  if_pos h

theorem enter_of_not_mem {d : DispatcherId} {ds : List DispatcherId} (h : d ∉ ds) :
    enter d ds = ds ++ [d] := if_neg h

theorem enter_nil (d : DispatcherId) : enter d [] = [d] := by
  simp [enter]

theorem mem_enter {d x : DispatcherId} {ds : List DispatcherId} :
    x ∈ enter d ds ↔ x ∈ ds ∨ x = d := by
  by_cases h : d ∈ ds
  · rw [enter_of_mem h]
    exact ⟨.inl, fun hx => hx.elim id fun he => he ▸ h⟩
  · rw [enter_of_not_mem h]
    simp

theorem enter_enter (d : DispatcherId) (ds : List DispatcherId) :
    enter d (enter d ds) = enter d ds :=
  enter_of_mem (mem_enter.2 (.inr rfl))

theorem nodup_enter {d : DispatcherId} {ds : List DispatcherId} (h : ds.Nodup) :
    (enter d ds).Nodup := by
  by_cases hd : d ∈ ds
  · rwa [enter_of_mem hd]
  · rw [enter_of_not_mem hd, List.nodup_append]
    refine ⟨h, by simp, fun a ha b hb he => ?_⟩
    rw [List.mem_singleton] at hb
    subst hb
    exact hd (he ▸ ha)

/-- Entering a dispatcher leaves the others in their order. -/
theorem filter_enter (d : DispatcherId) (ds : List DispatcherId) :
    (enter d ds).filter (fun x => x ≠ d) = ds.filter fun x => x ≠ d := by
  by_cases hd : d ∈ ds
  · rw [enter_of_mem hd]
  · simp [enter_of_not_mem hd, List.filter_append]

theorem enter_ne_nil (d : DispatcherId) (ds : List DispatcherId) : enter d ds ≠ [] :=
  List.ne_nil_of_mem (mem_enter.2 (.inr rfl))

/-- Entering into a list that holds nobody else leaves a list of one. -/
theorem length_enter_le_one {d : DispatcherId} {ds : List DispatcherId}
    (hlen : ds.length ≤ 1) (honly : ∀ x ∈ ds, x = d) : (enter d ds).length ≤ 1 := by
  by_cases hd : d ∈ ds
  · rwa [enter_of_mem hd]
  · have hnil : ds = [] := List.eq_nil_iff_forall_not_mem.2 fun x hx => hd (honly x hx ▸ hx)
    rw [hnil, enter_nil]
    exact Nat.le_refl 1

namespace Listing

/-! ## Reading -/

@[simp] theorem holders_nil (c : MessageClass) : holders c [] = [] := rfl

theorem holders_cons (c : MessageClass) (e : MessageClass × List DispatcherId) (l : Listing) :
    holders c (e :: l) = if e.1 = c then e.2 else holders c l := rfl

@[simp] theorem classes_nil : classes [] = [] := rfl

@[simp] theorem classes_cons (e : MessageClass × List DispatcherId) (l : Listing) :
    classes (e :: l) = e.1 :: classes l := rfl

theorem holders_of_not_mem {c : MessageClass} :
    ∀ {l : Listing}, c ∉ classes l → holders c l = []
  | [], _ => rfl
  | e :: l, h => by
      rw [classes_cons, List.mem_cons, not_or] at h
      rw [holders_cons, if_neg (Ne.symm h.1)]
      exact holders_of_not_mem h.2

/-- What is listed under a class is an entry of the listing. -/
theorem mem_of_mem_classes {c : MessageClass} :
    ∀ {l : Listing}, c ∈ classes l → (c, holders c l) ∈ l
  | e :: l, h => by
      by_cases he : e.1 = c
      · rw [holders_cons, if_pos he]
        subst he
        exact List.mem_cons_self
      · rw [holders_cons, if_neg he]
        rw [classes_cons, List.mem_cons] at h
        exact List.mem_cons_of_mem _ (mem_of_mem_classes (h.resolve_left (Ne.symm he)))

theorem holders_of_mem {e : MessageClass × List DispatcherId} :
    ∀ {l : Listing}, (classes l).Nodup → e ∈ l → holders e.1 l = e.2
  | x :: l, hn, h => by
      rw [classes_cons, List.nodup_cons] at hn
      rcases List.mem_cons.1 h with rfl | h
      · rw [holders_cons, if_pos rfl]
      · have hne : x.1 ≠ e.1 := fun he => hn.1 (he ▸ List.mem_map_of_mem h)
        rw [holders_cons, if_neg hne]
        exact holders_of_mem hn.2 h

/-! ## Well-formed listings -/

/-- What holds of a listing that was built up by adding and removing. -/
structure WellFormed (l : Listing) : Prop where
  classes_nodup : (classes l).Nodup
  inhabited : ∀ e ∈ l, e.2 ≠ []
  /-- No dispatcher is listed twice under a class. -/
  holders_nodup : ∀ e ∈ l, e.2.Nodup

theorem wellFormed_nil : WellFormed [] where
  classes_nodup := .nil
  inhabited := by simp
  holders_nodup := by simp

theorem WellFormed.tail {e : MessageClass × List DispatcherId} {l : Listing}
    (h : WellFormed (e :: l)) : WellFormed l where
  classes_nodup := (List.nodup_cons.1 h.classes_nodup).2
  inhabited := fun x hx => h.inhabited x (List.mem_cons_of_mem _ hx)
  holders_nodup := fun x hx => h.holders_nodup x (List.mem_cons_of_mem _ hx)

theorem WellFormed.nodup_holders {l : Listing} (h : WellFormed l) (c : MessageClass) :
    (holders c l).Nodup := by
  by_cases hc : c ∈ classes l
  · exact h.holders_nodup _ (mem_of_mem_classes hc)
  · rw [holders_of_not_mem hc]
    exact .nil

/-- A class is listed exactly if it has a dispatcher. -/
theorem WellFormed.mem_classes_iff {l : Listing} (h : WellFormed l) {c : MessageClass} :
    c ∈ classes l ↔ holders c l ≠ [] := by
  constructor
  · intro hc
    exact h.inhabited _ (mem_of_mem_classes hc)
  · intro hne
    exact Decidable.byContradiction fun hc => hne (holders_of_not_mem hc)

/-! ## Adding -/

theorem holders_add (d : DispatcherId) (c c' : MessageClass) :
    ∀ l : Listing, holders c' (add d c l) = if c' = c then enter d (holders c l) else holders c' l
  | [] => by
      rw [add, holders_nil, enter_nil, holders_cons]
      simp only [holders_nil, eq_comm]
  | e :: l => by
      have ih := holders_add d c c' l
      by_cases he : e.1 = c
      · by_cases hc : c' = c
        · simp [add, holders_cons, he, hc, enter]
        · simp [add, holders_cons, he, hc, Ne.symm hc]
      · by_cases hc : c' = c
        · subst hc
          simpa [add, holders_cons, he] using ih
        · by_cases hec : e.1 = c'
          · simp [add, holders_cons, hc, hec]
          · simpa [add, holders_cons, he, hc, hec] using ih

theorem classes_add (d : DispatcherId) (c : MessageClass) :
    ∀ l : Listing, classes (add d c l) = if c ∈ classes l then classes l else classes l ++ [c]
  | [] => by simp [add]
  | e :: l => by
      have ih := classes_add d c l
      by_cases he : e.1 = c
      · simp [add, he]
      · rw [add, if_neg he, classes_cons, ih]
        by_cases hc : c ∈ classes l
        · simp [hc]
        · simp [hc, Ne.symm he]

/-- An entry after adding was there before, or it is the one that was changed. -/
theorem mem_add {d : DispatcherId} {c : MessageClass} {e : MessageClass × List DispatcherId} :
    ∀ {l : Listing}, e ∈ add d c l → e ∈ l ∨ (∃ x ∈ l, e = (c, enter d x.2)) ∨ e = (c, [d])
  | [], h => .inr (.inr (by simpa [add] using h))
  | x :: l, h => by
      by_cases hx : x.1 = c
      · rw [add, if_pos hx, List.mem_cons] at h
        cases h with
        | inl h => exact .inr (.inl ⟨x, List.mem_cons_self, by rw [h, hx]; rfl⟩)
        | inr h => exact .inl (List.mem_cons_of_mem _ h)
      · rw [add, if_neg hx, List.mem_cons] at h
        cases h with
        | inl h => exact .inl (h ▸ List.mem_cons_self)
        | inr h =>
            rcases mem_add h with h | ⟨y, hy, h⟩ | h
            · exact .inl (List.mem_cons_of_mem _ h)
            · exact .inr (.inl ⟨y, List.mem_cons_of_mem _ hy, h⟩)
            · exact .inr (.inr h)

theorem WellFormed.add {l : Listing} (h : WellFormed l) (d : DispatcherId) (c : MessageClass) :
    WellFormed (add d c l) where
  classes_nodup := by
    rw [classes_add]
    split
    · exact h.classes_nodup
    · next hc =>
        rw [List.nodup_append]
        refine ⟨h.classes_nodup, by simp, fun a ha b hb he => ?_⟩
        rw [List.mem_singleton] at hb
        subst hb
        exact hc (he ▸ ha)
  inhabited := by
    intro e he
    rcases mem_add he with he | ⟨x, _, rfl⟩ | rfl
    · exact h.inhabited e he
    · exact enter_ne_nil d x.2
    · simp
  holders_nodup := by
    intro e he
    rcases mem_add he with he | ⟨x, hx, rfl⟩ | rfl
    · exact h.holders_nodup e he
    · exact nodup_enter (h.holders_nodup x hx)
    · simp

theorem addAll_cons (d : DispatcherId) (c : MessageClass) (cs : List MessageClass) (l : Listing) :
    addAll d (c :: cs) l = addAll d cs (Listing.add d c l) := rfl

theorem WellFormed.addAll {l : Listing} (h : WellFormed l) (d : DispatcherId)
    (cs : List MessageClass) : WellFormed (addAll d cs l) := by
  induction cs generalizing l with
  | nil => exact h
  | cons c cs ih => exact ih (h.add d c)

/-- Adding enters the dispatcher under each of the classes and nowhere else. -/
theorem holders_addAll (d : DispatcherId) (c : MessageClass) (cs : List MessageClass)
    (l : Listing) :
    holders c (Listing.addAll d cs l) = if c ∈ cs then enter d (holders c l) else holders c l := by
  induction cs generalizing l with
  | nil => rfl
  | cons x cs ih =>
      rw [addAll_cons, ih, holders_add]
      by_cases hx : c = x
      · subst hx
        simp [enter_enter]
      · simp [hx]

theorem mem_classes_addAll {d : DispatcherId} {c : MessageClass} {cs : List MessageClass}
    {l : Listing} : c ∈ classes (Listing.addAll d cs l) ↔ c ∈ cs ∨ c ∈ classes l := by
  induction cs generalizing l with
  | nil => simp [Listing.addAll]
  | cons x cs ih =>
      have hadd : c ∈ classes (Listing.add d x l) ↔ c = x ∨ c ∈ classes l := by
        rw [classes_add]
        split
        · next hx => exact ⟨.inr, fun h => h.elim (fun he => he ▸ hx) id⟩
        · rw [List.mem_append, List.mem_singleton, or_comm]
      rw [addAll_cons, ih, hadd, List.mem_cons, or_assoc, or_left_comm]

/-! ## Removing -/

theorem remove_cons (d : DispatcherId) (e : MessageClass × List DispatcherId) (l : Listing) :
    remove d (e :: l) =
      if (e.2.filter fun x => x ≠ d) = [] then remove d l
      else (e.1, e.2.filter fun x => x ≠ d) :: remove d l := by
  rw [remove]
  rw [List.map_cons, List.filter_cons]
  cases h : e.2.filter fun x => x ≠ d with
  | nil => rfl
  | cons x xs => rfl

/-- Removing keeps no other entries than those that were there, shortened. -/
theorem mem_remove {d : DispatcherId} {e : MessageClass × List DispatcherId} {l : Listing} :
    e ∈ remove d l ↔ e.2 ≠ [] ∧ ∃ x ∈ l, e = (x.1, x.2.filter fun y => y ≠ d) := by
  simp only [remove, List.mem_filter, List.mem_map, Bool.not_eq_true', List.isEmpty_eq_false_iff]
  constructor
  · rintro ⟨⟨x, hx, rfl⟩, hne⟩
    exact ⟨hne, x, hx, rfl⟩
  · rintro ⟨hne, x, hx, rfl⟩
    exact ⟨⟨x, hx, rfl⟩, hne⟩

theorem classes_remove_sublist (d : DispatcherId) (l : Listing) :
    (classes (remove d l)).Sublist (classes l) := by
  have h : (l.map fun e => (e.1, e.2.filter fun x => x ≠ d)).map Prod.fst = l.map Prod.fst := by
    rw [List.map_map]
    rfl
  unfold classes remove
  rw [← h]
  exact List.filter_sublist.map Prod.fst

theorem WellFormed.remove {l : Listing} (h : WellFormed l) (d : DispatcherId) :
    WellFormed (remove d l) where
  classes_nodup := (classes_remove_sublist d l).nodup h.classes_nodup
  inhabited := fun _ he => (mem_remove.1 he).1
  holders_nodup := by
    intro e he
    obtain ⟨_, x, hx, rfl⟩ := mem_remove.1 he
    exact (h.holders_nodup x hx).filter _

/-- Removing takes the dispatcher out of every class and leaves the others in their
order. -/
theorem holders_remove (d : DispatcherId) (c : MessageClass) :
    ∀ {l : Listing}, (classes l).Nodup →
      holders c (Listing.remove d l) = (holders c l).filter fun x => x ≠ d
  | [], _ => rfl
  | e :: l, hn => by
      rw [classes_cons, List.nodup_cons] at hn
      have ih := holders_remove d c hn.2
      by_cases he : e.1 = c
      · -- A forgotten class must not come up again in the rest.
        have hrest : holders c (Listing.remove d l) = [] := by
          rw [ih, holders_of_not_mem (he ▸ hn.1), List.filter_nil]
        rw [remove_cons, holders_cons, if_pos he]
        split
        · next hnil => rw [hrest, hnil]
        · rw [holders_cons, if_pos he]
      · rw [remove_cons, holders_cons, if_neg he]
        split
        · exact ih
        · rw [holders_cons, if_neg he]
          exact ih

/-- To remove a dispatcher takes back that it was added. -/
theorem remove_add (d : DispatcherId) (c : MessageClass) :
    ∀ l : Listing, Listing.remove d (Listing.add d c l) = Listing.remove d l
  | [] => by simp [Listing.add, remove_cons]
  | e :: l => by
      by_cases he : e.1 = c
      · have hothers := filter_enter d e.2
        rw [enter] at hothers
        rw [Listing.add, if_pos he, remove_cons, remove_cons, hothers, he]
      · rw [Listing.add, if_neg he, remove_cons, remove_cons, remove_add d c l]

theorem remove_addAll (d : DispatcherId) (cs : List MessageClass) (l : Listing) :
    Listing.remove d (Listing.addAll d cs l) = Listing.remove d l := by
  induction cs generalizing l with
  | nil => rfl
  | cons c cs ih => rw [addAll_cons, ih, remove_add]

/-- A dispatcher is listed if it is a dispatcher of some class. -/
theorem WellFormed.lists_iff {l : Listing} (h : WellFormed l) {d : DispatcherId} :
    lists d l = true ↔ ∃ c, d ∈ holders c l := by
  simp only [lists, List.any_eq_true, List.contains_iff_mem]
  constructor
  · rintro ⟨e, he, hd⟩
    exact ⟨e.1, by rwa [holders_of_mem h.classes_nodup he]⟩
  · rintro ⟨c, hd⟩
    have hc : c ∈ classes l := h.mem_classes_iff.2 (List.ne_nil_of_mem hd)
    exact ⟨_, mem_of_mem_classes hc, hd⟩

/-- To remove a dispatcher that is not listed changes nothing. -/
theorem WellFormed.remove_eq_self {l : Listing} (h : WellFormed l) {d : DispatcherId}
    (hd : lists d l = false) : Listing.remove d l = l := by
  have hothers (e : MessageClass × List DispatcherId) (he : e ∈ l) :
      (e.2.filter fun x => x ≠ d) = e.2 := by
    rw [List.filter_eq_self]
    intro x hx
    rw [lists, List.any_eq_false] at hd
    exact decide_eq_true fun hxd => hd e he (by simpa [← hxd] using hx)
  induction l with
  | nil => rfl
  | cons e l ih =>
      have hne : e.2 ≠ [] := h.inhabited e List.mem_cons_self
      rw [remove_cons, hothers e List.mem_cons_self, if_neg hne]
      refine congrArg (e :: ·) (ih h.tail ?_ fun x hx => hothers x (List.mem_cons_of_mem _ hx))
      rw [lists, List.any_cons, Bool.or_eq_false_iff] at hd
      exact hd.2

/-! ## One dispatcher for each class -/

def Single (l : Listing) : Prop := ∀ c, (holders c l).length ≤ 1

theorem single_nil : Single [] := fun _ => Nat.zero_le 1

/-- A conflict names another dispatcher and the class that it holds. -/
theorem of_conflict?_eq_some {d x : DispatcherId} {cs : List MessageClass} {l : Listing}
    {c : MessageClass} (h : conflict? d cs l = some (c, x)) : c ∈ cs ∧ x ∈ holders c l ∧ x ≠ d := by
  obtain ⟨c', hc', hfound⟩ := List.exists_of_findSome?_eq_some h
  obtain ⟨x', hx', he⟩ := Option.map_eq_some_iff.1 hfound
  cases he
  exact ⟨hc', List.mem_of_find?_eq_some hx', by simpa using List.find?_some hx'⟩

/-- Without a conflict, nobody else holds one of the classes. -/
theorem only_of_conflict?_eq_none {d : DispatcherId} {cs : List MessageClass} {l : Listing}
    (h : conflict? d cs l = none) {c : MessageClass} (hc : c ∈ cs) :
    ∀ x ∈ holders c l, x = d := by
  intro x hx
  rw [conflict?] at h
  have hnone := List.findSome?_eq_none_iff.1 h c hc
  rw [Option.map_eq_none_iff, List.find?_eq_none] at hnone
  simpa using hnone x hx

theorem Single.addAll {d : DispatcherId} {cs : List MessageClass} {l : Listing} (h : Single l)
    (hfree : conflict? d cs l = none) : Single (Listing.addAll d cs l) := by
  intro c
  rw [holders_addAll]
  split
  · next hc => exact length_enter_le_one (h c) (only_of_conflict?_eq_none hfree hc)
  · exact h c

theorem Single.remove {l : Listing} (h : Single l) (hw : WellFormed l) (d : DispatcherId) :
    Single (Listing.remove d l) := by
  intro c
  rw [holders_remove d c hw.classes_nodup]
  exact Nat.le_trans (List.length_filter_le _ _) (h c)

end Listing

end Switchboard.Bus
