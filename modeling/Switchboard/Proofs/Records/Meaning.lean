import Switchboard.Proofs.Records.Ordering
import Switchboard.Proofs.Records.ShortCircuit
import Switchboard.Proofs.Records.Typing

/-!
# What predicates mean

Evaluation goes through the parts of a predicate in order and may fail.  The *meaning* of a
predicate does neither: a conjunction holds if all its parts do, a disjunction if one of them
does, and a comparison relates two values of one type by the order of that type
(`Predicate.Holds`, `Operator.Relates`).

Wherever evaluation gives a truth value, it is the meaning (`Predicate.eq_true_iff_holds`),
since an answer that stops evaluation settles the whole.  A valid predicate gives a truth value
on all columns that fit the specification, so there evaluation and meaning are the same
(`Predicate.eval_meaning`).

The meaning does not depend on how the parts are arranged, and neither does validity.  So the
parts of a valid predicate may be put in another order, repeated, left out where they are
repeated, and gathered or dissolved, at any depth (`Predicate.Rearranged`).
-/

namespace Switchboard.Records

/-! ## Comparisons -/

namespace ColumnValue

/-- A value is less than another of the same type: false is less than true, and numbers, texts,
instants and identifiers compare as such.  Null is less than nothing, and nothing is less than
null. -/
inductive Below : ColumnValue → ColumnValue → Prop where
  | bool {a b : Bool} : a < b → Below (bool a) (bool b)
  | int {a b : Int64} : a < b → Below (int a) (int b)
  | text {a b : String} : a < b → Below (text a) (text b)
  | timestamp {a b : Timestamp} : compare a b = .lt → Below (timestamp a) (timestamp b)
  | uuid {a b : Uuid} : compare a b = .lt → Below (uuid a) (uuid b)

theorem rank_eq_of_type?_eq {a b : ColumnValue} (h : a.type? = b.type?) : a.rank = b.rank := by
  cases a <;> cases b <;> first | rfl | cases h

/-- The storage order of values of one type is the order of that type. -/
theorem compare_eq_lt_iff {a b : ColumnValue} (h : a.type? = b.type?) :
    compare a b = .lt ↔ a.Below b := by
  cases paired_of_rank_eq (rank_eq_of_type?_eq h) with
  | null =>
      constructor
      · intro h
        cases h
      · intro h
        cases h
  | bool a b =>
      have hlt : compare a b = .lt ↔ a < b := by cases a <;> cases b <;> decide
      exact hlt.trans ⟨.bool, fun | .bool h => h⟩
  | int a b =>
      have hlt : compare a b = .lt ↔ a < b := Std.compare_eq_lt
      exact hlt.trans ⟨.int, fun | .int h => h⟩
  | text a b =>
      have hlt : compare a b = .lt ↔ a < b := compareOfLessAndEq_eq_lt
      exact hlt.trans ⟨.text, fun | .text h => h⟩
  | timestamp a b => exact ⟨.timestamp, fun | .timestamp h => h⟩
  | uuid a b => exact ⟨.uuid, fun | .uuid h => h⟩

theorem compare_eq_gt_iff {a b : ColumnValue} (h : a.type? = b.type?) :
    compare a b = .gt ↔ b.Below a := by
  rw [← compare_eq_lt_iff h.symm, Std.OrientedOrd.eq_swap (a := b), Ordering.swap_eq_lt]

theorem type?_eq_none {a : ColumnValue} (h : a.type? = none) : a = .null := by
  cases a with
  | null => rfl
  | _ => cases h

theorem type?_eq_none_iff {a : ColumnValue} : a.type? = none ↔ a = .null :=
  ⟨type?_eq_none, fun h => congrArg type? h⟩

end ColumnValue

namespace Operator

/-- The relation of an operator.  Only equality relates null, and only to itself. -/
def Relates : Operator → ColumnValue → ColumnValue → Prop
  | equal, a, b => a = b
  | greaterThan, a, b => b.Below a
  | lessThan, a, b => a.Below b
  | greaterOrEqual, a, b => a ≠ .null ∧ (b.Below a ∨ a = b)
  | lessOrEqual, a, b => a ≠ .null ∧ (a.Below b ∨ a = b)

/-- Between values of one type that are not null, an operator holds of their order. -/
theorem holds_compare_iff (o : Operator) {a b : ColumnValue} (h : a.type? = b.type?)
    (ha : a ≠ .null) : o.holds (compare a b) = true ↔ o.Relates a b := by
  have hlt := ColumnValue.compare_eq_lt_iff h
  have hgt := ColumnValue.compare_eq_gt_iff h
  have heq : compare a b = .eq ↔ a = b := Std.LawfulEqOrd.compare_eq_iff_eq
  cases o with
  | equal => exact Ordering.isEq_iff_eq_eq.trans heq
  | greaterThan => exact Ordering.isGT_iff_eq_gt.trans hgt
  | lessThan => exact Ordering.isLT_iff_eq_lt.trans hlt
  | greaterOrEqual =>
      rw [Relates, ← hgt, ← heq, holds, Ordering.isGE_iff_eq_gt_or_eq_eq]
      exact (and_iff_right ha).symm
  | lessOrEqual =>
      rw [Relates, ← hlt, ← heq, holds, Ordering.isLE_iff_eq_lt_or_eq_eq]
      exact (and_iff_right ha).symm

theorem relates_null_null (o : Operator) : o.Relates .null .null ↔ o = equal := by
  cases o with
  | equal => exact ⟨fun _ => rfl, fun _ => rfl⟩
  | greaterThan => exact ⟨nofun, nofun⟩
  | lessThan => exact ⟨nofun, nofun⟩
  | greaterOrEqual => exact ⟨fun h => absurd rfl h.1, nofun⟩
  | lessOrEqual => exact ⟨fun h => absurd rfl h.1, nofun⟩

/-- Values of different types are not related. -/
theorem not_relates_of_type?_ne (o : Operator) {a b : ColumnValue} (h : a.type? ≠ b.type?) :
    ¬ o.Relates a b := by
  have heq : a ≠ b := fun hab => h (congrArg ColumnValue.type? hab)
  have hlt : ¬ a.Below b := fun hab => h (by cases hab <;> rfl)
  have hgt : ¬ b.Below a := fun hba => h (by cases hba <;> rfl)
  cases o with
  | equal => exact heq
  | greaterThan => exact hgt
  | lessThan => exact hlt
  | greaterOrEqual => exact fun h => h.2.elim hgt heq
  | lessOrEqual => exact fun h => h.2.elim hlt heq

/-- Where a comparison does not fail, it says whether the operator relates the two values. -/
theorem eq_true_iff_relates {o : Operator} {a b : ColumnValue} {r : Bool}
    (h : o.eval a b = .ok r) : r = true ↔ o.Relates a b := by
  rw [eval] at h
  cases ha : a.type? with
  | none =>
      cases hb : b.type? with
      | none =>
          rw [ha, hb] at h
          obtain rfl := Except.ok.inj h
          rw [ColumnValue.type?_eq_none ha, ColumnValue.type?_eq_none hb, relates_null_null]
          exact decide_eq_true_iff
      | some t =>
          rw [ha, hb] at h
          obtain rfl := Except.ok.inj h
          exact iff_of_false Bool.false_ne_true (o.not_relates_of_type?_ne (by simp [ha, hb]))
  | some s =>
      cases hb : b.type? with
      | none =>
          rw [ha, hb] at h
          obtain rfl := Except.ok.inj h
          exact iff_of_false Bool.false_ne_true (o.not_relates_of_type?_ne (by simp [ha, hb]))
      | some t =>
          rw [ha, hb] at h
          by_cases hst : s = t
          · obtain rfl := Except.ok.inj ((if_pos hst).symm.trans h)
            have hnull : a ≠ .null := fun hnull => by simp [hnull, ColumnValue.type?] at ha
            exact o.holds_compare_iff (by rw [ha, hb, hst]) hnull
          · cases (if_neg hst).symm.trans h

end Operator

namespace Predicate

variable {c : Columns} {p q : Predicate} {ps qs : List Predicate}

/-! ## Predicates -/

/-- What a predicate says of column values. -/
def Holds (c : Columns) : Predicate → Prop
  | const b => b = true
  | compare name o v => o.Relates (c.value name) v
  | all ps => ∀ p ∈ ps, p.Holds c
  | either ps => ∃ p, ∃ _ : p ∈ ps, p.Holds c

theorem holds_all : (all ps).Holds c ↔ ∀ p ∈ ps, p.Holds c := by rw [Holds]

theorem holds_either : (either ps).Holds c ↔ ∃ p ∈ ps, p.Holds c := by
  rw [Holds]
  exact exists_congr fun p => exists_prop

/-- Where evaluation does not fail, it says whether the predicate holds. -/
theorem eq_true_iff_holds :
    ∀ (p : Predicate) {b : Bool}, p.eval c = .ok b → (b = true ↔ p.Holds c)
  | const b', b, h => by
      rw [eval] at h
      rw [Holds, Except.ok.inj h]
  | compare name o v, b, h => by
      rw [eval] at h
      rw [Holds]
      exact Operator.eq_true_iff_relates h
  | all ps, b, h => by
      have ih (p : Predicate) (hp : p ∈ ps) {b : Bool} (h : p.eval c = .ok b) :
          b = true ↔ p.Holds c := eq_true_iff_holds p h
      rw [holds_all]
      cases b with
      | true =>
          have htrue := (stopsAt_all c ps).neutral_iff.1 h
          exact iff_of_true rfl fun p hp => (ih p hp (htrue p hp)).1 rfl
      | false =>
          obtain ⟨p, hp, hfalse⟩ := ((stopsAt_all c ps).settled_iff.1 h).exists_mem
          exact iff_of_false nofun fun hall => nomatch (ih p hp hfalse).2 (hall p hp)
  | either ps, b, h => by
      have ih (p : Predicate) (hp : p ∈ ps) {b : Bool} (h : p.eval c = .ok b) :
          b = true ↔ p.Holds c := eq_true_iff_holds p h
      rw [holds_either]
      cases b with
      | true =>
          obtain ⟨p, hp, htrue⟩ := ((stopsAt_either c ps).settled_iff.1 h).exists_mem
          exact iff_of_true rfl ⟨p, hp, (ih p hp htrue).1 rfl⟩
      | false =>
          have hfalse := (stopsAt_either c ps).neutral_iff.1 h
          refine iff_of_false nofun ?_
          rintro ⟨p, hp, hholds⟩
          exact nomatch (ih p hp (hfalse p hp)).2 hholds

/-! ## Arrangements -/

/-- A way to compose predicates. -/
inductive Connective where
  | all
  | either
deriving DecidableEq

namespace Connective

def join : Connective → List Predicate → Predicate
  | all, ps => .all ps
  | either, ps => .either ps

/-- Whether all of some predicates, or one of them, has a property. -/
def Among (G : Predicate → Prop) : Connective → List Predicate → Prop
  | all, ps => ∀ p ∈ ps, G p
  | either, ps => ∃ p ∈ ps, G p

variable {G : Predicate → Prop}

theorem among_singleton (k : Connective) (p : Predicate) : k.Among G [p] ↔ G p := by
  cases k with
  | all => exact List.forall_mem_singleton
  | either => simp [Among]

/-- What is among the predicates of two lists is decided list by list. -/
theorem among_append_congr (k : Connective) {ps ps' qs qs' : List Predicate}
    (hps : k.Among G ps ↔ k.Among G ps') (hqs : k.Among G qs ↔ k.Among G qs') :
    k.Among G (ps ++ qs) ↔ k.Among G (ps' ++ qs') := by
  cases k with
  | all =>
      simp only [Among, List.forall_mem_append] at hps hqs ⊢
      exact and_congr hps hqs
  | either =>
      simp only [Among, List.mem_append, or_and_right, exists_or] at hps hqs ⊢
      exact or_congr hps hqs

theorem among_congr_mem (k : Connective) (h : ∀ p, p ∈ ps ↔ p ∈ qs) :
    k.Among G ps ↔ k.Among G qs := by
  cases k with
  | all => exact forall_congr' fun p => imp_congr_left (h p)
  | either => exact exists_congr fun p => and_congr_left' (h p)

end Connective

/-- Two arrangements of the same comparisons. -/
inductive Rearranged : Predicate → Predicate → Prop where
  | refl (p : Predicate) : Rearranged p p
  | symm {p q : Predicate} : Rearranged p q → Rearranged q p
  | trans {p q r : Predicate} : Rearranged p q → Rearranged q r → Rearranged p r
  /-- The parts come in another order. -/
  | reorder (k : Connective) {ps qs : List Predicate} :
      ps.Perm qs → Rearranged (k.join ps) (k.join qs)
  /-- A part is repeated. -/
  | duplicate (k : Connective) {p : Predicate} {ps : List Predicate} :
      p ∈ ps → Rearranged (k.join (p :: ps)) (k.join ps)
  /-- Some parts are gathered into one, composed in the same way. -/
  | nest (k : Connective) (ps qs rs : List Predicate) :
      Rearranged (k.join (ps ++ [k.join qs] ++ rs)) (k.join (ps ++ qs ++ rs))
  /-- A part is rearranged. -/
  | part (k : Connective) (ps : List Predicate) {p q : Predicate} (qs : List Predicate) :
      Rearranged p q → Rearranged (k.join (ps ++ [p] ++ qs)) (k.join (ps ++ [q] ++ qs))

/-- A property that a composed predicate has if all of its parts have it, or if one of them
does, is one of all arrangements or of none. -/
theorem Rearranged.congr {G : Predicate → Prop} {f : Connective → Connective}
    (hG : ∀ k ps, G (k.join ps) ↔ (f k).Among G ps) (h : Rearranged p q) : G p ↔ G q := by
  induction h with
  | refl p => exact Iff.rfl
  | symm _ ih => exact ih.symm
  | trans _ _ ihp ihq => exact ihp.trans ihq
  | reorder k hperm =>
      rw [hG, hG]
      exact (f k).among_congr_mem fun p => hperm.mem_iff
  | duplicate k hp =>
      rw [hG, hG]
      refine (f k).among_congr_mem fun p => ?_
      simp only [List.mem_cons, or_iff_right_iff_imp]
      rintro rfl
      exact hp
  | nest k ps qs rs =>
      rw [hG, hG]
      have hinner : (f k).Among G [k.join qs] ↔ (f k).Among G qs :=
        ((f k).among_singleton (k.join qs)).trans (hG k qs)
      exact (f k).among_append_congr ((f k).among_append_congr Iff.rfl hinner) Iff.rfl
  | part k ps qs _ ih =>
      rw [hG, hG]
      have hinner := ((f k).among_singleton _).trans (ih.trans ((f k).among_singleton _).symm)
      exact (f k).among_append_congr ((f k).among_append_congr Iff.rfl hinner) Iff.rfl

theorem holds_join (c : Columns) (k : Connective) (ps : List Predicate) :
    (k.join ps).Holds c ↔ k.Among (Holds c) ps := by
  cases k with
  | all => exact holds_all
  | either => exact holds_either

theorem validateEach_eq_ok_iff {k : Catalog} :
    validateEach k ps = .ok () ↔ ∀ p ∈ ps, p.validate k = .ok () := by
  induction ps with
  | nil => simp [validateEach]
  | cons p ps ih => rw [validateEach_cons_eq_ok_iff, ih, List.forall_mem_cons]

/-- Validity looks at every part, however the parts are composed. -/
theorem validate_join_eq_ok_iff (cat : Catalog) (k : Connective) (ps : List Predicate) :
    (k.join ps).validate cat = .ok () ↔
      Connective.all.Among (fun p => p.validate cat = .ok ()) ps := by
  cases k with
  | all => rw [Connective.join, validate, validateEach_eq_ok_iff, Connective.Among]
  | either => rw [Connective.join, validate, validateEach_eq_ok_iff, Connective.Among]

/-! ## Valid predicates -/

/-- On columns that fit a specification, a predicate that is valid for it evaluates to its
meaning, and so does every other arrangement of it. -/
theorem eval_meaning {ι σ : Type} (s : Specification ι σ) (hp : p.validate s.catalog = .ok ())
    (hc : s.checkColumns c = .ok ()) :
    (∃ b, p.eval c = .ok b ∧ (b = true ↔ p.Holds c)) ∧
      ∀ q, Rearranged p q → q.eval c = p.eval c := by
  have hmeaning (q : Predicate) (hq : q.validate s.catalog = .ok ()) :
      ∃ b, q.eval c = .ok b ∧ (b = true ↔ q.Holds c) := by
    obtain ⟨b, hb⟩ := q.eval_ok (s.types_of_checkColumns hc) hq
    exact ⟨b, hb, q.eq_true_iff_holds hb⟩
  refine ⟨hmeaning p hp, fun q hpq => ?_⟩
  have hvalid : p.validate s.catalog = .ok () ↔ q.validate s.catalog = .ok () :=
    hpq.congr (G := fun p => p.validate s.catalog = .ok ()) (validate_join_eq_ok_iff s.catalog)
  have hholds : p.Holds c ↔ q.Holds c := hpq.congr (f := id) (holds_join c)
  obtain ⟨b, hb, hbp⟩ := hmeaning p hp
  obtain ⟨b', hb', hbq⟩ := hmeaning q (hvalid.1 hp)
  rw [hb, hb', Bool.eq_iff_iff.2 (hbq.trans (hholds.symm.trans hbp.symm))]

/-- Parcels with a weight and perhaps a note. -/
def parcelSpecification : Specification Nat Unit where
  recordType := "post.Parcel"
  system := [archivedColumn]
  state := [⟨"weight", .int, fun _ => .int 0⟩, ⟨"note", .text, fun _ => .null⟩]
  distinct := by decide

def light : Predicate := .compare "weight" .lessThan (.int 20)

def fragile : Predicate := .compare "note" .equal (.text "fragile")

def unmarked : Predicate := .compare "note" .equal .null

/-- A parcel that is light and has no note. -/
def plainParcel : Columns := .ofList [(archivedName, .bool false), ("weight", .int 12)]

/-- Light parcels that are fragile or unmarked, arranged in two ways. -/
theorem eval_meaning_parcel :
    (all [light, either [fragile, unmarked]]).validate parcelSpecification.catalog = .ok () ∧
      parcelSpecification.checkColumns plainParcel = .ok () ∧
      (all [light, either [fragile, unmarked]]).eval plainParcel = .ok true ∧
      (all [light, either [fragile, unmarked]]).Holds plainParcel ∧
      (all [light, all [either [unmarked, fragile], light]]).eval plainParcel = .ok true := by
  have hvalid :
      (all [light, either [fragile, unmarked]]).validate parcelSpecification.catalog = .ok () := rfl
  have hfits : parcelSpecification.checkColumns plainParcel = .ok () := rfl
  have htrue : (all [light, either [fragile, unmarked]]).eval plainParcel = .ok true := rfl
  have hinner : Rearranged (all [light, either [fragile, unmarked]])
      (all [light, either [unmarked, fragile]]) :=
    .part .all [light] [] (.reorder .either (List.Perm.swap _ _ []))
  have hrepeated : Rearranged (all [light, either [unmarked, fragile]])
      (all [light, either [unmarked, fragile], light]) :=
    .trans (.symm (.duplicate .all (.head _))) (.reorder .all (.cons _ (List.Perm.swap _ _ [])))
  have hgathered : Rearranged (all [light, either [unmarked, fragile], light])
      (all [light, all [either [unmarked, fragile], light]]) :=
    .symm (.nest .all [light] [either [unmarked, fragile], light] [])
  obtain ⟨⟨b, hb, hmeaning⟩, harranged⟩ := eval_meaning parcelSpecification hvalid hfits
  obtain rfl := Except.ok.inj (hb.symm.trans htrue)
  refine ⟨hvalid, hfits, htrue, hmeaning.1 rfl, ?_⟩
  rw [harranged _ (hinner.trans (hrepeated.trans hgathered)), htrue]

end Predicate

end Switchboard.Records
