import Mathlib
import Switchboard.Proofs.Records.Reordering
import Switchboard.Proofs.Records.Validation

/-!
# What a query sees of a record

A query reads a record under the names that it mentions, in its predicate at any depth or as sort
keys, and a name that the record does not have reads as null.  Two column maps that read alike
under these names cannot be told apart by the query (`Mention.Alike`).  The predicate comes to
the same on both, truth value or failure, and both are before, after or level with the same maps.

So a query commutes with every change of records that leaves them alike (`Query.apply_map`).
Identities and payloads may even change their types.  From this it follows that what a query
finds in two lists of records that are alike, position by position, stands at the same
positions, or it fails alike (`Query.apply_seen`).  Positions are told apart by numbering the
records (`Query.positions`), so equal records at different positions are not mixed up.
-/

namespace Switchboard.Records

/-! ## Column maps that read alike -/

/-- Two column maps read alike under every name that is mentioned. -/
def Mention.Alike (ms : List Mention) (c c' : Columns) : Prop :=
  ∀ m ∈ ms, c.value m.column = c'.value m.column

instance (ms : List Mention) (c c' : Columns) : Decidable (Mention.Alike ms c c') :=
  inferInstanceAs (Decidable (∀ m ∈ ms, c.value m.column = c'.value m.column))

theorem Mention.alike_append {ms ns : List Mention} {c c' : Columns} :
    Alike (ms ++ ns) c c' ↔ Alike ms c c' ∧ Alike ns c c' :=
  List.forall_mem_append

/-- A map without its null entries. -/
def Columns.withoutNulls (c : Columns) : Columns := c.filter fun _ v => !v.isNull

/-- To hold null is to hold nothing. -/
theorem Columns.value_withoutNulls (c : Columns) (name : ColumnName) :
    c.withoutNulls.value name = c.value name := by
  rw [value, value, withoutNulls, get?_filter]
  cases c.get? name with
  | none => rfl
  | some v =>
      cases v with
      | null => rfl
      | _ => rfl

def Record.withoutNulls {ι ρ : Type} (r : Record ι ρ) : Record ι ρ :=
  { r with columns := r.columns.withoutNulls }

namespace Predicate

variable {c c' : Columns}

mutual

/-- A predicate comes to the same on column maps that read alike. -/
theorem eval_congr : ∀ p : Predicate, Mention.Alike p.mentions c c' → p.eval c = p.eval c'
  | const b, _ => by rw [eval, eval]
  | compare column o v, h => by
      have hvalue := h ⟨column, some v⟩ (by rw [mentions]; exact List.mem_singleton_self _)
      rw [eval, eval, hvalue]
  | all ps, h => by
      rw [mentions] at h
      rw [eval, eval, evalAll_congr ps h]
  | either ps, h => by
      rw [mentions] at h
      rw [eval, eval, evalEither_congr ps h]

theorem evalAll_congr :
    ∀ ps : List Predicate, Mention.Alike (mentionsEach ps) c c' → evalAll c ps = evalAll c' ps
  | [], _ => by rw [evalAll, evalAll]
  | p :: ps, h => by
      rw [mentionsEach, Mention.alike_append] at h
      rw [evalAll, evalAll, eval_congr p h.1, evalAll_congr ps h.2]

theorem evalEither_congr :
    ∀ ps : List Predicate, Mention.Alike (mentionsEach ps) c c' → evalEither c ps = evalEither c' ps
  | [], _ => by rw [evalEither, evalEither]
  | p :: ps, h => by
      rw [mentionsEach, Mention.alike_append] at h
      rw [evalEither, evalEither, eval_congr p h.1, evalEither_congr ps h.2]

end

end Predicate

/-- Sort keys compare column maps that read alike in the same way. -/
theorem OrderBy.orderAll_congr {ks : List OrderBy} {a a' b b' : Columns}
    (ha : ∀ k ∈ ks, a.value k.column = a'.value k.column)
    (hb : ∀ k ∈ ks, b.value k.column = b'.value k.column) :
    orderAll ks a b = orderAll ks a' b' := by
  induction ks with
  | nil => rfl
  | cons k ks ih =>
      obtain ⟨hak, ha⟩ := List.forall_mem_cons.1 ha
      obtain ⟨hbk, hb⟩ := List.forall_mem_cons.1 hb
      rw [orderAll, orderAll, order, order, hak, hbk, ih ha hb]

/-! ## Changes that a query does not see -/

namespace Query

variable {ι ι' ρ ρ' : Type} {q : Query} {rs found : List (Record ι ρ)} {rs' : List (Record ι' ρ')}

theorem alike_mentions_iff {c c' : Columns} :
    Mention.Alike q.mentions c c' ↔
      Mention.Alike q.predicate.mentions c c' ∧
        ∀ k ∈ q.orderBy, c.value k.column = c'.value k.column := by
  rw [mentions, Mention.alike_append, Mention.Alike, Mention.Alike, List.forall_mem_map]

/-- What a query finds is among the records, and as often at most. -/
theorem subperm_of_apply (h : q.apply rs = .ok found) : found.Subperm rs :=
  (sublist_of_apply h).subperm.trans
    ((sortBy_perm _ _).subperm.trans List.filter_sublist.subperm)

section

variable {f : Record ι ρ → Record ι' ρ'}

theorem select_map {p : Predicate} (h : ∀ r ∈ rs, p.eval (f r).columns = p.eval r.columns) :
    select p (rs.map f) = (select p rs).map (List.map f) := by
  induction rs with
  | nil => rfl
  | cons r rs ih =>
      obtain ⟨hr, hrs⟩ := List.forall_mem_cons.1 h
      rw [List.map_cons, select, select, hr, ih hrs]
      cases p.eval r.columns with
      | error e => rfl
      | ok keep =>
          cases select p rs with
          | error e => rfl
          | ok kept => cases keep <;> rfl

theorem sortBy_map {ks : List OrderBy}
    (h : ∀ r ∈ rs, ∀ k ∈ ks, r.columns.value k.column = (f r).columns.value k.column) :
    sortBy ks (rs.map f) = (sortBy ks rs).map f :=
  (List.map_mergeSort fun a ha b hb =>
    congrArg Ordering.isLE (OrderBy.orderAll_congr (h a ha) (h b hb))).symm

theorem truncate_map (limit : Option UInt64) (rs : List (Record ι ρ)) :
    truncate limit (rs.map f) = (truncate limit rs).map f := by
  cases limit with
  | none => rfl
  | some n => exact List.map_take.symm

/-- A query commutes with a change of records that leaves them alike. -/
theorem apply_map (h : ∀ r ∈ rs, Mention.Alike q.mentions r.columns (f r).columns) :
    q.apply (rs.map f) = (q.apply rs).map (List.map f) := by
  have heval (r : Record ι ρ) (hr : r ∈ rs) :
      q.predicate.eval (f r).columns = q.predicate.eval r.columns :=
    (q.predicate.eval_congr (alike_mentions_iff.1 (h r hr)).1).symm
  rw [apply, apply, select_map heval]
  cases hselect : select q.predicate rs with
  | error e => rfl
  | ok kept =>
      have hkept : kept ⊆ rs := by
        rw [select_of_evaluates (evaluates_of_select hselect)] at hselect
        exact Except.ok.inj hselect ▸ List.filter_sublist.subset
      have hkeys (r : Record ι ρ) (hr : r ∈ kept) := (alike_mentions_iff.1 (h r (hkept hr))).2
      show Except.ok (truncate q.limit (sortBy q.orderBy (kept.map f))) = _
      rw [sortBy_map hkeys, truncate_map]
      rfl

end

/-- Two outcomes are the same failure, or lists whose members are related one by one. -/
inductive Related (R : Record ι ρ → Record ι' ρ' → Prop) :
    Except QueryError (List (Record ι ρ)) → Except QueryError (List (Record ι' ρ')) → Prop where
  | failed (e : QueryError) : Related R (.error e) (.error e)
  | found {found : List (Record ι ρ)} {found' : List (Record ι' ρ')} :
      List.Forall₂ R found found' → Related R (.ok found) (.ok found')

/-- What is made of related lists in the same way is made of related outcomes in the same way. -/
theorem Related.map_eq {κ : Type} {R : Record ι ρ → Record ι' ρ' → Prop}
    {outcome : Except QueryError (List (Record ι ρ))}
    {outcome' : Except QueryError (List (Record ι' ρ'))} (h : Related R outcome outcome')
    {f : List (Record ι ρ) → κ} {g : List (Record ι' ρ') → κ}
    (hfg : ∀ found found', List.Forall₂ R found found' → f found = g found') :
    outcome.map f = outcome'.map g := by
  cases h with
  | failed e => rfl
  | found hfound => exact congrArg Except.ok (hfg _ _ hfound)

/-- A query on records that are alike one by one finds records that are related in the same way,
whatever else the relation says. -/
theorem related_apply {R : Record ι ρ → Record ι' ρ' → Prop} (h : List.Forall₂ R rs rs')
    (hR : ∀ r r', R r r' → Mention.Alike q.mentions r.columns r'.columns) :
    Related R (q.apply rs) (q.apply rs') := by
  -- the list of pairs, with the columns of the left sides
  let pair (x : Record ι ρ × Record ι' ρ') : Record Unit (Record ι ρ × Record ι' ρ') :=
    ⟨(), x, x.1.columns⟩
  let pairs := (rs.zip rs').map pair
  have hlength := h.length_eq
  have hpairs : ∀ x ∈ pairs, R x.payload.1 x.payload.2 ∧ x.columns = x.payload.1.columns :=
    List.forall_mem_map.2 fun x hx => ⟨(List.forall₂_iff_zip.1 h).2 hx, rfl⟩
  have hleft : pairs.map (fun x => x.payload.1) = rs := by
    rw [List.map_map]
    exact List.map_fst_zip hlength.le
  have hright : pairs.map (fun x => x.payload.2) = rs' := by
    rw [List.map_map]
    exact List.map_snd_zip hlength.ge
  have hrs : q.apply (pairs.map fun x => x.payload.1) =
      (q.apply pairs).map (List.map fun x => x.payload.1) :=
    apply_map fun x hx m _ => by rw [(hpairs x hx).2]
  have hrs' : q.apply (pairs.map fun x => x.payload.2) =
      (q.apply pairs).map (List.map fun x => x.payload.2) :=
    apply_map fun x hx => (hpairs x hx).2 ▸ hR _ _ (hpairs x hx).1
  rw [hleft] at hrs
  rw [hright] at hrs'
  rw [hrs, hrs']
  cases happly : q.apply pairs with
  | error e => exact .failed e
  | ok found =>
      refine .found (List.forall₂_map_left_iff.2 (List.forall₂_map_right_iff.2 ?_))
      exact List.forall₂_same.2 fun x hx => (hpairs x ((subperm_of_apply happly).subset hx)).1

/-! ## Positions -/

/-- The columns of records, numbered by position. -/
def numbered (rs : List (Record ι ρ)) : List (Record Nat Unit) :=
  rs.zipIdx.map fun x => ⟨x.2, (), x.1.columns⟩

/-- Where the records that a query finds stand, in the order of the answer. -/
def positions (q : Query) (rs : List (Record ι ρ)) : Except QueryError (List Nat) :=
  (q.apply (numbered rs)).map (List.map Record.id)

def recordsAt (rs : List (Record ι ρ)) (is : List Nat) : List (Record ι ρ) :=
  is.filterMap fun i => rs[i]?

theorem map_id_numbered (rs : List (Record ι ρ)) :
    (numbered rs).map Record.id = List.range rs.length := by
  rw [numbered, List.map_map, List.range_eq_range']
  exact List.zipIdx_map_snd 0 rs

/-- A query finds the records at its positions. -/
theorem apply_eq (q : Query) (rs : List (Record ι ρ)) :
    q.apply rs = (q.positions rs).map (recordsAt rs) := by
  have hnumbered : List.Forall₂ (fun x r => rs[x.id]? = some r ∧ x.columns = r.columns)
      (numbered rs) rs := by
    refine List.forall₂_iff_get.2 ⟨by simp [numbered], fun i _ hi => ?_⟩
    simp [numbered, hi]
  have hrelated := related_apply (q := q) hnumbered fun x r h m hm => by rw [h.2]
  have hrecords := hrelated.map_eq (f := fun found => recordsAt rs (found.map Record.id)) (g := id)
    fun found found' hfound => by
      induction hfound with
      | nil => rfl
      | cons h _ ih =>
          rw [List.map_cons, recordsAt, List.filterMap_cons_some h.1]
          exact congrArg (_ :: ·) ih
  calc q.apply rs = (q.apply rs).map id := congrFun Except.map_id.symm _
    _ = (q.apply (numbered rs)).map fun found => recordsAt rs (found.map Record.id) :=
      hrecords.symm
    _ = (q.positions rs).map (recordsAt rs) :=
      comp_map (List.map Record.id) (recordsAt rs) (q.apply (numbered rs))

/-- Records that are alike one by one are found at the same positions. -/
theorem positions_eq
    (h : List.Forall₂ (fun r r' => Mention.Alike q.mentions r.columns r'.columns) rs rs') :
    q.positions rs = q.positions rs' := by
  have hnumbered : List.Forall₂
      (fun x y => x.id = y.id ∧ Mention.Alike q.mentions x.columns y.columns)
      (numbered rs) (numbered rs') := by
    obtain ⟨hlength, hget⟩ := List.forall₂_iff_get.1 h
    refine List.forall₂_iff_get.2 ⟨by simp [numbered, hlength], fun i hi hi' => ?_⟩
    simp only [numbered, List.length_map, List.length_zipIdx] at hi hi'
    simpa [numbered] using hget i hi hi'
  refine (related_apply (q := q) hnumbered fun x y h => h.2).map_eq fun found found' hfound => ?_
  exact List.forall₂_eq_eq_eq ▸ List.forall₂_map_left_iff.2
    (List.forall₂_map_right_iff.2 (hfound.imp fun x y h => h.1))

/-- No position is found twice, and all of them are positions of the list. -/
theorem positions_distinct {is : List Nat} (h : q.positions rs = .ok is) :
    is.Nodup ∧ ∀ i ∈ is, i < rs.length := by
  rw [positions] at h
  cases happly : q.apply (numbered rs) with
  | error e =>
      rw [happly] at h
      cases h
  | ok found =>
      rw [happly] at h
      obtain rfl := Except.ok.inj h
      obtain ⟨kept, hperm, hsublist⟩ := subperm_of_apply happly
      have hids := map_id_numbered rs ▸ hsublist.map Record.id
      have hfound := hperm.map Record.id
      exact ⟨hfound.nodup_iff.1 (hids.nodup List.nodup_range), fun i hi =>
        List.mem_range.1 (hids.subset (hfound.mem_iff.2 hi))⟩

/-- A query sees nothing of records but the values under the names that it mentions.  If two lists
of records are alike in this, position by position, then the query finds the same positions in
both, in the same order, or fails alike.  In particular a null value may be left out. -/
theorem apply_seen (q : Query) {rs : List (Record ι ρ)} {rs' : List (Record ι' ρ')}
    (h : List.Forall₂ (fun r r' => Mention.Alike q.mentions r.columns r'.columns) rs rs') :
    q.positions rs = q.positions rs' ∧
      q.apply rs = (q.positions rs).map (recordsAt rs) ∧
      q.apply rs' = (q.positions rs).map (recordsAt rs') ∧
      (∀ is, q.positions rs = .ok is → is.Nodup ∧ ∀ i ∈ is, i < rs.length) ∧
      q.positions (rs.map Record.withoutNulls) = q.positions rs := by
  have hsame := positions_eq h
  have hnulls : List.Forall₂ (fun r r' => Mention.Alike q.mentions r.columns r'.columns)
      (rs.map Record.withoutNulls) rs :=
    List.forall₂_map_left_iff.2 (List.forall₂_same.2 fun r _ m _ => r.columns.value_withoutNulls _)
  exact ⟨hsame, apply_eq q rs, hsame ▸ apply_eq q rs', fun is => positions_distinct,
    positions_eq hnulls⟩

def unlabelled : List (Record Nat Unit) :=
  [⟨1, (), .ofList [("zone", .int 2), (archivedName, .bool false)]⟩,
    ⟨2, (), .ofList [("price", .int 9), (archivedName, .bool false)]⟩,
    ⟨3, (), .ofList [("zone", .int 0), (archivedName, .bool true)]⟩]

/-- The same parcels with other identities and payloads, with weights, and with nulls in place of
what is missing. -/
def labelled : List (Record String String) :=
  [⟨"b", "to Ada", .ofList [("zone", .int 2), ("price", .null), (archivedName, .bool false)]⟩,
    ⟨"a", "to Bob", .ofList [("zone", .null), ("price", .int 9), (archivedName, .bool false)]⟩,
    ⟨"a", "to Eve", .ofList [("zone", .int 0), (archivedName, .bool true), ("weight", .int 1)]⟩]

theorem apply_seen_parcels :
    List.Forall₂ (fun r r' => Mention.Alike nearest.mentions r.columns r'.columns)
        unlabelled labelled ∧
      nearest.positions unlabelled = .ok [1, 0] ∧
      nearest.apply labelled = .ok (recordsAt labelled [1, 0]) := by
  have halike : List.Forall₂
      (fun r r' => Mention.Alike nearest.mentions r.columns r'.columns) unlabelled labelled := by
    decide
  have hpositions : nearest.positions unlabelled = .ok [1, 0] := by cbv
  obtain ⟨-, -, hlabelled, -⟩ := apply_seen nearest halike
  exact ⟨halike, hpositions, by rw [hlabelled, hpositions]; rfl⟩

end Query

end Switchboard.Records
