import Switchboard.Proofs.Forms.Lossless
import Switchboard.Records.Query

/-!
# Forms of records and queries

Column values, predicates of any nesting, queries and records of entities are read back from
their JSON values, and so are envelopes (`forms_lossless`).

*Column values.*  A value other than null is written with the name of its type, and the payload
is read as a value of that type.  No type is called null, so null needs no payload.

*Column maps.*  The entries are written in the order of their names.  Each is put in after the
ones before it, so the map that is read has them in the same order (`Columns.ofList_entries`).

*Predicates.*  The single field of a predicate names its form.  Only conjunctions and
disjunctions have a list under that name, so a comparison is not taken for one of them.

An instant is read back if it is plain, so a value or a predicate that has instants in it is
plain if they are.
-/

namespace Switchboard.Records

/-! ## Column values -/

theorem ColumnType.decode_encode (t : ColumnType) : decode (encode t) = some t := by
  cases t <;> rfl

/-- No type is called null. -/
theorem ColumnType.name_ne_null (t : ColumnType) : t.name ≠ "null" := by
  cases t <;> decide

namespace ColumnValue

/-- A value is plain unless it is an instant that is not. -/
def Plain (v : ColumnValue) : Prop := ∀ t, v = timestamp t → t.Plain

/-- A payload is read as a value of the type that is written with it. -/
theorem decode_tagged {t : ColumnType} {payload : Json} {v : ColumnValue}
    (h : ofPayload? t payload = some v) : decode (tagged t payload) = some v := by
  have hfields : (tagged t payload).record? ["type", "value"] =
      some [some (encode t), some payload] :=
    Json.record?_object [("type", encode t), ("value", payload)] (by simp) (by simp)
  have hvalued : (encode t).choice? ≠ some "null" := fun hnull =>
    t.name_ne_null (Option.some.inj hnull)
  refine Option.bind_eq_some_iff.2 ⟨_, hfields, ?_⟩
  show (if (encode t).choice? = some "null" then _ else _) = some v
  rw [if_neg hvalued]
  exact Option.bind_eq_some_iff.2 ⟨t, t.decode_encode, h⟩

/-- A value is read back from its JSON value. -/
theorem decode_encode {v : ColumnValue} (h : v.Plain) : decode (encode v) = some v := by
  cases v with
  | null => rfl
  | bool b => exact decode_tagged rfl
  | int n =>
      refine decode_tagged ?_
      rw [ofPayload?, decode_encode_int64, Option.map_some]
  | text s => exact decode_tagged rfl
  | timestamp t =>
      refine decode_tagged ?_
      rw [ofPayload?, Timestamp.decode_encode (h t rfl), Option.map_some]
  | uuid u =>
      refine decode_tagged ?_
      rw [ofPayload?, Uuid.decode_encode, Option.map_some]

end ColumnValue

/-! ## Column maps -/

/-- An entry whose name comes last is put at the end. -/
theorem insertEntry_of_last {name : ColumnName} {v : ColumnValue}
    {es : List (ColumnName × ColumnValue)} (h : ∀ e ∈ es, e.1 < name) :
    insertEntry name v es = es ++ [(name, v)] := by
  induction es with
  | nil => rfl
  | cons e es ih =>
      have he : e.1 < name := h e List.mem_cons_self
      have hnot : ¬ name < e.1 := fun h => String.lt_irrefl _ (String.lt_trans he h)
      have hne : name ≠ e.1 := fun heq => String.lt_irrefl _ (heq ▸ he)
      rw [insertEntry, if_neg hnot, if_neg hne, ih fun e he => h e (List.mem_cons_of_mem _ he),
        List.cons_append]

namespace Columns

theorem entries_foldl_insert {es : List (ColumnName × ColumnValue)} {c : Columns}
    (h : (c.entries ++ es).Pairwise fun a b => a.1 < b.1) :
    (es.foldl (fun c e => c.insert e.1 e.2) c).entries = c.entries ++ es := by
  induction es generalizing c with
  | nil => exact (List.append_nil _).symm
  | cons e es ih =>
      have hlast : ∀ e' ∈ c.entries, e'.1 < e.1 := fun e' he' =>
        (List.pairwise_append.1 h).2.2 e' he' e List.mem_cons_self
      have hentries : (c.insert e.1 e.2).entries = c.entries ++ [e] := insertEntry_of_last hlast
      rw [List.append_cons, ← hentries] at h
      rw [List.foldl_cons, ih h, hentries, List.append_assoc, List.singleton_append]

/-- A map is the map of its entries. -/
theorem ofList_entries (c : Columns) : ofList c.entries = c := by
  obtain ⟨es, hes⟩ := c
  have h : (ofList es).entries = es := entries_foldl_insert (c := empty) hes
  exact (Columns.mk.injEq _ _ _ _).mpr h

/-- A map is plain if every value in it is. -/
def Plain (c : Columns) : Prop := ∀ e ∈ c.entries, e.2.Plain

theorem decode_encode {c : Columns} (h : c.Plain) : decode (encode c) = some c := by
  have hentries : (c.entries.map fun e : ColumnName × ColumnValue => (e.1, encode e.2)).mapM
      (fun f : String × Json => (decode f.2).map fun v => (f.1, v)) =
        some (c.entries.map id) := by
    refine mapM_map_eq_some fun e he => ?_
    rw [ColumnValue.decode_encode (h e he), Option.map_some, id]
  rw [List.map_id] at hentries
  exact Option.map_eq_some_iff.2 ⟨c.entries, hentries, c.ofList_entries⟩

end Columns

/-! ## Predicates -/

namespace Predicate

/-- A predicate is plain if every constant in it is. -/
def Plain : Predicate → Prop
  | const _ => True
  | compare _ _ v => v.Plain
  | all ps => ∀ p ∈ ps, p.Plain
  | either ps => ∀ p ∈ ps, p.Plain

theorem decodeCompare_encodeCompare {column : ColumnName} {o : Operator} {v : ColumnValue}
    (h : v.Plain) : decodeCompare (encodeCompare column o v) = some (compare column o v) := by
  have hfields : (encodeCompare column o v).record? ["column", "operator", "value"] =
      some [some (.text column), some (encode o), some (encode v)] :=
    Json.record?_object [("column", .text column), ("operator", encode o), ("value", encode v)]
      (by simp) (by simp)
  have ho : decode (encode o) = some o := by cases o <;> rfl
  simp [decodeCompare, hfields, Json.text?, ho, ColumnValue.decode_encode h]

theorem ofJsonEach?_toJsonEach {ps : List Predicate}
    (h : ∀ p ∈ ps, ofJson? (toJson p) = some p) : ofJsonEach? (toJsonEach ps) = some ps := by
  induction ps with
  | nil => rfl
  | cons p ps ih =>
      rw [toJsonEach, ofJsonEach?, h p List.mem_cons_self,
        ih fun p hp => h p (List.mem_cons_of_mem _ hp)]
      rfl

/-- A predicate is read back from its JSON value, whatever its nesting. -/
theorem ofJson?_toJson : ∀ {p : Predicate}, p.Plain → ofJson? (toJson p) = some p
  | const b, _ => rfl
  | compare column o v, h => by
      rw [Plain] at h
      -- The fields of a comparison are an object, so no form with a list applies.
      have hfields : ofJson? (toJson (compare column o v)) =
          decodeCompare (encodeCompare column o v) := by
        simp [toJson, encodeCompare, ofJson?]
      rw [hfields, decodeCompare_encodeCompare h]
  | all ps, h => by
      rw [Plain] at h
      rw [toJson, ofJson?, if_pos rfl, ofJsonEach?_toJsonEach fun p hp => ofJson?_toJson (h p hp),
        Option.map_some]
  | either ps, h => by
      rw [Plain] at h
      rw [toJson, ofJson?, if_neg (by decide), if_pos rfl,
        ofJsonEach?_toJsonEach fun p hp => ofJson?_toJson (h p hp), Option.map_some]

end Predicate

/-! ## Queries -/

theorem OrderBy.decode_encode (k : OrderBy) : decode (encode k) = some k := by
  have hfields : (encode k).record? ["column", "direction"] =
      some [some (encode k.column), some (encode k.direction)] :=
    Json.record?_object [("column", encode k.column), ("direction", encode k.direction)]
      (by simp) (by simp)
  have hdirection : decode (encode k.direction) = some k.direction := by
    cases k.direction <;> rfl
  refine Option.bind_eq_some_iff.2 ⟨_, hfields, ?_⟩
  simp [hdirection]

theorem Query.decode_encode {q : Query} (h : q.predicate.Plain) : decode (encode q) = some q := by
  have hfields : (encode q).record? ["predicate", "order_by", "limit"] =
      some [some (encode q.predicate), some (encode q.orderBy), some (encode q.limit)] :=
    Json.record?_object
      [("predicate", encode q.predicate), ("order_by", encode q.orderBy),
        ("limit", encode q.limit)]
      (by simp) (by simp)
  have hpredicate : decode (encode q.predicate) = some q.predicate := Predicate.ofJson?_toJson h
  have horder : decode (encode q.orderBy) = some q.orderBy :=
    decode_encode_list fun k _ => OrderBy.decode_encode k
  have hlimit : Json.optional? (some (encode q.limit)) = some q.limit :=
    decode_encode_option (fun _ h => by cases h) fun n _ => decode_encode_uint64 n
  refine Option.bind_eq_some_iff.2 ⟨_, hfields, ?_⟩
  simp [hpredicate, horder, hlimit]

/-! ## Records -/

/-- A snapshot is read back if its state is. -/
theorem Snapshot.decode_encode {σ : Type} [Form σ] {s : Snapshot σ}
    (h : decode (encode s.state) = some s.state) : decode (encode s) = some s := by
  have hfields : (encode s).record? ["state", "version", "lifecycle"] =
      some [some (encode s.state), some (encode s.version), some (encode s.lifecycle)] :=
    Json.record?_object
      [("state", encode s.state), ("version", encode s.version),
        ("lifecycle", encode s.lifecycle)]
      (by simp) (by simp)
  refine Option.bind_eq_some_iff.2 ⟨_, hfields, ?_⟩
  simp [h]

/-- A record is read back if its identity and its payload are. -/
theorem Record.decode_encode {ι ρ : Type} [Form ι] [Form ρ] {r : Record ι ρ}
    (hid : decode (encode r.id) = some r.id) (hpayload : decode (encode r.payload) = some r.payload)
    (hcolumns : r.columns.Plain) : decode (encode r) = some r := by
  have hfields : (encode r).record? ["id", "record", "columns"] =
      some [some (encode r.id), some (encode r.payload), some (encode r.columns)] :=
    Json.record?_object
      [("id", encode r.id), ("record", encode r.payload), ("columns", encode r.columns)]
      (by simp) (by simp)
  refine Option.bind_eq_some_iff.2 ⟨_, hfields, ?_⟩
  simp [hid, hpayload, Columns.decode_encode hcolumns]

/-! ## All forms -/

/-- The forms of column values, predicates, queries, records of entities and envelopes are
lossless.  Instants have to be plain.  The identity and the state of an entity, and the message
of an envelope, have forms of their own, by which they have to be read back. -/
theorem forms_lossless :
    Lossless ColumnValue.Plain ∧ Lossless Predicate.Plain ∧
      Lossless (fun q : Query => q.predicate.Plain) ∧
      (∀ {ι σ : Type} [Form ι] [Form σ], Lossless fun r : Record ι (Snapshot σ) =>
        decode (encode r.id) = some r.id ∧
          decode (encode r.payload.state) = some r.payload.state ∧ r.columns.Plain) ∧
      (∀ {μ : Type} [Form μ], Lossless fun e : Envelope μ =>
        decode (encode e.message) = some e.message ∧ e.postedAt.Plain) := by
  refine ⟨.of_decode_encode fun _ => ColumnValue.decode_encode,
    .of_decode_encode fun _ => Predicate.ofJson?_toJson,
    .of_decode_encode fun _ => Query.decode_encode, ?_, ?_⟩
  · intro ι σ _ _
    refine .of_decode_encode fun r ⟨hid, hstate, hcolumns⟩ => ?_
    exact Record.decode_encode hid (Snapshot.decode_encode hstate) hcolumns
  · intro μ _
    exact .of_decode_encode fun e ⟨hmessage, hposted⟩ => Envelope.decode_encode hmessage hposted

theorem plain_epoch : Timestamp.epoch.Plain := ⟨by decide, by decide, by decide⟩

/-- What was not sent before the epoch, or is marked as lost. -/
def sentOrLost : Predicate :=
  .either [.compare "sent" .greaterOrEqual (.timestamp .epoch), .all [.compare "lost" .equal .null]]

theorem plain_sentOrLost : sentOrLost.Plain := by
  simp [sentOrLost, Predicate.Plain, ColumnValue.Plain, plain_epoch]

/-- A parcel with its sender. -/
def sentParcel : Record String (Snapshot Bool) :=
  ⟨"parcel", ⟨true, 3, {}⟩, .ofList [("sender", .uuid .zero), ("sent", .timestamp .epoch)]⟩

/-- A query, a record and an envelope that are read back. -/
theorem forms_lossless_parcels :
    decode (encode sentOrLost) = some sentOrLost ∧
      decode (encode (Query.matching sentOrLost)) = some (Query.matching sentOrLost) ∧
      decode (encode sentParcel) = some sentParcel ∧
      decode (encode (Envelope.wrap default default)) = some (Envelope.wrap default default) := by
  have hentries : sentParcel.columns.entries =
      [("sender", .uuid .zero), ("sent", .timestamp .epoch)] := by decide
  have hcolumns : sentParcel.columns.Plain := by
    simp [Columns.Plain, hentries, ColumnValue.Plain, plain_epoch]
  obtain ⟨-, hpredicate, hquery, hrecord, henvelope⟩ := forms_lossless
  exact ⟨hpredicate.decode_encode _ plain_sentOrLost, hquery.decode_encode _ plain_sentOrLost,
    hrecord.decode_encode _ ⟨rfl, rfl, hcolumns⟩,
    henvelope.decode_encode _ ⟨Message.decode_encode _, plain_epoch⟩⟩

end Switchboard.Records
