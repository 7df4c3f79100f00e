import Switchboard.Envelope
import Switchboard.Lifecycle
import Switchboard.Proofs.Forms.TimestampText
import Switchboard.Proofs.Forms.UuidText

/-!
# Lossless forms

A form is *lossless* on some values when each of them is read back from its JSON value.  Then
different ones have different JSON values (`Lossless.of_decode_encode`).

*Records.*  The fields of a record have different names, so each of them is found once, in
whatever order they are written (`Json.record?_object`).  A record is then read back as soon as
the value of every field is.

*Missing values.*  A value that is missing is written as null, so the values that may be missing
must not be written so themselves (`decode_encode_option`).

Everything but instants is read back without a condition.  A form over another type, such as that
of envelopes, needs that the value of the other type is read back.
-/

namespace Switchboard

/-- Whether the values of a kind are read back, so that different ones are written differently. -/
structure Lossless {α : Type} [Form α] (P : α → Prop) : Prop where
  decode_encode : ∀ a, P a → decode (encode a) = some a
  encode_injective : ∀ a b, P a → P b → encode a = encode b → a = b

/-- Values that are read back are written differently. -/
theorem Lossless.of_decode_encode {α : Type} [Form α] {P : α → Prop}
    (h : ∀ a, P a → decode (encode a) = some a) : Lossless P where
  decode_encode := h
  encode_injective a b ha hb heq := by
    have hread : some a = some b := by rw [← h a ha, heq, h b hb]
    exact Option.some.inj hread

/-- A list that was written item by item is read if every item is. -/
theorem mapM_map_eq_some {α β γ : Type} {write : α → β} {read : β → Option γ} {f : α → γ}
    {as : List α} (h : ∀ a ∈ as, read (write a) = some (f a)) :
    (as.map write).mapM read = some (as.map f) := by
  induction as with
  | nil => rfl
  | cons a as ih =>
      rw [List.map_cons, List.mapM_cons, h a List.mem_cons_self,
        ih fun b hb => h b (List.mem_cons_of_mem _ hb)]
      rfl

/-! ## Fields of records -/

namespace Json

theorem valuesOf_cons_of_eq {fields : List (String × Json)} (name : String) (j : Json) :
    valuesOf name ((name, j) :: fields) = j :: valuesOf name fields := by
  simp [valuesOf]

theorem valuesOf_cons_of_ne {fields : List (String × Json)} {name : String} {f : String × Json}
    (h : f.1 ≠ name) : valuesOf name (f :: fields) = valuesOf name fields := by
  simp [valuesOf, h]

theorem valuesOf_of_not_mem {fields : List (String × Json)} {name : String}
    (h : name ∉ fields.map Prod.fst) : valuesOf name fields = [] := by
  induction fields with
  | nil => rfl
  | cons f fields ih =>
      rw [List.map_cons, List.mem_cons, not_or] at h
      rw [valuesOf_cons_of_ne (Ne.symm h.1), ih h.2]

/-- A field is found under its name if no other field has the name. -/
theorem valuesOf_of_mem {fields : List (String × Json)} {name : String} {j : Json}
    (hnames : (fields.map Prod.fst).Nodup) (h : (name, j) ∈ fields) :
    valuesOf name fields = [j] := by
  induction fields with
  | nil => cases h
  | cons f fields ih =>
      obtain ⟨hf, hnames⟩ := List.nodup_cons.1 hnames
      rcases List.mem_cons.1 h with rfl | h
      · rw [valuesOf_cons_of_eq, valuesOf_of_not_mem hf]
      · have hname : f.1 ≠ name := fun heq => hf (heq ▸ List.mem_map_of_mem h)
        rw [valuesOf_cons_of_ne hname, ih hnames h]

/-- The fields of an object are found in the order of their declaration, in whatever order they
are written. -/
theorem record?_object {fields : List (String × Json)} (declared : List (String × Json))
    (hnames : (fields.map Prod.fst).Nodup) (h : declared ⊆ fields) :
    (object fields).record? (declared.map Prod.fst) = some (declared.map fun f => some f.2) := by
  refine mapM_map_eq_some fun f hf => ?_
  rw [declared?, valuesOf_of_mem hnames (h hf)]

end Json

/-! ## Plain values -/

@[simp] theorem decode_encode_bool (b : Bool) : decode (encode b) = some b := rfl

@[simp] theorem decode_encode_string (s : String) : decode (encode s) = some s := rfl

@[simp] theorem decode_encode_int64 (n : Int64) : decode (encode n) = some n := by
  have hrange : Int64.minValue.toInt ≤ n.toInt ∧ n.toInt ≤ Int64.maxValue.toInt :=
    ⟨Int64.minValue_le_toInt n, Int64.toInt_le n⟩
  simp only [encode, decode, Json.within?, if_pos hrange, Option.map_some, Int64.ofInt_toInt]

@[simp] theorem decode_encode_uint64 (n : UInt64) : decode (encode n) = some n := by
  have hn : n.toNat < 18446744073709551616 := n.toNat_lt
  have hrange : (0 : Int) ≤ (n.toNat : Int) ∧ (n.toNat : Int) ≤ 18446744073709551615 := by omega
  simp only [encode, decode, Json.within?, if_pos hrange, Option.map_some, Int.toNat_natCast,
    UInt64.ofNat_toNat]

@[simp] theorem Uuid.decode_encode (u : Uuid) : decode (encode u) = some u :=
  Uuid.ofText?_text u

theorem Timestamp.decode_encode {t : Timestamp} (h : t.Plain) : decode (encode t) = some t := by
  simp only [encode, decode, Json.text?, Option.bind_some, Timestamp.ofText?_text h]

/-! ## Lists and missing values -/

theorem decode_encode_list {α : Type} [Form α] {as : List α}
    (h : ∀ a ∈ as, decode (encode a) = some a) : decode (encode as) = some as := by
  have hitems : (as.map encode).mapM decode = some (as.map id) := mapM_map_eq_some h
  rwa [List.map_id] at hitems

theorem decode_option_of_ne_null {α : Type} [Form α] {j : Json} (h : j ≠ .null) :
    (decode j : Option (Option α)) = (decode j).map some := by
  cases j with
  | null => exact absurd rfl h
  | _ => rfl

/-- A value that is never written as null is told apart from a missing one. -/
theorem decode_encode_option {α : Type} [Form α] (hnull : ∀ a : α, encode a ≠ .null)
    {o : Option α} (h : ∀ a, o = some a → decode (encode a) = some a) :
    decode (encode o) = some o := by
  cases o with
  | none => rfl
  | some a => exact (decode_option_of_ne_null (hnull a)).trans (congrArg _ (h a rfl))

/-! ## Lifecycle -/

@[simp] theorem LifecycleFlags.decode_encode (f : LifecycleFlags) : decode (encode f) = some f := by
  have hfields : (encode f).record? ["archived", "deleted"] =
      some [some (encode f.archived), some (encode f.deleted)] :=
    Json.record?_object [("archived", encode f.archived), ("deleted", encode f.deleted)]
      (by simp) (by simp)
  refine Option.bind_eq_some_iff.2 ⟨_, hfields, ?_⟩
  simp

/-! ## Messages -/

@[simp] theorem MessageId.decode_encode (i : MessageId) : decode (encode i) = some i := by
  show (decode (encode i.uuid)).map MessageId.mk = some i
  rw [Uuid.decode_encode, Option.map_some]

@[simp] theorem MessageClass.decode_encode (c : MessageClass) : decode (encode c) = some c := rfl

@[simp] theorem MessageKind.decode_encode (k : MessageKind) : decode (encode k) = some k := by
  cases k <;> rfl

@[simp] theorem Origin.decode_encode (o : Origin) : decode (encode o) = some o := by
  have hfields : (encode o).record? ["message_id", "message_class"] =
      some [some (encode o.id), some (encode o.messageClass)] :=
    Json.record?_object [("message_id", encode o.id), ("message_class", encode o.messageClass)]
      (by simp) (by simp)
  refine Option.bind_eq_some_iff.2 ⟨_, hfields, ?_⟩
  simp

theorem optional?_encode_origin (o : Option Origin) : Json.optional? (some (encode o)) = some o :=
  decode_encode_option (fun _ h => by cases h) fun a _ => Origin.decode_encode a

/-- A message is written with all its fields, so none of their defaults is used. -/
@[simp] theorem Message.decode_encode (m : Message) : decode (encode m) = some m := by
  have hfields : (encode m).openRecord? 2
        ["id", "class", "kind", "origin", "empty", "body", "poison"] =
      some [some (encode m.id), some (encode m.messageClass), some (encode m.kind),
        some (encode m.origin), some (encode m.empty), some (encode m.body),
        some (encode m.fragile)] :=
    Json.record?_object
      [("id", encode m.id), ("class", encode m.messageClass), ("kind", encode m.kind),
        ("origin", encode m.origin), ("empty", encode m.empty), ("body", encode m.body),
        ("poison", encode m.fragile)]
      (by simp) (by simp)
  refine Option.bind_eq_some_iff.2 ⟨_, hfields, ?_⟩
  simp [Json.orElse?, optional?_encode_origin]

/-! ## Envelopes -/

/-- An envelope is read back if its message is. -/
theorem Envelope.decode_encode {μ : Type} [Form μ] {e : Envelope μ}
    (hmessage : decode (encode e.message) = some e.message) (hposted : e.postedAt.Plain) :
    decode (encode e) = some e := by
  have hfields : (encode e).record? ["envelope_id", "message_id", "message_class", "kind",
        "origin", "posted_at", "message"] =
      some [some (encode e.envelopeId), some (encode e.messageId), some (encode e.messageClass),
        some (encode e.kind), some (encode e.origin), some (encode e.postedAt),
        some (encode e.message)] :=
    Json.record?_object
      [("envelope_id", encode e.envelopeId), ("message_id", encode e.messageId),
        ("message_class", encode e.messageClass), ("kind", encode e.kind),
        ("origin", encode e.origin), ("posted_at", encode e.postedAt),
        ("message", encode e.message)]
      (by simp) (by simp)
  refine Option.bind_eq_some_iff.2 ⟨_, hfields, ?_⟩
  simp [optional?_encode_origin, Timestamp.decode_encode hposted, hmessage]

end Switchboard
