import Switchboard.Json

/-!
# JSON forms

A type with a `Form` has one JSON value for each of its elements, `encode`, and
a reading of JSON values, `decode`.  Reading is more liberal than writing.

* A record is written as an object.  It is also read from a list that holds its
  fields in order.  The list has to be complete, except that fields with a
  default may be missing at its end.  Unknown fields are passed over.  A declared
  field that is written twice does not decode.
* A choice among names is written as a text.  It is also read from an object
  with that single name over null.
* A field that may be missing is written as null.
-/

namespace Switchboard

/-- The JSON form of a type. -/
class Form (α : Type) where
  encode : α → Json
  /-- The element a JSON value stands for, if any. -/
  decode : Json → Option α

export Form (encode decode)

namespace Json

/-- The value of a declared field: absent, present once, or written twice, which
is refused. -/
def declared? (fields : List (String × Json)) (name : String) : Option (Option Json) :=
  match valuesOf name fields with
  | [] => some none
  | [j] => some (some j)
  | _ => none

/-- The values of the declared fields of a record, in the order of their
declaration. -/
def record? (names : List String) : Json → Option (List (Option Json))
  | object fields => names.mapM (declared? fields)
  | list items => if items.length = names.length then some (items.map some) else none
  | _ => none

/-- The values of the declared fields of a record with defaults.  A list has to
hold the first fields, as many as are required, and may leave out others at its
end. -/
def openRecord? (required : Nat) (names : List String) : Json → Option (List (Option Json))
  | list items =>
      if required ≤ items.length ∧ items.length ≤ names.length then
        some (items.map some ++ List.replicate (names.length - items.length) none)
      else none
  | j => j.record? names

/-- The name of a choice. -/
def choice? : Json → Option String
  | text s => some s
  | object [(s, null)] => some s
  | _ => none

end Json

instance : Form Bool where
  encode := .bool
  decode := Json.bool?

instance : Form String where
  encode := .text
  decode := Json.text?

/-- A whole number within an inclusive range. -/
def Json.within? (lo hi : Int) : Json → Option Int
  | .int n => if lo ≤ n ∧ n ≤ hi then some n else none
  | _ => none

instance : Form Int64 where
  encode n := .int n.toInt
  decode j := (j.within? Int64.minValue.toInt Int64.maxValue.toInt).map Int64.ofInt

instance : Form UInt64 where
  encode n := .int n.toNat
  decode j := (j.within? 0 18446744073709551615).map fun n => UInt64.ofNat n.toNat

instance {α : Type} [Form α] : Form (Option α) where
  encode
    | none => .null
    | some a => encode a
  decode
    | .null => some none
    | j => (decode j).map some

instance {α : Type} [Form α] : Form (List α) where
  encode as := .list (as.map encode)
  decode j := do (← j.list?).mapM decode

/-- The value of a declared field with a default, which may be absent but not
null. -/
def Json.orElse? {α : Type} [Form α] (default : α) : Option Json → Option α
  | some j => decode j
  | none => some default

/-- The value of a declared field that may be absent or null. -/
def Json.optional? {α : Type} [Form α] : Option Json → Option (Option α)
  | some j => decode j
  | none => some none

end Switchboard
