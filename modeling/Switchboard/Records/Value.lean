import Switchboard.Message
import Switchboard.Timestamp

/-!
# Column values

A column value is null or has one of five types.  The *storage order* compares
values of one type by their payload: truth values with false first, texts by
code points, identifiers by bytes, instants by time.  Values of different types
are ordered by type, and null comes first.

The storage order sorts results.  Predicates do not use it to compare values of
different types.
-/

namespace Switchboard.Records

/-! ## Types -/

inductive ColumnType where
  | bool
  | int
  | text
  | timestamp
  | uuid
deriving DecidableEq, Inhabited

namespace ColumnType

def all : List ColumnType := [bool, int, text, timestamp, uuid]

def name : ColumnType → String
  | bool => "bool"
  | int => "int"
  | text => "text"
  | timestamp => "timestamp"
  | uuid => "uuid"

def title : ColumnType → String
  | bool => "Bool"
  | int => "Int"
  | text => "Text"
  | timestamp => "Timestamp"
  | uuid => "Uuid"

def ofName? (s : String) : Option ColumnType := all.find? fun t => t.name == s

instance : Form ColumnType where
  encode t := .text t.name
  decode j := j.choice?.bind ofName?

end ColumnType

/-! ## Values -/

inductive ColumnValue where
  | null
  | bool (b : Bool)
  | int (n : Int64)
  | text (s : String)
  | timestamp (t : Timestamp)
  | uuid (u : Uuid)
deriving DecidableEq, Inhabited

namespace ColumnValue

/-- The type of a value.  Null has none. -/
def type? : ColumnValue → Option ColumnType
  | null => none
  | bool _ => some .bool
  | int _ => some .int
  | text _ => some .text
  | timestamp _ => some .timestamp
  | uuid _ => some .uuid

def isNull : ColumnValue → Bool
  | null => true
  | _ => false

/-- Whether a value may stand in a column of a type.  Null always may. -/
def conformsTo (v : ColumnValue) (t : ColumnType) : Bool :=
  match v.type? with
  | none => true
  | some own => own == t

/-! ## Storage order -/

/-- The place of the type of a value. -/
def rank : ColumnValue → Nat
  | null => 0
  | bool _ => 1
  | int _ => 2
  | text _ => 3
  | timestamp _ => 4
  | uuid _ => 5

def order : ColumnValue → ColumnValue → Ordering
  | bool a, bool b => compare a b
  | int a, int b => compare a b
  | text a, text b => compare a b
  | timestamp a, timestamp b => compare a b
  | uuid a, uuid b => compare a b
  | a, b => compare a.rank b.rank

instance : Ord ColumnValue := ⟨order⟩

def sort (vs : List ColumnValue) : List ColumnValue :=
  vs.mergeSort fun a b => (order a b).isLE

/-! ## Numbers without a sign -/

/-- The value of a number without a sign, if it is not too large. -/
def ofUInt64? (n : UInt64) : Option ColumnValue :=
  if n.toNat < 9223372036854775808 then some (int (Int64.ofNat n.toNat)) else none

/-- The value of a version.  Versions that are too large share the greatest
value. -/
def ofVersion (n : UInt64) : ColumnValue := (ofUInt64? n).getD (int Int64.maxValue)

/-! ## JSON form -/

/-- A value that is written with its type. -/
def tagged (t : ColumnType) (payload : Json) : Json :=
  .object [("type", encode t), ("value", payload)]

/-- The value of a payload of a type. -/
def ofPayload? (t : ColumnType) (j : Json) : Option ColumnValue :=
  match t with
  | .bool => (decode j).map bool
  | .int => (decode j).map int
  | .text => (decode j).map text
  | .timestamp => (decode j).map timestamp
  | .uuid => (decode j).map uuid

/-- Null is written without a payload, and is also read with a null payload. -/
instance : Form ColumnValue where
  encode
    | null => .object [("type", .text "null")]
    | bool b => tagged .bool (encode b)
    | int n => tagged .int (encode n)
    | text s => tagged .text (encode s)
    | timestamp t => tagged .timestamp (encode t)
    | uuid u => tagged .uuid (encode u)
  decode j := do
    match ← j.record? ["type", "value"] with
    | [some t, payload] =>
        if t.choice? = some "null" then
          match payload with
          | none | some .null => some null
          | _ => none
        else
          match payload with
          | some p => ofPayload? (← decode t) p
          | none => none
    | _ => none

end ColumnValue

end Switchboard.Records
