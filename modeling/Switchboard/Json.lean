/-!
# JSON values

A value keeps what its readers can tell apart.

* A number is an `int` when it is written with digits only and fits in
  sixty-four bits, with a sign or without.  Every other number is a `decimal`
  and keeps the text it was written as.  No type of this library has a decimal
  form, so a decimal is only ever passed on.
* An `object` keeps its fields in the order in which they are written.  The same
  name may occur twice.
* `unfit` is a text that is well formed and stands for no value: half of a
  surrogate pair, a number past the largest double, a container nested too
  deep.  It may be passed over and it never decodes.

`settle` resolves repeated names: the last one wins.  `isFit` says that no part
of a value is unfit.
-/

namespace Switchboard

/-- A JSON value. -/
inductive Json where
  | null
  | bool (value : Bool)
  /-- A whole number of at most sixty-four bits. -/
  | int (value : Int)
  | decimal (written : String)
  | text (value : String)
  | list (items : List Json)
  /-- Named values, in the order in which they are written. -/
  | object (fields : List (String × Json))
  /-- A well-formed text that stands for no value. -/
  | unfit
deriving Inhabited

namespace Json

/-! ## Reading a field -/

/-- The values written under a name. -/
def valuesOf (name : String) (fields : List (String × Json)) : List Json :=
  (fields.filter fun f => f.1 == name).map Prod.snd

/-- The value under a name, if it is an object that has the name. -/
def field? (name : String) : Json → Option Json
  | object fields => (valuesOf name fields).getLast?
  | _ => none

/-- The value under a name, where an absent name reads as null. -/
def field (name : String) (j : Json) : Json := (j.field? name).getD null

/-- The text of a value that is a text. -/
def text? : Json → Option String
  | text s => some s
  | _ => none

/-- The items of a value that is a list. -/
def list? : Json → Option (List Json)
  | list items => some items
  | _ => none

/-- The truth value of a value that is one. -/
def bool? : Json → Option Bool
  | bool b => some b
  | _ => none

/-! ## Repeated names -/

/-- The fields whose name does not occur again later. -/
def lastFields : List (String × Json) → List (String × Json)
  | [] => []
  | f :: rest => if rest.any (fun g => g.1 == f.1) then lastFields rest else f :: lastFields rest

mutual

/-- A value in which no object repeats a name.  The last of equal names wins. -/
def settle : Json → Json
  | list items => list (settleItems items)
  | object fields => object (lastFields (settleFields fields))
  | j => j

/-- `settle` on each item of a list. -/
def settleItems : List Json → List Json
  | [] => []
  | j :: rest => settle j :: settleItems rest

/-- `settle` on the value of each field. -/
def settleFields : List (String × Json) → List (String × Json)
  | [] => []
  | (name, j) :: rest => (name, settle j) :: settleFields rest

end

/-! ## Fit values -/

mutual

/-- Whether no part of a value is unfit. -/
def isFit : Json → Bool
  | unfit => false
  | list items => areFit items
  | object fields => areFieldsFit fields
  | _ => true

/-- Whether every item of a list is fit. -/
def areFit : List Json → Bool
  | [] => true
  | j :: rest => isFit j && areFit rest

/-- Whether the value of every field is fit. -/
def areFieldsFit : List (String × Json) → Bool
  | [] => true
  | (_, j) :: rest => isFit j && areFieldsFit rest

end

end Json

end Switchboard
