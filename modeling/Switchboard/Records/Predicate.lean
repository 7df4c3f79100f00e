import Switchboard.Records.Specification

/-!
# Predicates

A predicate compares columns with constants, under conjunction (`all`) and
disjunction (`either`).  A column that a record does not have reads as null.

Null equals null and nothing else.  Every other comparison with null is false.
Two values that are not null and have different types cannot be compared.

Parts are evaluated in order.  `all` stops at the first that is false, `either`
at the first that is true.  A failure that is not reached does not count.
Validation, on the other hand, looks at every part.
-/

namespace Switchboard.Records

/-! ## Operators -/

/-- A comparison of two values. -/
inductive Operator where
  | equal
  | greaterThan
  | lessThan
  | greaterOrEqual
  | lessOrEqual
deriving DecidableEq, Inhabited

namespace Operator

def all : List Operator := [equal, greaterThan, lessThan, greaterOrEqual, lessOrEqual]

/-- The name an operator is written with. -/
def name : Operator → String
  | equal => "equal"
  | greaterThan => "greater_than"
  | lessThan => "less_than"
  | greaterOrEqual => "greater_or_equal"
  | lessOrEqual => "less_or_equal"

/-- The sign of an operator. -/
def sign : Operator → String
  | equal => "="
  | greaterThan => ">"
  | lessThan => "<"
  | greaterOrEqual => ">="
  | lessOrEqual => "<="

def ofName? (s : String) : Option Operator := all.find? fun o => o.name == s

instance : Form Operator where
  encode o := .text o.name
  decode j := j.choice?.bind ofName?

/-- Whether an operator holds of values in a given order. -/
def holds : Operator → Ordering → Bool
  | equal, o => o.isEq
  | greaterThan, o => o.isGT
  | lessThan, o => o.isLT
  | greaterOrEqual, o => o.isGE
  | lessOrEqual, o => o.isLE

/-- Compares two values. -/
def eval (o : Operator) (left right : ColumnValue) : Except QueryError Bool :=
  match left.type?, right.type? with
  | none, none => .ok (o = equal)
  | none, some _ | some _, none => .ok false
  | some l, some r =>
      if l = r then .ok (o.holds (compare left right)) else .error (.typeMismatch l r)

end Operator

/-! ## Predicates -/

/-- A condition on the columns of a record. -/
inductive Predicate where
  | const (value : Bool)
  | compare (column : ColumnName) (operator : Operator) (value : ColumnValue)
  | all (parts : List Predicate)
  | either (parts : List Predicate)

namespace Predicate

def always : Predicate := .const true

instance : Inhabited Predicate := ⟨always⟩

/-! ## Evaluation -/

mutual

/-- Whether a predicate is true of column values. -/
def eval (c : Columns) : Predicate → Except QueryError Bool
  | const b => .ok b
  | compare column o v => o.eval (c.value column) v
  | all ps => evalAll c ps
  | either ps => evalEither c ps

/-- Whether every predicate of a list is true, up to the first that is not. -/
def evalAll (c : Columns) : List Predicate → Except QueryError Bool
  | [] => .ok true
  | p :: ps =>
      match eval c p with
      | .error e => .error e
      | .ok false => .ok false
      | .ok true => evalAll c ps

/-- Whether some predicate of a list is true, up to the first that is. -/
def evalEither (c : Columns) : List Predicate → Except QueryError Bool
  | [] => .ok false
  | p :: ps =>
      match eval c p with
      | .error e => .error e
      | .ok true => .ok true
      | .ok false => evalEither c ps

end

/-! ## Validation -/

def declaredType (k : Catalog) (column : ColumnName) : Except QueryError ColumnType :=
  match k.typeOf? column with
  | some t => .ok t
  | none => .error (.column (.notFound k.recordType column))

/-- Checks one comparison. -/
def validateCompare (k : Catalog) (column : ColumnName) (v : ColumnValue) :
    Except QueryError Unit :=
  match declaredType k column with
  | .error e => .error e
  | .ok expected =>
      match v.type? with
      | none => .ok ()
      | some found =>
          if found = expected then .ok () else .error (.valueTypeMismatch column expected found)

mutual

/-- Checks every comparison of a predicate. -/
def validate (k : Catalog) : Predicate → Except QueryError Unit
  | const _ => .ok ()
  | compare column _ v => validateCompare k column v
  | all ps => validateEach k ps
  | either ps => validateEach k ps

/-- Checks every predicate of a list. -/
def validateEach (k : Catalog) : List Predicate → Except QueryError Unit
  | [] => .ok ()
  | p :: ps =>
      match validate k p with
      | .error e => .error e
      | .ok () => validateEach k ps

end

/-! ## JSON form -/

/-- A comparison as the fields of a record. -/
def encodeCompare (column : ColumnName) (o : Operator) (v : ColumnValue) : Json :=
  .object [("column", .text column), ("operator", encode o), ("value", encode v)]

/-- The comparison of the fields of a record. -/
def decodeCompare (j : Json) : Option Predicate := do
  match ← j.record? ["column", "operator", "value"] with
  | [some c, some o, some v] => return .compare (← c.text?) (← decode o) (← decode v)
  | _ => none

mutual

/-- A predicate is written as an object with a single field, which names its
form. -/
def toJson : Predicate → Json
  | const b => .object [("const", .bool b)]
  | compare c o v => .object [("compare", encodeCompare c o v)]
  | all ps => .object [("all", .list (toJsonEach ps))]
  | either ps => .object [("either", .list (toJsonEach ps))]

/-- The JSON values of predicates. -/
def toJsonEach : List Predicate → List Json
  | [] => []
  | p :: ps => toJson p :: toJsonEach ps

end

mutual

/-- The predicate that a JSON value stands for. -/
def ofJson? : Json → Option Predicate
  | .object [(form, .list items)] =>
      if form = "all" then (ofJsonEach? items).map all
      else if form = "either" then (ofJsonEach? items).map either
      else if form = "compare" then decodeCompare (.list items)
      else none
  | .object [(form, j)] =>
      if form = "const" then j.bool?.map const
      else if form = "compare" then decodeCompare j
      else none
  | _ => none

/-- The predicates that JSON values stand for. -/
def ofJsonEach? : List Json → Option (List Predicate)
  | [] => some []
  | j :: js => do return (← ofJson? j) :: (← ofJsonEach? js)

end

instance : Form Predicate := ⟨toJson, ofJson?⟩

mutual

/-- Whether every comparison names its fields.  A comparison may also be written
as a list, like any record, but not as a part of a request. -/
def isNamed : Json → Bool
  | .object [(form, .list items)] => form ≠ "compare" && areNamed items
  | _ => true

/-- Whether every comparison in a list of predicates names its fields. -/
def areNamed : List Json → Bool
  | [] => true
  | j :: js => isNamed j && areNamed js

end

end Predicate

end Switchboard.Records
