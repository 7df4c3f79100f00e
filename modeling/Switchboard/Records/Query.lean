import Switchboard.Records.Predicate

/-!
# Queries

A query selects the records whose columns satisfy its predicate, puts them in
order, and keeps at most so many of them.

The order is lexicographic over the sort keys, each in its own direction, by the
storage order of values.  A missing column counts as null, so it comes first in
ascending order.  Records that agree on every key stay in the order in which they
came.

A query fails on the first record on which its predicate fails, even if it would
keep no record at all.
-/

namespace Switchboard.Records

/-! ## Sort keys -/

/-- A direction of sorting. -/
inductive Direction where
  | ascending
  | descending
deriving DecidableEq, Inhabited

namespace Direction

/-- The directions, each with the name it is written with. -/
def names : List (String × Direction) := [("ascending", ascending), ("descending", descending)]

/-- The name a direction is written with. -/
def name : Direction → String
  | ascending => "ascending"
  | descending => "descending"

/-- The other direction. -/
def reverse : Direction → Direction
  | ascending => descending
  | descending => ascending

/-- An order in this direction. -/
def orient : Direction → Ordering → Ordering
  | ascending, o => o
  | descending, o => o.swap

instance : Form Direction where
  encode d := .text d.name
  decode j := j.choice?.bind fun s => List.lookup s names

end Direction

/-- A sort key: a column and a direction. -/
structure OrderBy where
  column : ColumnName
  direction : Direction
deriving DecidableEq

namespace OrderBy

/-- The order of two column maps by this key. -/
def order (k : OrderBy) (a b : Columns) : Ordering :=
  k.direction.orient (compare (a.value k.column) (b.value k.column))

/-- The order of two column maps by the first key that tells them apart. -/
def orderAll : List OrderBy → Columns → Columns → Ordering
  | [], _, _ => .eq
  | k :: ks, a, b => (k.order a b).then (orderAll ks a b)

instance : Form OrderBy where
  encode k := .object [("column", encode k.column), ("direction", encode k.direction)]
  decode j := do
    match ← j.record? ["column", "direction"] with
    | [some c, some d] => return ⟨← decode c, ← decode d⟩
    | _ => none

end OrderBy

/-! ## Queries -/

/-- A predicate with sort keys and a limit. -/
structure Query where
  predicate : Predicate := .always
  /-- The sort keys.  Earlier ones take precedence. -/
  orderBy : List OrderBy := []
  /-- The greatest number of records that are kept. -/
  limit : Option UInt64 := none

namespace Query

def all : Query := {}

def matching (p : Predicate) : Query := { predicate := p }

/-- The records that are neither archived nor deleted. -/
def active : Query :=
  matching (.all [.compare archivedName .equal (.bool false),
    .compare deletedName .equal (.bool false)])

/-- A query with one more sort key, which comes last. -/
def thenBy (q : Query) (column : ColumnName) (direction : Direction) : Query :=
  { q with orderBy := q.orderBy ++ [⟨column, direction⟩] }

def withLimit (q : Query) (n : UInt64) : Query := { q with limit := some n }

/-! ## Validation -/

/-- Checks that every sort key is declared. -/
def validateKeys (k : Catalog) : List OrderBy → Except QueryError Unit
  | [] => .ok ()
  | o :: os =>
      match Predicate.declaredType k o.column with
      | .error e => .error e
      | .ok _ => validateKeys k os

/-- Checks the predicate, and then the sort keys. -/
def validate (k : Catalog) (q : Query) : Except QueryError Unit :=
  match q.predicate.validate k with
  | .error e => .error e
  | .ok () => validateKeys k q.orderBy

/-! ## Evaluation -/

variable {ι ρ : Type}

/-- The records that satisfy a predicate, in the order in which they came. -/
def select (p : Predicate) : List (Record ι ρ) → Except QueryError (List (Record ι ρ))
  | [] => .ok []
  | r :: rs =>
      match p.eval r.columns with
      | .error e => .error e
      | .ok keep =>
          match select p rs with
          | .error e => .error e
          | .ok kept => .ok (if keep then r :: kept else kept)

/-- Records sorted by some keys. -/
def sortBy (ks : List OrderBy) (rs : List (Record ι ρ)) : List (Record ι ρ) :=
  rs.mergeSort fun a b => (OrderBy.orderAll ks a.columns b.columns).isLE

/-- At most so many records. -/
def truncate (limit : Option UInt64) (rs : List (Record ι ρ)) : List (Record ι ρ) :=
  match limit with
  | some n => rs.take n.toNat
  | none => rs

/-- The records that a query selects, in order. -/
def apply (q : Query) (rs : List (Record ι ρ)) : Except QueryError (List (Record ι ρ)) :=
  match select q.predicate rs with
  | .error e => .error e
  | .ok kept => .ok (truncate q.limit (sortBy q.orderBy kept))

/-- The values of the sort keys of a record. -/
def keysOf (q : Query) (r : Record ι ρ) : List ColumnValue :=
  q.orderBy.map fun k => r.value k.column

/-! ## JSON form -/

/-- A query without a limit is written with a null limit. -/
instance : Form Query where
  encode q := .object
    [("limit", encode q.limit), ("order_by", encode q.orderBy), ("predicate", encode q.predicate)]
  decode j := do
    match ← j.record? ["predicate", "order_by", "limit"] with
    | [some p, some o, l] => return ⟨← decode p, ← decode o, ← Json.optional? l⟩
    | _ => none

/-- Whether every comparison of the predicate names its fields. -/
def isNamed : Json → Bool
  | .list (p :: _) => Predicate.isNamed p
  | j => Predicate.isNamed (j.field "predicate")

end Query

end Switchboard.Records
