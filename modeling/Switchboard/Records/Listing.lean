import Switchboard.Records.Query

/-!
# Listings

A listing is the answer to a query, as the sort keys and the identities of the
records that were selected.

Records that agree on every sort key come in the order in which the store happens
to hold them.  A listing does not depend on that: in each run of neighbours with
equal keys, the identities are in order.
-/

namespace Switchboard.Records

/-- The records that a query selected. -/
structure Listing where
  ids : List String
  /-- The values of the sort keys, record by record. -/
  keys : List (List ColumnValue)

namespace Listing

/-- The runs of neighbours with equal keys. -/
def runs (rows : List (List ColumnValue × String)) : List (List (List ColumnValue × String)) :=
  rows.splitBy fun a b => a.1 == b.1

/-- The identities of a run, in order. -/
def inOrder (run : List (List ColumnValue × String)) : List String :=
  (run.map Prod.snd).mergeSort fun a b => a ≤ b

/-- The listing of the records that a query selected. -/
def ofRecords {ρ : Type} (q : Query) (rs : List (Record String ρ)) : Listing :=
  let rows := rs.map fun r => (q.keysOf r, r.id)
  ⟨(runs rows).flatMap inOrder, rows.map Prod.fst⟩

end Listing

end Switchboard.Records
