import Switchboard.Records.Value

/-!
# Column maps

A `Columns` maps column names to values.  It is a list in strictly increasing
order of names, so two maps with the same values are the same list.

A name that is not there reads as null (`value`).  `ofList` puts in one entry
after the other, and the last of equal names wins.
-/

namespace Switchboard.Records

abbrev ColumnName := String

/-- A value put under a name into an ordered list of entries. -/
def insertEntry (name : ColumnName) (v : ColumnValue) :
    List (ColumnName × ColumnValue) → List (ColumnName × ColumnValue)
  | [] => [(name, v)]
  | e :: rest =>
      if name < e.1 then (name, v) :: e :: rest
      else if name = e.1 then (name, v) :: rest
      else e :: insertEntry name v rest

theorem mem_insertEntry {name : ColumnName} {v : ColumnValue} {e : ColumnName × ColumnValue} :
    ∀ {es : List (ColumnName × ColumnValue)}, e ∈ insertEntry name v es → e = (name, v) ∨ e ∈ es
  | [], h => by simpa [insertEntry] using h
  | x :: rest, h => by
      unfold insertEntry at h
      split at h
      · simpa using h
      · split at h
        · rcases List.mem_cons.1 h with h | h
          · exact .inl h
          · exact .inr (List.mem_cons_of_mem _ h)
        · rcases List.mem_cons.1 h with h | h
          · exact .inr (h ▸ List.mem_cons_self)
          · rcases mem_insertEntry h with h | h
            · exact .inl h
            · exact .inr (List.mem_cons_of_mem _ h)

theorem pairwise_insertEntry (name : ColumnName) (v : ColumnValue) :
    ∀ {es : List (ColumnName × ColumnValue)}, es.Pairwise (fun a b => a.1 < b.1) →
      (insertEntry name v es).Pairwise (fun a b => a.1 < b.1)
  | [], _ => by simp [insertEntry]
  | x :: rest, h => by
      obtain ⟨hx, hrest⟩ := List.pairwise_cons.1 h
      unfold insertEntry
      split
      · next hlt =>
          refine List.pairwise_cons.2 ⟨fun e he => ?_, h⟩
          rcases List.mem_cons.1 he with rfl | he
          · exact hlt
          · exact String.lt_trans hlt (hx e he)
      · split
        · next heq => exact List.pairwise_cons.2 ⟨fun e he => heq ▸ hx e he, hrest⟩
        · next hnlt hne =>
            refine List.pairwise_cons.2 ⟨fun e he => ?_, pairwise_insertEntry name v hrest⟩
            rcases mem_insertEntry he with rfl | he
            · exact String.not_le.1 fun hle => hne (String.le_antisymm hle (String.not_lt.1 hnlt))
            · exact hx e he

/-- A map from column names to values. -/
structure Columns where
  entries : List (ColumnName × ColumnValue)
  increasing : entries.Pairwise fun a b => a.1 < b.1
deriving DecidableEq

namespace Columns

def empty : Columns := ⟨[], .nil⟩

instance : Inhabited Columns := ⟨empty⟩

/-- A map with a value under a name. -/
def insert (c : Columns) (name : ColumnName) (v : ColumnValue) : Columns :=
  ⟨insertEntry name v c.entries, pairwise_insertEntry name v c.increasing⟩

/-- The map of a list of entries. -/
def ofList (es : List (ColumnName × ColumnValue)) : Columns :=
  es.foldl (fun c e => c.insert e.1 e.2) empty

def get? (c : Columns) (name : ColumnName) : Option ColumnValue := List.lookup name c.entries

def value (c : Columns) (name : ColumnName) : ColumnValue := (c.get? name).getD .null

def names (c : Columns) : List ColumnName := c.entries.map Prod.fst

/-- A map is written as an object.  The last of equal names wins. -/
instance : Form Columns where
  encode c := .object (c.entries.map fun e => (e.1, encode e.2))
  decode
    | .object fields => (fields.mapM fun f => (decode f.2).map fun v => (f.1, v)).map ofList
    | _ => none

end Columns

end Switchboard.Records
