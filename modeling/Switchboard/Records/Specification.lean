import Switchboard.Records.Error
import Switchboard.Records.Record

/-!
# Specifications

A `Column` has a name, a declared type, and a function that extracts its value.
Nothing makes the function agree with the type.

A `Specification` is the set of columns of a record type: *system* columns, over
the whole entity, and *state* columns, over its state.  No name is declared
twice.  `Specification.build` says which name is, if one is: the first, in the
order of declaration, that occurred before.  `Specification.of` is the specification
of what an entity type declares (`EntityColumns`).

A name is looked up among the state columns first.  Since names are declared
once, the order does not matter.

`valuesIn` extracts every column of an entity.  `checkColumns` checks column
values against the specification, in the order of names: every name has to be
declared, and every value has to conform to the declared type.  Columns may be
missing.
-/

namespace Switchboard.Records

/-! ## Columns -/

/-- A named, typed function on some source. -/
structure Column (α : Type) where
  name : ColumnName
  type : ColumnType
  extract : α → ColumnValue

/-- The column of the archived flag. -/
def archivedColumn {ι σ : Type} : Column (Entity ι σ) :=
  ⟨archivedName, .bool, fun e => .bool e.lifecycle.archived⟩

/-- The column of the deleted flag. -/
def deletedColumn {ι σ : Type} : Column (Entity ι σ) :=
  ⟨deletedName, .bool, fun e => .bool e.lifecycle.deleted⟩

def versionColumn {ι σ : Type} : Column (Entity ι σ) :=
  ⟨versionName, .int, fun e => .ofVersion e.version⟩

def lifecycleColumns {ι σ : Type} : List (Column (Entity ι σ)) :=
  [archivedColumn, deletedColumn, versionColumn]

/-! ## Repeated names -/

/-- The first element of a list that is among the seen ones or occurred before. -/
def firstRepeat? (seen : List ColumnName) : List ColumnName → Option ColumnName
  | [] => none
  | n :: ns => if n ∈ seen then some n else firstRepeat? (n :: seen) ns

theorem nodup_of_firstRepeat?_eq_none {ns : List ColumnName} :
    ∀ {seen : List ColumnName}, firstRepeat? seen ns = none → ns.Nodup ∧ ∀ n ∈ ns, n ∉ seen := by
  induction ns with
  | nil => intro _ _; simp
  | cons n ns ih =>
      intro seen h
      unfold firstRepeat? at h
      split at h
      · simp at h
      · next hn =>
          obtain ⟨hd, hs⟩ := ih h
          refine ⟨List.nodup_cons.2 ⟨fun hm => hs n hm List.mem_cons_self, hd⟩, fun m hm => ?_⟩
          rcases List.mem_cons.1 hm with rfl | hm
          · exact hn
          · exact fun hmem => hs m hm (List.mem_cons_of_mem _ hmem)

/-! ## Specifications -/

/-- The columns of a record type. -/
structure Specification (ι σ : Type) where
  recordType : String
  system : List (Column (Entity ι σ))
  state : List (Column σ)
  distinct : (system.map Column.name ++ state.map Column.name).Nodup

/-- What an entity type declares.  Its system columns are the lifecycle columns,
unless it has others. -/
structure EntityColumns (ι σ : Type) where
  recordType : String
  system : List (Column (Entity ι σ)) := lifecycleColumns
  state : List (Column σ)

/-- The declared types of some columns, by which queries are validated. -/
structure Catalog where
  recordType : String
  typeOf? : ColumnName → Option ColumnType

/-- A column of a specification. -/
inductive ColumnRef (ι σ : Type) where
  | system (c : Column (Entity ι σ))
  | state (c : Column σ)

namespace ColumnRef

variable {ι σ : Type}

def name : ColumnRef ι σ → ColumnName
  | system c => c.name
  | state c => c.name

def type : ColumnRef ι σ → ColumnType
  | system c => c.type
  | state c => c.type

def isSystem : ColumnRef ι σ → Bool
  | system _ => true
  | state _ => false

/-- The value of an entity. -/
def valueIn (r : ColumnRef ι σ) (e : Entity ι σ) : ColumnValue :=
  match r with
  | system c => c.extract e
  | state c => c.extract e.state

end ColumnRef

namespace Specification

variable {ι σ : Type}

/-- The specification of two lists of columns. -/
def build (recordType : String) (system : List (Column (Entity ι σ))) (state : List (Column σ)) :
    Except SpecificationError (Specification ι σ) :=
  match h : firstRepeat? [] (system.map Column.name ++ state.map Column.name) with
  | some column => .error (.duplicateColumn recordType column)
  | none => .ok ⟨recordType, system, state, (nodup_of_firstRepeat?_eq_none h).1⟩

/-- The specification of an entity type. -/
def of (d : EntityColumns ι σ) : Except SpecificationError (Specification ι σ) :=
  build d.recordType d.system d.state

/-- The declared names, those of the system columns first. -/
def columnNames (s : Specification ι σ) : List ColumnName :=
  s.system.map Column.name ++ s.state.map Column.name

def size (s : Specification ι σ) : Nat := s.system.length + s.state.length

def isEmpty (s : Specification ι σ) : Bool := s.size == 0

/-- Every column, system columns first. -/
def columnRefs (s : Specification ι σ) : List (ColumnRef ι σ) :=
  s.system.map .system ++ s.state.map .state

/-- The column of a name.  State columns are searched first. -/
def find? (s : Specification ι σ) (name : ColumnName) : Option (ColumnRef ι σ) :=
  match s.state.find? fun c => c.name == name with
  | some c => some (.state c)
  | none => (s.system.find? fun c => c.name == name).map .system

/-- The column of a name, which has to be declared. -/
def get (s : Specification ι σ) (name : ColumnName) : Except ColumnError (ColumnRef ι σ) :=
  match s.find? name with
  | some r => .ok r
  | none => .error (.notFound s.recordType name)

def catalog (s : Specification ι σ) : Catalog := ⟨s.recordType, fun n => (s.find? n).map (·.type)⟩

/-- The value of every column in an entity. -/
def valuesIn (s : Specification ι σ) (e : Entity ι σ) : Columns :=
  .ofList (s.system.map (fun c => (c.name, c.extract e))
    ++ s.state.map fun c => (c.name, c.extract e.state))

/-- Checks one column value. -/
def checkEntry (s : Specification ι σ) (name : ColumnName) (v : ColumnValue) :
    Except SpecificationError Unit :=
  match s.find? name, v.type? with
  | none, _ => .error (.undeclaredColumn s.recordType name)
  | some _, none => .ok ()
  | some r, some found =>
      if found = r.type then .ok () else .error (.typeMismatch s.recordType name r.type found)

/-- Checks entries one after the other. -/
def checkEntries (s : Specification ι σ) :
    List (ColumnName × ColumnValue) → Except SpecificationError Unit
  | [] => .ok ()
  | e :: es =>
      match s.checkEntry e.1 e.2 with
      | .error err => .error err
      | .ok () => checkEntries s es

/-- Checks column values, in the order of names. -/
def checkColumns (s : Specification ι σ) (c : Columns) : Except SpecificationError Unit :=
  s.checkEntries c.entries

/-- The value of every column in an entity, if they all conform. -/
def checkedValuesIn (s : Specification ι σ) (e : Entity ι σ) : Except SpecificationError Columns :=
  match s.checkColumns (s.valuesIn e) with
  | .error err => .error err
  | .ok () => .ok (s.valuesIn e)

/-- The record of an entity, with every column extracted and a payload beside. -/
def record {ρ : Type} (s : Specification ι σ) (e : Entity ι σ) (payload : ρ) : Record ι ρ :=
  ⟨e.id, payload, s.valuesIn e⟩

end Specification

end Switchboard.Records
