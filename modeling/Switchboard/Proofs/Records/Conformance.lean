import Switchboard.Proofs.Records.Typing

/-!
# Columns that conform

A specification *admits* a value under a name if it declares a column of that name and the
value conforms to its type (`Specification.Admits`).  Otherwise the value is at fault, either
because the name is not declared or because the value is not null and has another type
(`Specification.Fault`).

Columns pass their check just if all their values are admitted, and a name that is missing does
no harm.  Otherwise the fault is reported that comes first in the order of names
(`Specification.LeastFault`), whatever the order of declaration and whatever the faults are.
That is because a column map lists its names in order, so the entries before the one at which
the check stops are those with a smaller name (`Columns.mem_before_iff`).

The columns that are extracted from an entity are all declared, so their only faults are
columns whose extracted value contradicts the declared type (`ColumnRef.Contradicts`), and the
least of these by name is reported (`Specification.check_least_fault`).
-/

namespace Switchboard.Records

/-- The entries before one entry of a column map are those with a smaller name. -/
theorem Columns.mem_before_iff {c : Columns} {before after : List (ColumnName × ColumnValue)}
    {e e' : ColumnName × ColumnValue} (h : c.entries = before ++ e :: after) :
    e' ∈ before ↔ e' ∈ c.entries ∧ e'.1 < e.1 := by
  obtain ⟨-, hrest, hbefore⟩ := List.pairwise_append.1 (h ▸ c.increasing)
  have hafter := (List.pairwise_cons.1 hrest).1
  constructor
  · intro he'
    exact ⟨h ▸ List.mem_append_left _ he', hbefore e' he' e List.mem_cons_self⟩
  · rintro ⟨hmem, hlt⟩
    rcases List.mem_append.1 (h ▸ hmem) with he' | he'
    · exact he'
    · rcases List.mem_cons.1 he' with rfl | he'
      · exact absurd hlt (String.lt_irrefl _)
      · exact absurd hlt (String.lt_asymm (hafter e' he'))

/-- The value that a column gives for an entity is not null, and it has another type than the
column. -/
def ColumnRef.Contradicts {ι σ : Type} (r : ColumnRef ι σ) (e : Entity ι σ) (found : ColumnType) :
    Prop :=
  (r.valueIn e).type? = some found ∧ found ≠ r.type

namespace Specification

variable {ι σ : Type} (s : Specification ι σ)

/-- A column of the name is declared, and the value conforms to its type. -/
def Admits (name : ColumnName) (v : ColumnValue) : Prop :=
  ∃ r ∈ s.columnRefs, r.name = name ∧ v.conformsTo r.type = true

/-- What is wrong with a value under a name. -/
inductive Fault (name : ColumnName) (v : ColumnValue) : SpecificationError → Prop where
  | undeclared : name ∉ s.columnNames → Fault name v (.undeclaredColumn s.recordType name)
  /-- The value has another type than the column. -/
  | mistyped {r : ColumnRef ι σ} {found : ColumnType} :
      r ∈ s.columnRefs → r.name = name → v.type? = some found → found ≠ r.type →
        Fault name v (.typeMismatch s.recordType name r.type found)

/-- The fault under the smallest name at which there is one. -/
def LeastFault (c : Columns) (err : SpecificationError) : Prop :=
  ∃ name v, c.get? name = some v ∧ s.Fault name v err ∧
    ∀ n < name, ∀ w, c.get? n = some w → s.Admits n w

variable {s} {name : ColumnName} {v : ColumnValue} {err : SpecificationError} {c : Columns}

/-! ## Checks of column maps -/

theorem checkEntry_eq_ok_iff_admits : s.checkEntry name v = .ok () ↔ s.Admits name v := by
  rw [checkEntry_eq_ok_iff]
  refine exists_congr fun r => ?_
  rw [s.find?_eq_some_iff, and_assoc]

theorem checkEntry_eq_error_iff : s.checkEntry name v = .error err ↔ s.Fault name v err := by
  constructor
  · intro h
    rw [checkEntry] at h
    cases hr : s.find? name with
    | none =>
        rw [hr] at h
        cases h
        exact .undeclared (s.find?_eq_none_iff.1 hr)
    | some r =>
        obtain ⟨hmem, hname⟩ := s.find?_eq_some_iff.1 hr
        cases hv : v.type? with
        | none =>
            rw [hr, hv] at h
            cases h
        | some found =>
            simp only [hr, hv] at h
            split at h
            · cases h
            · next hne =>
                cases h
                exact .mistyped hmem hname hv hne
  · intro h
    cases h with
    | undeclared hname => rw [checkEntry, s.find?_eq_none_iff.2 hname]
    | mistyped hmem hname hv hne =>
        rw [checkEntry, s.find?_eq_some_iff.2 ⟨hmem, hname⟩, hv]
        exact if_neg hne

theorem checkColumns_eq_ok_iff :
    s.checkColumns c = .ok () ↔ ∀ name v, c.get? name = some v → s.Admits name v := by
  rw [checkColumns_eq_forM, forM_eq_ok_iff, Prod.forall]
  simp only [checkEntry_eq_ok_iff_admits, Columns.get?_eq_some_iff]

theorem checkColumns_eq_error_iff : s.checkColumns c = .error err ↔ s.LeastFault c err := by
  rw [checkColumns_eq_forM, forM_eq_error_iff]
  constructor
  · rintro ⟨before, ⟨name, v⟩, after, hentries, hbefore, hfault⟩
    refine ⟨name, v, ?_, checkEntry_eq_error_iff.1 hfault, fun n hn w hw => ?_⟩
    · rw [Columns.get?_eq_some_iff, hentries]
      exact List.mem_append_right before List.mem_cons_self
    · have hmem := (Columns.mem_before_iff hentries).2 ⟨Columns.get?_eq_some_iff.1 hw, hn⟩
      exact checkEntry_eq_ok_iff_admits.1 (hbefore _ hmem)
  · rintro ⟨name, v, hv, hfault, hleast⟩
    obtain ⟨before, after, hentries⟩ := List.append_of_mem (Columns.get?_eq_some_iff.1 hv)
    refine ⟨before, (name, v), after, hentries, fun e he => ?_, checkEntry_eq_error_iff.2 hfault⟩
    obtain ⟨hmem, hlt⟩ := (Columns.mem_before_iff hentries).1 he
    exact checkEntry_eq_ok_iff_admits.2 (hleast e.1 hlt e.2 (Columns.get?_eq_some_iff.2 hmem))

/-! ## Checks of extracted columns -/

variable {e : Entity ι σ} {r : ColumnRef ι σ}

theorem admits_valueIn_iff (h : r ∈ s.columnRefs) :
    s.Admits r.name (r.valueIn e) ↔ ∀ found, ¬ r.Contradicts e found := by
  have hconforms : (r.valueIn e).conformsTo r.type = true ↔ ∀ found, ¬ r.Contradicts e found := by
    rw [ColumnValue.conformsTo_iff]
    cases hv : (r.valueIn e).type? with
    | none => simp [ColumnRef.Contradicts, hv]
    | some own => simp [ColumnRef.Contradicts, hv]
  rw [← hconforms]
  constructor
  · rintro ⟨r', hr', hname, hv⟩
    exact s.eq_of_name_eq hr' h hname ▸ hv
  · exact fun hv => ⟨r, h, rfl, hv⟩

theorem fault_valueIn_iff (h : r ∈ s.columnRefs) :
    s.Fault r.name (r.valueIn e) err ↔
      ∃ found, r.Contradicts e found ∧ err = .typeMismatch s.recordType r.name r.type found := by
  constructor
  · intro hfault
    cases hfault with
    | undeclared hname => exact absurd (s.map_name_columnRefs ▸ List.mem_map_of_mem h) hname
    | mistyped hr' hname hv hne =>
        obtain rfl := s.eq_of_name_eq hr' h hname
        exact ⟨_, ⟨hv, hne⟩, rfl⟩
  · rintro ⟨found, ⟨hv, hne⟩, rfl⟩
    exact .mistyped h rfl hv hne

theorem leastFault_valuesIn_iff :
    s.LeastFault (s.valuesIn e) err ↔
      ∃ r ∈ s.columnRefs, ∃ found, r.Contradicts e found ∧
        (∀ r' ∈ s.columnRefs, r'.name < r.name → ∀ found', ¬ r'.Contradicts e found') ∧
        err = .typeMismatch s.recordType r.name r.type found := by
  constructor
  · rintro ⟨name, v, hv, hfault, hleast⟩
    obtain ⟨r, hr, rfl, rfl⟩ := s.get?_valuesIn_eq_some_iff.1 hv
    obtain ⟨found, hfound, rfl⟩ := (fault_valueIn_iff hr).1 hfault
    refine ⟨r, hr, found, hfound, fun r' hr' hlt => ?_, rfl⟩
    exact (admits_valueIn_iff hr').1 (hleast _ hlt _ (s.get?_valuesIn hr' e))
  · rintro ⟨r, hr, found, hfound, hleast, rfl⟩
    refine ⟨r.name, r.valueIn e, s.get?_valuesIn hr e,
      (fault_valueIn_iff hr).2 ⟨found, hfound, rfl⟩, fun n hlt w hw => ?_⟩
    obtain ⟨r', hr', rfl, rfl⟩ := s.get?_valuesIn_eq_some_iff.1 hw
    exact (admits_valueIn_iff hr').2 (hleast r' hr' hlt)

theorem checkColumns_valuesIn_eq_ok_iff :
    s.checkColumns (s.valuesIn e) = .ok () ↔
      ∀ r ∈ s.columnRefs, ∀ found, ¬ r.Contradicts e found := by
  rw [checkColumns_eq_ok_iff]
  constructor
  · intro h r hr
    exact (admits_valueIn_iff hr).1 (h _ _ (s.get?_valuesIn hr e))
  · intro h name v hv
    obtain ⟨r, hr, rfl, rfl⟩ := s.get?_valuesIn_eq_some_iff.1 hv
    exact (admits_valueIn_iff hr).2 (h r hr)

/-- Extracted columns fail as their check does. -/
theorem checkedValuesIn_eq_error_iff :
    s.checkedValuesIn e = .error err ↔ s.checkColumns (s.valuesIn e) = .error err := by
  rw [checkedValuesIn]
  cases s.checkColumns (s.valuesIn e) with
  | error err' => simp
  | ok u => simp

theorem checkedValuesIn_eq_ok_iff :
    s.checkedValuesIn e = .ok c ↔ s.checkColumns (s.valuesIn e) = .ok () ∧ c = s.valuesIn e := by
  rw [checkedValuesIn]
  cases s.checkColumns (s.valuesIn e) with
  | error err => simp
  | ok u => simp [eq_comm]

/-- Columns pass their check just if all their values are admitted, and otherwise the fault under
the smallest name is reported.  Extracted columns fail just if one of them contradicts its type,
and the one with the smallest name is reported, never an undeclared name. -/
theorem check_least_fault (s : Specification ι σ) :
    (∀ c : Columns,
      (s.checkColumns c = .ok () ↔ ∀ name v, c.get? name = some v → s.Admits name v) ∧
        ∀ err, s.checkColumns c = .error err ↔ s.LeastFault c err) ∧
      ∀ e : Entity ι σ,
        ((∃ err, s.checkedValuesIn e = .error err) ↔
          ∃ r ∈ s.columnRefs, ∃ found, r.Contradicts e found) ∧
        (∀ err, s.checkedValuesIn e = .error err ↔
          ∃ r ∈ s.columnRefs, ∃ found, r.Contradicts e found ∧
            (∀ r' ∈ s.columnRefs, r'.name < r.name → ∀ found', ¬ r'.Contradicts e found') ∧
            err = .typeMismatch s.recordType r.name r.type found) ∧
        ∀ c, s.checkedValuesIn e = .ok c → c = s.valuesIn e := by
  refine ⟨fun c => ⟨checkColumns_eq_ok_iff, fun err => checkColumns_eq_error_iff⟩,
    fun e => ⟨?_, fun err => ?_, fun c hc => (checkedValuesIn_eq_ok_iff.1 hc).2⟩⟩
  · constructor
    · rintro ⟨err, herr⟩
      rw [checkedValuesIn_eq_error_iff, checkColumns_eq_error_iff, leastFault_valuesIn_iff] at herr
      obtain ⟨r, hr, found, hfound, -⟩ := herr
      exact ⟨r, hr, found, hfound⟩
    · rintro ⟨r, hr, found, hfound⟩
      cases hcheck : s.checkColumns (s.valuesIn e) with
      | error err => exact ⟨err, checkedValuesIn_eq_error_iff.2 hcheck⟩
      | ok u => exact absurd hfound (checkColumns_valuesIn_eq_ok_iff.1 hcheck r hr found)
  · rw [checkedValuesIn_eq_error_iff, checkColumns_eq_error_iff, leastFault_valuesIn_iff]

-- Both columns contradict their types.  The note is declared last and comes first by name.
example :
    let parcels : Specification Nat Unit :=
      ⟨"post.Parcel", [archivedColumn],
        [⟨"weight", .int, fun _ => .text "heavy"⟩, ⟨"note", .text, fun _ => .int 3⟩], by decide⟩
    parcels.checkedValuesIn ⟨7, (), 1, {}⟩ =
      .error (.typeMismatch "post.Parcel" "note" .text .int) :=
  rfl

end Specification

end Switchboard.Records
