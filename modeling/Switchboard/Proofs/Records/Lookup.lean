import Mathlib.Data.List.Nodup
import Switchboard.Records.Specification

/-!
# Looking up columns by name

Where the keys of a list are distinct, the elements with the key of one of them are that one
alone (`filter_key_eq_singleton`), so to look an element up by its key is to have it
(`find?_key_eq_some_iff`).

Both sides of a record use this.  The names of a specification are distinct, so what is found
under a name is the column of that name, whichever of the two lists is searched first
(`Specification.find?_eq_some_iff`).  The names of a column map increase, so what it gives
under a name is what it holds there (`Columns.get?_eq_some_iff`).

A map that was made of a list of entries holds just these, if no name was entered twice
(`Columns.perm_ofList`).  So what a specification extracts from an entity can be read back
column by column (`Specification.get?_valuesIn_eq_some_iff`).
-/

namespace Switchboard.Records

/-! ## Distinct keys -/

section

variable {α β : Type} [DecidableEq β] {key : α → β} {as : List α} {a : α}

theorem filter_key_eq_singleton (h : (as.map key).Nodup) (ha : a ∈ as) :
    as.filter (fun x => key x = key a) = [a] := by
  obtain ⟨before, after, rfl⟩ := List.append_of_mem ha
  rw [List.map_append, List.map_cons, List.nodup_middle, List.nodup_cons, ← List.map_append] at h
  have hother : ∀ x ∈ before ++ after, ¬ decide (key x = key a) = true := fun x hx hkey =>
    h.1 (of_decide_eq_true hkey ▸ List.mem_map_of_mem hx)
  have hbefore := List.filter_eq_nil_iff.2 fun x hx => hother x (List.mem_append_left after hx)
  have hafter := List.filter_eq_nil_iff.2 fun x hx => hother x (List.mem_append_right before hx)
  rw [List.filter_append, List.filter_cons, if_pos (decide_eq_true rfl), hbefore, hafter,
    List.nil_append]

/-- Where keys are distinct, to look an element up is to have it. -/
theorem find?_key_eq_some_iff (h : (as.map key).Nodup) {b : β} :
    as.find? (fun x => key x = b) = some a ↔ a ∈ as ∧ key a = b := by
  constructor
  · intro hf
    exact ⟨List.mem_of_find?_eq_some hf, by simpa using List.find?_some hf⟩
  · rintro ⟨ha, rfl⟩
    rw [← List.head?_filter, filter_key_eq_singleton h ha, List.head?_cons]

end

/-! ## Column maps -/

theorem insertEntry_perm {name : ColumnName} {v : ColumnValue}
    {es : List (ColumnName × ColumnValue)} (h : name ∉ es.map Prod.fst) :
    (insertEntry name v es).Perm ((name, v) :: es) := by
  induction es with
  | nil => exact .refl _
  | cons e rest ih =>
      rw [List.map_cons, List.mem_cons, not_or] at h
      rw [insertEntry, if_neg h.1]
      by_cases hlt : name < e.1
      · rw [if_pos hlt]
      · rw [if_neg hlt]
        exact ((ih h.2).cons e).trans (.swap _ _ _)

namespace Columns

theorem entries_foldl_insert_perm {c : Columns} {es : List (ColumnName × ColumnValue)}
    (h : ((c.entries ++ es).map Prod.fst).Nodup) :
    (es.foldl (fun c e => c.insert e.1 e.2) c).entries.Perm (c.entries ++ es) := by
  induction es generalizing c with
  | nil => rw [List.append_nil, List.foldl_nil]
  | cons e es ih =>
      have hnew : e.1 ∉ c.entries.map Prod.fst := by
        rw [List.map_append, List.map_cons, List.nodup_middle, List.nodup_cons] at h
        exact fun he => h.1 (List.mem_append_left _ he)
      have hinsert : (c.insert e.1 e.2).entries.Perm (e :: c.entries) := insertEntry_perm hnew
      have hall : ((c.insert e.1 e.2).entries ++ es).Perm (c.entries ++ e :: es) :=
        (hinsert.append_right es).trans List.perm_middle.symm
      exact (ih ((hall.map Prod.fst).nodup_iff.2 h)).trans hall

/-- A map holds what was entered, if no name was entered twice. -/
theorem perm_ofList {es : List (ColumnName × ColumnValue)} (h : (es.map Prod.fst).Nodup) :
    (ofList es).entries.Perm es :=
  entries_foldl_insert_perm h

/-- To read a value is to hold it. -/
theorem get?_eq_some_iff {c : Columns} {name : ColumnName} {v : ColumnValue} :
    c.get? name = some v ↔ (name, v) ∈ c.entries := by
  rw [get?, List.lookup_eq_some_iff]
  constructor
  · rintro ⟨before, after, hentries, -⟩
    rw [hentries]
    exact List.mem_append_right before List.mem_cons_self
  · intro h
    obtain ⟨before, after, hentries⟩ := List.append_of_mem h
    have hincreasing := hentries ▸ c.increasing
    refine ⟨before, after, hentries, fun e he => bne_iff_ne.2 fun heq => ?_⟩
    have hlt : e.1 < name := (List.pairwise_append.1 hincreasing).2.2 e he _ List.mem_cons_self
    exact String.lt_irrefl name (heq ▸ hlt)

/-- The entries of a map that pass a test. -/
def filter (c : Columns) (test : ColumnName → ColumnValue → Bool) : Columns :=
  ⟨c.entries.filter fun e => test e.1 e.2, c.increasing.filter _⟩

theorem get?_filter (c : Columns) (test : ColumnName → ColumnValue → Bool) (name : ColumnName) :
    (c.filter test).get? name = (c.get? name).filter (test name) := by
  refine Option.ext fun v => ?_
  rw [get?_eq_some_iff, filter, List.mem_filter, ← get?_eq_some_iff, Option.filter_eq_some_iff]

/-- Maps that give the same under every name are the same, since their entries are in order. -/
theorem ext_get? {c c' : Columns} (h : ∀ name, c.get? name = c'.get? name) : c = c' := by
  have hnodup (d : Columns) : d.entries.Nodup := by
    refine List.Pairwise.imp (fun {a b} hlt => ?_) d.increasing
    rintro rfl
    exact String.lt_irrefl _ hlt
  have hmem (e : ColumnName × ColumnValue) : e ∈ c.entries ↔ e ∈ c'.entries := by
    rw [← get?_eq_some_iff, ← get?_eq_some_iff, h]
  have hperm := (List.perm_ext_iff_of_nodup (hnodup c) (hnodup c')).2 hmem
  have hentries : c.entries = c'.entries :=
    hperm.eq_of_pairwise (fun a b _ _ hab hba => absurd hba (String.lt_asymm hab)) c.increasing
      c'.increasing
  obtain ⟨entries, _⟩ := c
  obtain ⟨entries', _⟩ := c'
  obtain rfl : entries = entries' := hentries
  rfl

theorem get?_ofList_eq_some_iff {name : ColumnName} {v : ColumnValue}
    {es : List (ColumnName × ColumnValue)} (hes : (es.map Prod.fst).Nodup) :
    (ofList es).get? name = some v ↔ (name, v) ∈ es := by
  rw [get?_eq_some_iff, (perm_ofList hes).mem_iff]

/-- What was entered under a name can be read there, if no name was entered twice. -/
theorem value_ofList {name : ColumnName} {v : ColumnValue} {es : List (ColumnName × ColumnValue)}
    (hes : (es.map Prod.fst).Nodup) (h : (name, v) ∈ es) : (ofList es).value name = v := by
  rw [value, (get?_ofList_eq_some_iff hes).2 h, Option.getD_some]

end Columns

/-! ## Specifications -/

namespace Specification

variable {ι σ : Type} (s : Specification ι σ) {r : ColumnRef ι σ} {name : ColumnName}

theorem map_name_columnRefs : s.columnRefs.map ColumnRef.name = s.columnNames := by
  rw [columnRefs, List.map_append, List.map_map, List.map_map]
  rfl

theorem nodup_columnRefs : (s.columnRefs.map ColumnRef.name).Nodup := by
  rw [map_name_columnRefs]
  exact s.distinct

/-- A column is determined by its name. -/
theorem eq_of_name_eq {r' : ColumnRef ι σ} (h : r ∈ s.columnRefs) (h' : r' ∈ s.columnRefs)
    (hname : r.name = r'.name) : r = r' :=
  List.inj_on_of_nodup_map s.nodup_columnRefs h h' hname

/-- The two lists are searched one after the other. -/
theorem find?_eq_find?_append : s.find? name =
    (s.state.map ColumnRef.state ++ s.system.map ColumnRef.system).find?
      fun r => r.name = name := by
  have hstate : (fun r : ColumnRef ι σ => decide (r.name = name)) ∘ .state =
    fun c => c.name == name := rfl
  have hsystem : (fun r : ColumnRef ι σ => decide (r.name = name)) ∘ .system =
    fun c => c.name == name := rfl
  rw [find?, List.find?_append, List.find?_map, List.find?_map, hstate, hsystem]
  cases s.state.find? fun c => c.name == name with
  | none => rfl
  | some c => rfl

/-- As the two lists share no name, it does not matter which is searched first. -/
theorem find?_eq_some_iff : s.find? name = some r ↔ r ∈ s.columnRefs ∧ r.name = name := by
  have hperm : (s.state.map ColumnRef.state ++ s.system.map ColumnRef.system).Perm s.columnRefs :=
    List.perm_append_comm
  have hkeys := (hperm.map ColumnRef.name).nodup_iff.2 s.nodup_columnRefs
  rw [find?_eq_find?_append, find?_key_eq_some_iff hkeys, hperm.mem_iff]

theorem find?_eq_none_iff : s.find? name = none ↔ name ∉ s.columnNames := by
  rw [← map_name_columnRefs, List.mem_map, Option.eq_none_iff_forall_ne_some, not_exists]
  exact forall_congr' fun r => not_congr s.find?_eq_some_iff

/-- A system column is found under its name. -/
theorem find?_of_mem_system {c : Column (Entity ι σ)} (hc : c ∈ s.system) :
    s.find? c.name = some (.system c) :=
  s.find?_eq_some_iff.2 ⟨List.mem_append_left _ (List.mem_map_of_mem hc), rfl⟩

/-! ## Extracted values -/

/-- What is entered into the map of an entity. -/
theorem valuesIn_eq (e : Entity ι σ) :
    s.valuesIn e = .ofList (s.columnRefs.map fun r => (r.name, r.valueIn e)) := by
  rw [valuesIn, columnRefs, List.map_append, List.map_map, List.map_map]
  rfl

theorem entries_valuesIn_perm (e : Entity ι σ) :
    (s.valuesIn e).entries.Perm (s.columnRefs.map fun r => (r.name, r.valueIn e)) := by
  rw [valuesIn_eq]
  refine Columns.perm_ofList ?_
  rw [List.map_map]
  exact s.nodup_columnRefs

/-- Each column can be read under its name, and nothing else can be read. -/
theorem get?_valuesIn_eq_some_iff {e : Entity ι σ} {v : ColumnValue} :
    (s.valuesIn e).get? name = some v ↔ ∃ r ∈ s.columnRefs, r.name = name ∧ r.valueIn e = v := by
  rw [Columns.get?_eq_some_iff, (s.entries_valuesIn_perm e).mem_iff, List.mem_map]
  simp only [Prod.mk.injEq]

theorem get?_valuesIn (hr : r ∈ s.columnRefs) (e : Entity ι σ) :
    (s.valuesIn e).get? r.name = some (r.valueIn e) :=
  s.get?_valuesIn_eq_some_iff.2 ⟨r, hr, rfl, rfl⟩

/-- A specification extracts from an entity what its system columns extract. -/
theorem value_valuesIn {c : Column (Entity ι σ)} (hc : c ∈ s.system) (e : Entity ι σ) :
    (s.valuesIn e).value c.name = c.extract e := by
  have hr : .system c ∈ s.columnRefs := List.mem_append_left _ (List.mem_map_of_mem hc)
  exact congrArg (Option.getD · .null) (s.get?_valuesIn hr e)

end Specification

end Switchboard.Records
