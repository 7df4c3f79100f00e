import Mathlib.Data.List.Duplicate
import Switchboard.Proofs.Records.Lookup

/-!
# Columns under their names

To build a specification is to look for a name that is declared more than once, in either list
of columns or in both.  The name that is reported is the one that is repeated first: it occurred
before, and the names before it are distinct (`IsFirstRepeat`).  Several names may be declared
more than once, and what counts is where the second occurrence is.  If no name is repeated, there
is a specification, and it has the two lists as they were given (`build_first_repeat`).

A specification that was built has one column for each of its names (`OnlyColumn`).  The map of
an entity has the same names, and under each of them the value of that column
(`valuesIn_of_build`).  So nothing is lost when state columns are entered after system columns,
and it does not matter that they are searched before them.
-/

namespace Switchboard.Records

/-! ## Repeated names -/

/-- A name occurs again after some distinct names, so it is the first to be repeated. -/
def IsFirstRepeat (ns : List ColumnName) (n : ColumnName) : Prop :=
  ∃ before after, ns = before ++ n :: after ∧ before.Nodup ∧ n ∈ before

section

variable {ns seen : List ColumnName} {n : ColumnName}

/-- What was seen and what came since is distinct, up to the first name that is among it. -/
theorem firstRepeat?_eq_some_iff (hseen : seen.Nodup) :
    firstRepeat? seen ns = some n ↔
      ∃ before after, ns = before ++ n :: after ∧ (before ++ seen).Nodup ∧ n ∈ before ++ seen := by
  constructor
  · intro h
    induction ns generalizing seen with
    | nil => cases h
    | cons m ns ih =>
        by_cases hm : m ∈ seen
        · rw [firstRepeat?, if_pos hm] at h
          obtain rfl := Option.some.inj h
          exact ⟨[], ns, rfl, hseen, hm⟩
        · rw [firstRepeat?, if_neg hm] at h
          -- the head moves from the names to come to the names seen
          obtain ⟨before, after, rfl, hdistinct, hn⟩ := ih (List.nodup_cons.2 ⟨hm, hseen⟩) h
          exact ⟨m :: before, after, rfl, List.perm_middle.nodup_iff.1 hdistinct,
            List.perm_middle.mem_iff.1 hn⟩
  · rintro ⟨before, after, rfl, hdistinct, hn⟩
    induction before generalizing seen with
    | nil =>
        rw [List.nil_append] at hn ⊢
        rw [firstRepeat?, if_pos hn]
    | cons m before ih =>
        have hm : m ∉ seen := fun hmem =>
          (List.nodup_cons.1 hdistinct).1 (List.mem_append_right before hmem)
        rw [List.cons_append, firstRepeat?, if_neg hm]
        exact ih (List.nodup_cons.2 ⟨hm, hseen⟩) (List.perm_middle.nodup_iff.2 hdistinct)
          (List.perm_middle.mem_iff.2 hn)

theorem firstRepeat?_nil_eq_some_iff : firstRepeat? [] ns = some n ↔ IsFirstRepeat ns n := by
  simp only [firstRepeat?_eq_some_iff List.nodup_nil, List.append_nil, IsFirstRepeat]

theorem IsFirstRepeat.not_nodup (h : IsFirstRepeat ns n) : ¬ ns.Nodup := by
  obtain ⟨before, after, rfl, -, hn⟩ := h
  exact fun hns => (List.nodup_append.1 hns).2.2 n hn n List.mem_cons_self rfl

/-- Some name is the first to be repeated if any name is repeated. -/
theorem exists_isFirstRepeat_iff : (∃ n, IsFirstRepeat ns n) ↔ ∃ n, 2 ≤ ns.count n := by
  have hrepeated : (∃ n, 2 ≤ ns.count n) ↔ ¬ ns.Nodup := by
    simp only [← List.duplicate_iff_two_le_count, List.exists_duplicate_iff_not_nodup]
  rw [hrepeated]
  refine ⟨fun ⟨n, hn⟩ => hn.not_nodup, fun h => ?_⟩
  cases hfirst : firstRepeat? [] ns with
  | none => exact absurd (nodup_of_firstRepeat?_eq_none hfirst).1 h
  | some n => exact ⟨n, firstRepeat?_nil_eq_some_iff.1 hfirst⟩

end

namespace Specification

variable {ι σ : Type} {recordType : String} {system : List (Column (Entity ι σ))}
  {state : List (Column σ)} {s : Specification ι σ}

/-! ## Building a specification -/

theorem build_eq_error_iff {err : SpecificationError} :
    build recordType system state = .error err ↔
      ∃ n, IsFirstRepeat (system.map Column.name ++ state.map Column.name) n ∧
        err = .duplicateColumn recordType n := by
  rw [build]
  split
  · next n hn =>
      constructor
      · rintro ⟨⟩
        exact ⟨n, firstRepeat?_nil_eq_some_iff.1 hn, rfl⟩
      · rintro ⟨m, hm, rfl⟩
        rw [Option.some.inj (hn.symm.trans (firstRepeat?_nil_eq_some_iff.2 hm))]
  · next hnone =>
      refine iff_of_false nofun ?_
      rintro ⟨m, hm, -⟩
      cases hnone.symm.trans (firstRepeat?_nil_eq_some_iff.2 hm)

theorem eq_of_build (h : build recordType system state = .ok s) :
    s.recordType = recordType ∧ s.system = system ∧ s.state = state := by
  rw [build] at h
  split at h
  · cases h
  · cases h
    exact ⟨rfl, rfl, rfl⟩

/-- A specification cannot be built just if a name is declared more than once, and the failure
names the first that is repeated.  Otherwise it has the lists that it was built from, and all
its names are distinct. -/
theorem build_first_repeat (recordType : String) (system : List (Column (Entity ι σ)))
    (state : List (Column σ)) :
    let names := system.map Column.name ++ state.map Column.name
    let built := build recordType system state
    ((∃ err, built = .error err) ↔ ∃ n, 2 ≤ names.count n) ∧
      (∀ err, built = .error err ↔
        ∃ n, IsFirstRepeat names n ∧ err = .duplicateColumn recordType n) ∧
      ∀ s, built = .ok s →
        s.recordType = recordType ∧ s.system = system ∧ s.state = state ∧
          s.columnNames = names ∧ s.columnNames.Nodup := by
  intro names built
  refine ⟨?_, fun err => build_eq_error_iff, fun s hs => ?_⟩
  · rw [← exists_isFirstRepeat_iff]
    constructor
    · rintro ⟨err, herr⟩
      obtain ⟨n, hn, -⟩ := build_eq_error_iff.1 herr
      exact ⟨n, hn⟩
    · rintro ⟨n, hn⟩
      exact ⟨_, build_eq_error_iff.2 ⟨n, hn, rfl⟩⟩
  · obtain ⟨rfl, rfl, rfl⟩ := eq_of_build hs
    exact ⟨rfl, rfl, rfl, rfl, s.distinct⟩

-- Both `b` and `a` are declared twice.  The second `b` comes first.
example :
    build "r" [⟨"a", .int, fun _ : Entity Nat Unit => .null⟩, ⟨"b", .int, fun _ => .null⟩]
        [⟨"b", .bool, fun _ => .null⟩, ⟨"a", .text, fun _ => .null⟩] =
      .error (.duplicateColumn "r" "b") :=
  rfl

/-! ## The column of a name -/

/-- A column is the only one of its name in two lists, and its kind says in which it is. -/
structure OnlyColumn (system : List (Column (Entity ι σ))) (state : List (Column σ))
    (name : ColumnName) (r : ColumnRef ι σ) : Prop where
  filter_eq : (system.map ColumnRef.system ++ state.map ColumnRef.state).filter
    (fun x => x.name = name) = [r]
  system_iff : r.isSystem = true ↔ ∃ c ∈ system, c.name = name
  state_iff : r.isSystem = false ↔ ∃ c ∈ state, c.name = name

theorem onlyColumn_of_find? {name : ColumnName} {r : ColumnRef ι σ} (h : s.find? name = some r) :
    OnlyColumn s.system s.state name r := by
  obtain ⟨hr, rfl⟩ := s.find?_eq_some_iff.1 h
  have hfilter : s.columnRefs.filter (fun x => x.name = r.name) = [r] :=
    filter_key_eq_singleton s.nodup_columnRefs hr
  -- a column of the name in either list is `r`
  have hsystem {c : Column (Entity ι σ)} (hc : c ∈ s.system) (hname : c.name = r.name) :
      .system c = r :=
    s.eq_of_name_eq (List.mem_append_left _ (List.mem_map_of_mem hc)) hr hname
  have hstate {c : Column σ} (hc : c ∈ s.state) (hname : c.name = r.name) : .state c = r :=
    s.eq_of_name_eq (List.mem_append_right _ (List.mem_map_of_mem hc)) hr hname
  rcases List.mem_append.1 hr with hmem | hmem
  · obtain ⟨c, hc, rfl⟩ := List.mem_map.1 hmem
    exact
      { filter_eq := hfilter
        system_iff := iff_of_true rfl ⟨c, hc, rfl⟩
        state_iff := iff_of_false nofun fun ⟨x, hx, hname⟩ => nomatch hstate hx hname }
  · obtain ⟨c, hc, rfl⟩ := List.mem_map.1 hmem
    exact
      { filter_eq := hfilter
        system_iff := iff_of_false nofun fun ⟨x, hx, hname⟩ => nomatch hsystem hx hname
        state_iff := iff_of_true rfl ⟨c, hc, rfl⟩ }

theorem get_eq_ok_iff {name : ColumnName} {r : ColumnRef ι σ} :
    s.get name = .ok r ↔ s.find? name = some r := by
  rw [get]
  cases s.find? name with
  | none => simp
  | some x => simp

theorem get_eq_error_iff {name : ColumnName} {err : ColumnError} :
    s.get name = .error err ↔ s.find? name = none ∧ err = .notFound s.recordType name := by
  rw [get]
  cases s.find? name with
  | none => simp [eq_comm]
  | some r => simp

/-! ## The values of an entity -/

theorem names_valuesIn_perm (e : Entity ι σ) : (s.valuesIn e).names.Perm s.columnNames := by
  have hnames := (s.entries_valuesIn_perm e).map Prod.fst
  rw [List.map_map] at hnames
  rw [← map_name_columnRefs]
  exact hnames

theorem length_columnNames : s.columnNames.length = s.size := by
  rw [columnNames, List.length_append, List.length_map, List.length_map, size]

/-- The map of an entity has an entry for each declared name and no other.  A name that is found
belongs to one column alone, whose value stands in the map, and a name that is not found is
reported. -/
theorem valuesIn_of_build (h : build recordType system state = .ok s) (e : Entity ι σ) :
    (s.valuesIn e).entries.length = s.size ∧
      (s.valuesIn e).names.Perm s.columnNames ∧
      ∀ name,
        (name ∈ (s.valuesIn e).names ↔ (s.find? name).isSome = true) ∧
        (∀ r, s.find? name = some r →
          (s.valuesIn e).get? name = some (r.valueIn e) ∧ OnlyColumn system state name r) ∧
        (∀ r, s.get name = .ok r ↔ s.find? name = some r) ∧
        ∀ err, s.get name = .error err ↔
          s.find? name = none ∧ err = .notFound recordType name := by
  obtain ⟨rfl, rfl, rfl⟩ := eq_of_build h
  have hnames := s.names_valuesIn_perm e
  refine ⟨?_, hnames, fun name => ⟨?_, fun r hr => ⟨?_, onlyColumn_of_find? hr⟩,
    fun r => get_eq_ok_iff, fun err => get_eq_error_iff⟩⟩
  · rw [← length_columnNames, ← hnames.length_eq, Columns.names, List.length_map]
  · rw [hnames.mem_iff, Option.isSome_iff_ne_none, ne_eq, find?_eq_none_iff, not_not]
  · obtain ⟨hmem, rfl⟩ := s.find?_eq_some_iff.1 hr
    exact s.get?_valuesIn hmem e

def addresseeColumn : Column String := ⟨"addressee", .text, .text⟩

/-- Letters by their addressee.  By name, the state column comes before the system column. -/
def letterSpecification : Specification Nat String :=
  ⟨"post.Letter", [archivedColumn], [addresseeColumn], by decide⟩

theorem valuesIn_of_build_letter :
    let letter : Entity Nat String := ⟨7, "Ada", 1, { archived := true }⟩
    let columns := letterSpecification.valuesIn letter
    build "post.Letter" [archivedColumn] [addresseeColumn] = .ok letterSpecification ∧
      columns.entries.length = 2 ∧
      columns.get? "addressee" = some (.text "Ada") ∧
      OnlyColumn [archivedColumn] [addresseeColumn] "archived"
        (.system archivedColumn : ColumnRef Nat String) ∧
      letterSpecification.get "weight" = .error (.notFound "post.Letter" "weight") := by
  intro letter columns
  have hbuild : build "post.Letter" [archivedColumn] [addresseeColumn] = .ok letterSpecification :=
    rfl
  obtain ⟨hlength, -, hnames⟩ := valuesIn_of_build hbuild letter
  obtain ⟨-, haddressee, -⟩ := hnames "addressee"
  obtain ⟨-, harchived, -⟩ := hnames "archived"
  obtain ⟨-, -, -, hweight⟩ := hnames "weight"
  exact ⟨hbuild, hlength, (haddressee _ rfl).1, (harchived _ rfl).2, (hweight _).2 ⟨rfl, rfl⟩⟩

end Specification

end Switchboard.Records
