import Switchboard.Proofs.Records.Meaning

/-!
# What validation looks at

Validation of a query looks at its *mentions* of columns: the comparisons of the predicate, at
every depth and from left to right, and then the sort keys (`Query.mentions`).  A mention fits
a catalog if its column is declared and its constant, if it has one, is null or of the declared
type (`Mention.Fits`).  Otherwise it is at fault in one of two ways, and an undeclared column
comes before the type of the constant (`Mention.Fault`).

A query is valid just if all its mentions fit, and otherwise the failure is the first fault
(`Query.validate_first_fault`).  Nothing but the mentions and their order counts.  So, unlike
evaluation, validation does not stop where a part settles the whole, and it does not tell
conjunctions from disjunctions.

The argument is in two steps.  To validate is to check one mention after the other, up to the
first that does not pass (`Predicate.validate_eq`), by induction over the predicate, since the
checks of two lists in a row are the checks of their concatenation (`checkEach_append`).  What
such a run of checks comes to does not depend on what is checked (`forM_eq_error_iff`).
-/

namespace Switchboard.Records

/-- A place of a query that names a column, with the constant that the column is compared with.
A sort key compares with none. -/
structure Mention where
  column : ColumnName
  constant? : Option ColumnValue
deriving DecidableEq

namespace Mention

variable {k : Catalog} {m : Mention} {ms : List Mention} {e : QueryError}

/-- The column is declared, and the constant is null or has the declared type. -/
def Fits (k : Catalog) (m : Mention) : Prop :=
  ∃ t, k.typeOf? m.column = some t ∧ ∀ v ∈ m.constant?, v = .null ∨ v.type? = some t

/-- What is wrong with a mention. -/
inductive Fault (k : Catalog) : Mention → QueryError → Prop where
  /-- The column is not declared, whatever the constant is. -/
  | undeclared {column : ColumnName} {constant? : Option ColumnValue} :
      k.typeOf? column = none →
        Fault k ⟨column, constant?⟩ (.column (.notFound k.recordType column))
  /-- The constant has another type than the column. -/
  | mistyped {column : ColumnName} {v : ColumnValue} {expected found : ColumnType} :
      k.typeOf? column = some expected → v.type? = some found → found ≠ expected →
        Fault k ⟨column, some v⟩ (.valueTypeMismatch column expected found)

/-- The first fault in a list of mentions: all mentions before it fit. -/
def FirstFault (k : Catalog) (ms : List Mention) (e : QueryError) : Prop :=
  ∃ before m after, ms = before ++ m :: after ∧ (∀ n ∈ before, n.Fits k) ∧ m.Fault k e

/-! ## Checks of mentions -/

/-- Checks one mention. -/
def check (k : Catalog) : Mention → Except QueryError Unit
  | ⟨column, some v⟩ => Predicate.validateCompare k column v
  | ⟨column, none⟩ =>
      match Predicate.declaredType k column with
      | .error e => .error e
      | .ok _ => .ok ()

/-- Checks one mention after the other, up to the first that does not pass. -/
def checkEach (k : Catalog) : List Mention → Except QueryError Unit
  | [] => .ok ()
  | m :: ms =>
      match m.check k with
      | .error e => .error e
      | .ok () => checkEach k ms

theorem check_eq_ok_iff : m.check k = .ok () ↔ m.Fits k := by
  obtain ⟨column, constant?⟩ := m
  cases constant? with
  | none =>
      rw [check, Predicate.declaredType, Fits]
      cases k.typeOf? column with
      | none => simp
      | some t => simp
  | some v =>
      simp [check, Fits, Predicate.validateCompare_eq_ok_iff, ColumnValue.conformsTo_iff,
        ColumnValue.type?_eq_none_iff]

theorem Fault.check_eq (h : m.Fault k e) : m.check k = .error e := by
  cases h with
  | @undeclared column constant? hcolumn =>
      cases constant? with
      | none => rw [check, Predicate.declaredType, hcolumn]
      | some v => rw [check, Predicate.validateCompare, Predicate.declaredType, hcolumn]
  | mistyped hcolumn hv hne =>
      rw [check, Predicate.validateCompare, Predicate.declaredType, hcolumn]
      simp only [hv, if_neg hne]

/-- What does not fit is at fault. -/
theorem exists_fault (h : ¬ m.Fits k) : ∃ e, m.Fault k e := by
  obtain ⟨column, constant?⟩ := m
  cases hcolumn : k.typeOf? column with
  | none => exact ⟨_, .undeclared hcolumn⟩
  | some expected =>
      cases constant? with
      | none => exact absurd ⟨expected, hcolumn, nofun⟩ h
      | some v =>
          have hfits (hv : v = .null ∨ v.type? = some expected) : Fits k ⟨column, some v⟩ :=
            ⟨expected, hcolumn, by simpa using hv⟩
          cases hv : v.type? with
          | none => exact absurd (hfits (.inl (ColumnValue.type?_eq_none hv))) h
          | some found =>
              exact ⟨_, .mistyped hcolumn hv fun heq => h (hfits (.inr (by rw [hv, heq])))⟩

theorem check_eq_error_iff : m.check k = .error e ↔ m.Fault k e := by
  refine ⟨fun h => ?_, Fault.check_eq⟩
  have hfits : ¬ m.Fits k := fun hfits => by
    rw [check_eq_ok_iff.2 hfits] at h
    cases h
  obtain ⟨e', he'⟩ := exists_fault hfits
  obtain rfl := Except.error.inj (he'.check_eq.symm.trans h)
  exact he'

/-! ## Checks in a row -/

theorem checkEach_eq_forM (k : Catalog) (ms : List Mention) :
    checkEach k ms = forM ms (check k) := by
  induction ms with
  | nil => rfl
  | cons m ms ih =>
      rw [checkEach, List.forM_cons, ih]
      cases m.check k with
      | error e => rfl
      | ok u => rfl

/-- The second of two lists is checked just if the first passes. -/
theorem checkEach_append (k : Catalog) (ms ns : List Mention) :
    checkEach k (ms ++ ns) =
      match checkEach k ms with
      | .error e => .error e
      | .ok () => checkEach k ns := by
  rw [checkEach_eq_forM, checkEach_eq_forM, checkEach_eq_forM, List.forM_append]
  cases forM ms (check k) with
  | error e => rfl
  | ok u => rfl

theorem checkEach_eq_ok_iff : checkEach k ms = .ok () ↔ ∀ m ∈ ms, m.Fits k := by
  rw [checkEach_eq_forM, forM_eq_ok_iff]
  exact forall₂_congr fun m _ => check_eq_ok_iff

theorem checkEach_eq_error_iff : checkEach k ms = .error e ↔ FirstFault k ms e := by
  rw [checkEach_eq_forM, forM_eq_error_iff]
  simp only [check_eq_ok_iff, check_eq_error_iff, FirstFault]

end Mention

/-! ## Predicates and queries -/

namespace Predicate

mutual

/-- The comparisons of a predicate, from left to right. -/
def mentions : Predicate → List Mention
  | const _ => []
  | compare column _ v => [⟨column, some v⟩]
  | all ps => mentionsEach ps
  | either ps => mentionsEach ps

/-- The comparisons of predicates, one predicate after the other. -/
def mentionsEach : List Predicate → List Mention
  | [] => []
  | p :: ps => mentions p ++ mentionsEach ps

end

mutual

/-- To validate a predicate is to check its comparisons from left to right. -/
theorem validate_eq (k : Catalog) : ∀ p : Predicate, p.validate k = Mention.checkEach k p.mentions
  | const _ => by
      rw [validate, mentions]
      rfl
  | compare column o v => by
      rw [validate, mentions, Mention.checkEach, Mention.check]
      cases validateCompare k column v with
      | error e => rfl
      | ok u => rfl
  | all ps => by rw [validate, mentions, validateEach_eq k ps]
  | either ps => by rw [validate, mentions, validateEach_eq k ps]

theorem validateEach_eq (k : Catalog) :
    ∀ ps : List Predicate, validateEach k ps = Mention.checkEach k (mentionsEach ps)
  | [] => by
      rw [validateEach, mentionsEach]
      rfl
  | p :: ps => by
      rw [validateEach, mentionsEach, Mention.checkEach_append, validate_eq k p]
      cases Mention.checkEach k p.mentions with
      | error e => rfl
      | ok u => exact validateEach_eq k ps

end

end Predicate

namespace Query

/-- The comparisons of the predicate, and then the sort keys. -/
def mentions (q : Query) : List Mention :=
  q.predicate.mentions ++ q.orderBy.map fun o => ⟨o.column, none⟩

theorem validateKeys_eq (k : Catalog) (os : List OrderBy) :
    validateKeys k os = Mention.checkEach k (os.map fun o => ⟨o.column, none⟩) := by
  induction os with
  | nil => rfl
  | cons o os ih =>
      rw [validateKeys, List.map_cons, Mention.checkEach, Mention.check, ih]
      cases Predicate.declaredType k o.column with
      | error e => rfl
      | ok t => rfl

theorem validate_eq (k : Catalog) (q : Query) : q.validate k = Mention.checkEach k q.mentions := by
  rw [validate, mentions, Mention.checkEach_append, q.predicate.validate_eq]
  cases Mention.checkEach k q.predicate.mentions with
  | error e => rfl
  | ok u => exact validateKeys_eq k q.orderBy

/-- A query is valid for a catalog just if all its mentions of columns fit, and otherwise the
failure is the first fault.  How the comparisons are composed, and with which constants, does not
matter. -/
theorem validate_first_fault (k : Catalog) (q : Query) :
    (q.validate k = .ok () ↔ ∀ m ∈ q.mentions, m.Fits k) ∧
      (∀ e, q.validate k = .error e ↔ Mention.FirstFault k q.mentions e) ∧
      ∀ q' : Query, q'.mentions = q.mentions → q'.validate k = q.validate k := by
  refine ⟨?_, fun e => ?_, fun q' hq' => ?_⟩
  · rw [validate_eq, Mention.checkEach_eq_ok_iff]
  · rw [validate_eq, Mention.checkEach_eq_error_iff]
  · rw [validate_eq, validate_eq, hq']

/-- Two faults, neither of which evaluation comes to.  No parcel declares a color, and a weight is
not a text. -/
def misjudged : Query :=
  matching (.all [.const false, .either [.light, .compare "color" .equal .null],
    .compare "weight" .lessThan (.text "heavy")])

/-- The same comparisons, composed in another way. -/
def recomposed : Query :=
  matching (.either [.light, .all [.compare "color" .greaterThan .null, .const true,
    .compare "weight" .equal (.text "heavy")]])

/-- The fault that comes first is reported, after a comparison that fits. -/
theorem validate_first_fault_parcel :
    let k := Predicate.parcelSpecification.catalog
    misjudged.predicate.eval .empty = .ok false ∧
      Mention.FirstFault k misjudged.mentions (.column (.notFound "post.Parcel" "color")) ∧
      misjudged.validate k = .error (.column (.notFound "post.Parcel" "color")) ∧
      recomposed.mentions = misjudged.mentions ∧
      recomposed.validate k = .error (.column (.notFound "post.Parcel" "color")) := by
  intro k
  have hlight : Mention.Fits k ⟨"weight", some (.int 20)⟩ :=
    ⟨.int, rfl, fun v hv => .inr (Option.some.inj hv ▸ rfl)⟩
  have hfault :
      Mention.FirstFault k misjudged.mentions (.column (.notFound "post.Parcel" "color")) :=
    ⟨[⟨"weight", some (.int 20)⟩], ⟨"color", some .null⟩, [⟨"weight", some (.text "heavy")⟩], rfl,
      List.forall_mem_singleton.2 hlight, .undeclared rfl⟩
  have hsame : recomposed.mentions = misjudged.mentions := rfl
  obtain ⟨-, hreported, hcomposed⟩ := validate_first_fault k misjudged
  have hmisjudged := (hreported _).2 hfault
  exact ⟨rfl, hfault, hmisjudged, hsame, (hcomposed recomposed hsame).trans hmisjudged⟩

end Query

end Switchboard.Records
