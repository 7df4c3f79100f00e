import Mathlib.Data.List.Induction
import Switchboard.Proofs.Records.Naming
import Switchboard.Records.CacheSession

/-!
# What a cache hands out

Every entry of a cache is the specification of the entity type that it is kept under, and no
entity type has two (`Coherent`).  So what is found is of the right type, and the check on the way
out always passes (`get_of_found`).  Entries are only ever added at the end.

An entry is made by the first request for its entity type, if the declared names are distinct,
and it is what that request and all the later ones are answered with: the entries are just what
was handed out (`handed_iff`).  Whatever else was asked for in between, `get_getAll` says which
requests scan columns, and what each one gives.
-/

namespace Switchboard.Records

variable {κ : Type} {ι σ : κ → Type} {j k : κ}

/-- A specification as it is kept in a cache. -/
def Shared.erase (t : Shared (Specification (ι k) (σ k))) : Shared (AnySpecification ι σ) :=
  ⟨t.serial, k, t.value⟩

theorem Shared.downcast_erase [DecidableEq κ] (t : Shared (Specification (ι k) (σ k))) :
    t.erase.downcast k = .ok t :=
  dif_pos rfl

theorem Shared.erase_injective :
    Function.Injective (Shared.erase : Shared (Specification (ι k) (σ k)) → _) := by
  rintro ⟨n, s⟩ ⟨m, t⟩ h
  cases h
  rfl

namespace SpecificationCache

variable [DecidableEq κ] {declared : (k : κ) → EntityColumns (ι k) (σ k)}
  {c : SpecificationCache κ ι σ} {ks : List κ}

/-- The cache after some specifications were asked for, the first one first. -/
def getAll (declared : (k : κ) → EntityColumns (ι k) (σ k)) :
    List κ → SpecificationCache κ ι σ → SpecificationCache κ ι σ
  | [], c => c
  | k :: ks, c => getAll declared ks (c.get k (declared k)).2

/-- One of some requests to an empty cache is for an entity type, and it is answered with a
specification. -/
def Handed (declared : (k : κ) → EntityColumns (ι k) (σ k)) (ks : List κ) (k : κ)
    (t : Shared (Specification (ι k) (σ k))) : Prop :=
  ∃ before after, ks = before ++ k :: after ∧
    ((getAll declared before {}).get k (declared k)).1 = .ok t

/-! ## One request -/

theorem get_of_found {d : EntityColumns (ι k) (σ k)} {t : Shared (Specification (ι k) (σ k))}
    (h : c.find? k = some t.erase) : c.get k d = (.ok t, c) := by
  rw [get, h]
  exact Prod.ext t.downcast_erase rfl

theorem get_of_failed {d : EntityColumns (ι k) (σ k)} {e : SpecificationError}
    (h : c.find? k = none) (he : Specification.of d = .error e) :
    c.get k d = (.error e, { c with scans := c.scans ++ [k] }) := by
  simp only [get, h, he]

theorem get_of_built {d : EntityColumns (ι k) (σ k)} {s : Specification (ι k) (σ k)}
    (h : c.find? k = none) (hs : Specification.of d = .ok s) :
    c.get k d = (.ok ⟨c.scans.length, s⟩,
      { entries := c.entries ++ [(k, ⟨c.scans.length, k, s⟩)]
        scans := c.scans ++ [k]
        log := c.log
          ++ [⟨.debug, "record specification cached",
            [("record_type", .text d.recordType)]⟩] }) := by
  -- nothing was entered while the columns were scanned
  have hscanned : { c with scans := c.scans ++ [k] }.find? k = none := h
  simp only [get, h, hs, enter, hscanned]
  exact Prod.ext (Shared.downcast_erase ⟨c.scans.length, s⟩) rfl

/-! ## The entries -/

theorem mem_of_find? {f : Shared (AnySpecification ι σ)} (h : c.find? k = some f) :
    (k, f) ∈ c.entries := by
  obtain ⟨l₁, l₂, hentries, -⟩ := List.lookup_eq_some_iff.1 h
  exact hentries ▸ List.mem_append_right _ List.mem_cons_self

theorem lookup_concat {α : Type} {l : List (κ × α)} {a b : α} :
    List.lookup k (l ++ [(j, a)]) = some b ↔
      List.lookup k l = some b ∨ List.lookup k l = none ∧ k = j ∧ a = b := by
  rw [List.lookup_append, Option.or_eq_some_iff, List.lookup_cons]
  by_cases hkj : k = j
  · simp [hkj]
  · simp [hkj, beq_eq_false_iff_ne.2 hkj]

theorem contains_iff_mem : c.contains k = true ↔ k ∈ c.entries.map Prod.fst := by
  rw [contains, find?, List.lookup_isSome_iff]
  simp only [List.mem_map, beq_iff_eq, eq_comm (a := k)]

/-- Every entry was built from what its entity type declares, after fewer scans than there are by
now. -/
structure Coherent (declared : (k : κ) → EntityColumns (ι k) (σ k))
    (c : SpecificationCache κ ι σ) : Prop where
  distinct : (c.entries.map Prod.fst).Nodup
  entry : ∀ e ∈ c.entries, ∃ t : Shared (Specification (ι e.1) (σ e.1)),
    e.2 = t.erase ∧ Specification.of (declared e.1) = .ok t.value ∧ t.serial < c.scans.length

omit [DecidableEq κ] in
theorem coherent_empty : Coherent declared {} where
  distinct := List.nodup_nil
  entry := nofun

theorem Coherent.found (h : Coherent declared c) {f : Shared (AnySpecification ι σ)}
    (hf : c.find? k = some f) :
    ∃ t : Shared (Specification (ι k) (σ k)),
      f = t.erase ∧ Specification.of (declared k) = .ok t.value ∧ t.serial < c.scans.length :=
  h.entry (k, f) (mem_of_find? hf)

theorem Coherent.get_of_error (h : Coherent declared c) {e : SpecificationError}
    (he : Specification.of (declared k) = .error e) :
    c.get k (declared k) = (.error e, { c with scans := c.scans ++ [k] }) := by
  cases hfound : c.find? k with
  | none => exact get_of_failed hfound he
  | some f =>
      obtain ⟨t, -, hof, -⟩ := h.found hfound
      cases he.symm.trans hof

/-- A request gives what is there, or it scans the columns, and then it fails and enters nothing,
or it enters what it built. -/
theorem Coherent.get_cases (h : Coherent declared c) (k : κ) :
    (∃ t, Specification.of (declared k) = .ok t.value ∧ c.find? k = some t.erase ∧
      c.get k (declared k) = (.ok t, c)) ∨
    (∃ e, Specification.of (declared k) = .error e ∧
      c.get k (declared k) = (.error e, { c with scans := c.scans ++ [k] })) ∨
    ∃ t log, Specification.of (declared k) = .ok t.value ∧ c.find? k = none ∧
      t.serial = c.scans.length ∧
      c.get k (declared k) = (.ok t,
        { entries := c.entries ++ [(k, t.erase)], scans := c.scans ++ [k], log := log }) := by
  cases hof : Specification.of (declared k) with
  | error e => exact .inr (.inl ⟨e, rfl, h.get_of_error hof⟩)
  | ok s =>
      cases hfound : c.find? k with
      | none => exact .inr (.inr ⟨⟨_, s⟩, _, rfl, rfl, rfl, get_of_built hfound hof⟩)
      | some f =>
          obtain ⟨t, rfl, ht, -⟩ := h.found hfound
          exact .inl ⟨t, hof.symm.trans ht, rfl, get_of_found hfound⟩

theorem Coherent.get (h : Coherent declared c) (k : κ) :
    Coherent declared (c.get k (declared k)).2 := by
  have hlonger : c.scans.length < (c.scans ++ [k]).length := by simp
  -- the entries that are there stay what they are, with one more scan
  have hkept : ∀ e ∈ c.entries, ∃ t : Shared (Specification (ι e.1) (σ e.1)),
      e.2 = t.erase ∧ Specification.of (declared e.1) = .ok t.value ∧
        t.serial < (c.scans ++ [k]).length := by
    intro e he
    obtain ⟨t, ht, hof, hlt⟩ := h.entry e he
    exact ⟨t, ht, hof, Nat.lt_trans hlt hlonger⟩
  obtain ⟨t, -, -, hget⟩ | ⟨e, -, hget⟩ | ⟨t, log, hof, hnone, hserial, hget⟩ := h.get_cases k
  · rw [hget]
    exact h
  · rw [hget]
    exact ⟨h.distinct, hkept⟩
  · have hk : k ∉ c.entries.map Prod.fst := by
      rw [← contains_iff_mem, contains, hnone]
      simp
    rw [hget]
    constructor
    · rw [List.map_append]
      refine List.nodup_append.2 ⟨h.distinct, List.nodup_singleton k, fun a ha b hb hab => hk ?_⟩
      obtain rfl : b = k := List.mem_singleton.1 hb
      exact hab ▸ ha
    · intro e he
      obtain he | he := List.mem_append.1 he
      · exact hkept e he
      · obtain rfl := List.mem_singleton.1 he
        exact ⟨t, rfl, hof, hserial ▸ hlonger⟩

/-- Entries are added at the end. -/
theorem Coherent.entries_get (h : Coherent declared c) (k : κ) :
    c.entries <+: (c.get k (declared k)).2.entries := by
  obtain ⟨t, -, -, hget⟩ | ⟨e, -, hget⟩ | ⟨t, log, -, -, -, hget⟩ := h.get_cases k
  · exact hget ▸ List.prefix_refl c.entries
  · exact hget ▸ List.prefix_refl c.entries
  · exact hget ▸ List.prefix_append c.entries _

/-! ## A run of requests -/

theorem getAll_append (ks ks' : List κ) (c : SpecificationCache κ ι σ) :
    getAll declared (ks ++ ks') c = getAll declared ks' (getAll declared ks c) := by
  induction ks generalizing c with
  | nil => rfl
  | cons k ks ih => exact ih _

theorem Coherent.getAll (h : Coherent declared c) (ks : List κ) :
    Coherent declared (getAll declared ks c) := by
  induction ks generalizing c with
  | nil => exact h
  | cons k ks ih => exact ih (h.get k)

theorem Coherent.entries_getAll (h : Coherent declared c) (ks : List κ) :
    c.entries <+: (SpecificationCache.getAll declared ks c).entries := by
  induction ks generalizing c with
  | nil => exact List.prefix_refl _
  | cons k ks ih => exact (h.entries_get k).trans (ih (h.get k))

theorem coherent_getAll (declared : (k : κ) → EntityColumns (ι k) (σ k)) (ks : List κ) :
    Coherent declared (getAll declared ks {}) :=
  coherent_empty.getAll ks

/-- What a request is answered with is an entry from then on. -/
theorem Coherent.find?_get (h : Coherent declared c) {t : Shared (Specification (ι k) (σ k))}
    (ht : (c.get k (declared k)).1 = .ok t) :
    (c.get k (declared k)).2.find? k = some t.erase := by
  obtain ⟨u, -, hfound, hget⟩ | ⟨e, -, hget⟩ | ⟨u, log, -, hnone, -, hget⟩ := h.get_cases k
  · rw [hget] at ht ⊢
    cases ht
    exact hfound
  · rw [hget] at ht
    cases ht
  · rw [hget] at ht ⊢
    cases ht
    exact lookup_concat.2 (.inr ⟨hnone, rfl, rfl⟩)

theorem handed_append {t : Shared (Specification (ι k) (σ k))} (h : Handed declared ks k t)
    (ks' : List κ) : Handed declared (ks ++ ks') k t := by
  obtain ⟨before, after, rfl, ht⟩ := h
  exact ⟨before, after ++ ks', by simp, ht⟩

/-- The entries are what was handed out. -/
theorem handed_iff {t : Shared (Specification (ι k) (σ k))} :
    Handed declared ks k t ↔ (getAll declared ks {}).find? k = some t.erase := by
  constructor
  · rintro ⟨before, after, rfl, ht⟩
    have hc := coherent_getAll declared before
    rw [getAll_append]
    exact ((hc.get k).entries_getAll after).lookup_eq_some (hc.find?_get ht)
  · intro h
    induction ks using List.reverseRecOn with
    | nil => cases h
    | append_singleton ks j ih =>
        rw [getAll_append] at h
        obtain ⟨u, -, -, hget⟩ | ⟨e, -, hget⟩ | ⟨u, log, -, hnone, -, hget⟩ :=
          (coherent_getAll declared ks).get_cases j
        · rw [getAll, getAll, hget] at h
          exact handed_append (ih h) [j]
        · rw [getAll, getAll, hget] at h
          exact handed_append (ih h) [j]
        · rw [getAll, getAll, hget] at h
          obtain h | ⟨-, rfl, h⟩ := lookup_concat.1 h
          · exact handed_append (ih h) [j]
          · -- the entry is the last request's own
            obtain rfl := Shared.erase_injective h
            exact ⟨ks, [], rfl, by rw [hget]⟩

theorem contains_getAll_iff :
    (getAll declared ks {}).contains k = true ↔ ∃ t, Handed declared ks k t := by
  simp only [handed_iff, contains, Option.isSome_iff_exists]
  constructor
  · rintro ⟨f, hf⟩
    obtain ⟨t, rfl, -⟩ := (coherent_getAll declared ks).found hf
    exact ⟨t, hf⟩
  · rintro ⟨t, ht⟩
    exact ⟨_, ht⟩

/-- Asks for a specification after others were asked for.  What is handed out is what the
entity type declares, whatever came before.  A failed scan names the first repeated column, it
enters nothing, and the next request fails likewise.  The first request that succeeds scans the
columns and hands out something new, and then the very same is handed out without a scan.  The
entity types with an entry are those of which something was handed out. -/
theorem get_getAll (declared : (k : κ) → EntityColumns (ι k) (σ k)) (ks : List κ) (k : κ) :
    let c := getAll declared ks {}
    let reply := c.get k (declared k)
    reply.1.map Shared.value = Specification.of (declared k) ∧
      (∀ e, Specification.of (declared k) = .error e →
        reply.1 = .error e ∧
          (∃ n, IsFirstRepeat ((declared k).system.map Column.name
              ++ (declared k).state.map Column.name) n ∧
            e = .duplicateColumn (declared k).recordType n) ∧
          reply.2.scans = c.scans ++ [k] ∧ reply.2.entries = c.entries ∧
          (reply.2.get k (declared k)).1 = .error e) ∧
      (∀ s, Specification.of (declared k) = .ok s → (¬ ∃ t, Handed declared ks k t) →
        reply.2.scans = c.scans ++ [k] ∧
          ∃ t, reply.1 = .ok t ∧ t.value = s ∧
            ∀ j u, Handed declared ks j u → u.serial ≠ t.serial) ∧
      (∀ t, Handed declared ks k t → reply = (.ok t, c)) ∧
      (∀ j, c.contains j = true ↔ ∃ t, Handed declared ks j t) ∧
      ∃ js : List κ, js.Nodup ∧ (∀ j, j ∈ js ↔ ∃ t, Handed declared ks j t) ∧
        c.size = js.length := by
  intro c reply
  have hc : Coherent declared c := coherent_getAll declared ks
  refine ⟨?value, ?failed, ?first, ?again, fun j => contains_getAll_iff, ?size⟩
  case value =>
    obtain ⟨t, hof, -, hget⟩ | ⟨e, hof, hget⟩ | ⟨t, log, hof, -, -, hget⟩ := hc.get_cases k
    all_goals
      rw [hof]
      exact congrArg (fun r => r.1.map Shared.value) hget
  case failed =>
    intro e he
    have hget : reply = _ := hc.get_of_error he
    have hagain := (hc.get k).get_of_error he
    obtain ⟨n, hn, rfl⟩ := Specification.build_eq_error_iff.1 he
    exact ⟨congrArg Prod.fst hget, ⟨n, hn, rfl⟩, congrArg (fun r => r.2.scans) hget,
      congrArg (fun r => r.2.entries) hget, congrArg Prod.fst hagain⟩
  case first =>
    intro s hs hnew
    obtain ⟨t, -, hfound, -⟩ | ⟨e, hof, -⟩ | ⟨t, log, hof, -, hserial, hget⟩ := hc.get_cases k
    · exact absurd ⟨t, handed_iff.2 hfound⟩ hnew
    · cases hof.symm.trans hs
    · cases hof.symm.trans hs
      refine ⟨congrArg (fun r => r.2.scans) hget, t, congrArg Prod.fst hget, rfl, ?_⟩
      intro j u hu
      obtain ⟨v, hv, -, hlt⟩ := hc.found (handed_iff.1 hu)
      obtain rfl := Shared.erase_injective hv
      exact hserial ▸ Nat.ne_of_lt hlt
  case again => exact fun t ht => get_of_found (handed_iff.1 ht)
  case size =>
    refine ⟨c.entries.map Prod.fst, hc.distinct, fun j => ?_, (List.length_map _).symm⟩
    rw [← contains_iff_mem, contains_getAll_iff]

/-- The columns of parcels declare their weight twice. -/
def officeColumns : (k : EntityType) → EntityColumns k.Id k.State
  | .counter => counterColumns
  | .declared 0 => Declaration.columns ⟨"parcel", none, [⟨"weight", .int, 0⟩, ⟨"weight", .text, 1⟩]⟩
  | .declared (_ + 1) => Declaration.columns ⟨"letter", none, [⟨"weight", .int, 0⟩]⟩

-- The counters were scanned second.  Parcels fail again, and letters are scanned now.
theorem get_getAll_office :
    let c := getAll officeColumns [.declared 0, .counter] {}
    (∃ t, c.get .counter counterColumns = (.ok t, c) ∧ t.serial = 1) ∧
      (c.get (.declared 0) (officeColumns (.declared 0))).1
        = .error (.duplicateColumn "parcel" "weight") ∧
      (c.get (.declared 1) (officeColumns (.declared 1))).2.scans
        = [.declared 0, .counter, .declared 1] := by
  intro c
  have hcounter : ∃ t, Handed officeColumns [.declared 0, .counter] .counter t ∧ t.serial = 1 :=
    ⟨_, ⟨[.declared 0], [], rfl, rfl⟩, rfl⟩
  obtain ⟨t, ht, hserial⟩ := hcounter
  have hletter : ¬ ∃ t, Handed officeColumns [.declared 0, .counter] (.declared 1) t := by
    rw [← contains_getAll_iff]
    decide
  obtain ⟨-, -, -, hagain, -⟩ := get_getAll officeColumns [.declared 0, .counter] .counter
  obtain ⟨-, hfailed, -⟩ := get_getAll officeColumns [.declared 0, .counter] (.declared 0)
  obtain ⟨-, -, hfirst, -⟩ := get_getAll officeColumns [.declared 0, .counter] (.declared 1)
  exact ⟨⟨t, hagain t ht, hserial⟩, (hfailed _ rfl).1, (hfirst _ rfl hletter).1⟩

end SpecificationCache

end Switchboard.Records
