import Switchboard.Records.Predicate

/-!
# Evaluation up to the first answer that settles it

The parts of a conjunction and of a disjunction are evaluated alike.  An answer is *neutral* if
it leaves the rest to be evaluated: true in a conjunction, false in a disjunction.  The first
answer that is not neutral, be it the other truth value or a failure, is the answer of the
whole (`firstUnlike`), and what comes after it does not matter.

So an answer other than the neutral one is given just if some part gives it and all parts
before that part are neutral, and the neutral one is given just if all parts are
(`StopsAt.of_firstUnlike`).  The first answer of a concatenation is found in the first list or
else in the second, so a part that is itself composed in the same way may be replaced by its
own parts, and every failure stays where it was (`eval_stopsAt`).
-/

namespace Switchboard.Records.Predicate

/-- What evaluation comes to. -/
abbrev Answer := Except QueryError Bool

/-! ## Answers in a row -/

/-- The first answer that is not the neutral one, or the neutral one if there is no other. -/
def firstUnlike (neutral : Bool) : List Answer → Answer
  | [] => .ok neutral
  | .ok b :: rest => if b = neutral then firstUnlike neutral rest else .ok b
  | .error e :: _ => .error e

variable {neutral : Bool} {answers : List Answer}

theorem firstUnlike_neutral_cons (neutral : Bool) (answers : List Answer) :
    firstUnlike neutral (.ok neutral :: answers) = firstUnlike neutral answers := by
  rw [firstUnlike, if_pos rfl]

theorem firstUnlike_cons_of_ne {a : Answer} (ha : a ≠ .ok neutral) (answers : List Answer) :
    firstUnlike neutral (a :: answers) = a := by
  cases a with
  | error e => rfl
  | ok b => rw [firstUnlike, if_neg fun hb => ha (congrArg Except.ok hb)]

/-- The neutral answer is given just if there is no other. -/
theorem firstUnlike_eq_neutral_iff :
    firstUnlike neutral answers = .ok neutral ↔ ∀ a ∈ answers, a = .ok neutral := by
  induction answers with
  | nil => simp [firstUnlike]
  | cons a answers ih =>
      by_cases ha : a = .ok neutral
      · rw [ha, firstUnlike_neutral_cons, ih]
        simp
      · rw [firstUnlike_cons_of_ne ha]
        simp [ha]

/-- Another answer is given just if it comes after neutral ones only. -/
theorem firstUnlike_eq_iff {a : Answer} (ha : a ≠ .ok neutral) :
    firstUnlike neutral answers = a ↔
      ∃ before after, answers = before ++ a :: after ∧ ∀ b ∈ before, b = .ok neutral := by
  constructor
  · intro h
    induction answers with
    | nil => exact absurd h.symm ha
    | cons b answers ih =>
        by_cases hb : b = .ok neutral
        · rw [hb, firstUnlike_neutral_cons] at h
          obtain ⟨before, after, hanswers, hbefore⟩ := ih h
          exact ⟨b :: before, after, by rw [hanswers, List.cons_append],
            List.forall_mem_cons.2 ⟨hb, hbefore⟩⟩
        · rw [firstUnlike_cons_of_ne hb] at h
          exact ⟨[], answers, by rw [h, List.nil_append], by simp⟩
  · rintro ⟨before, after, rfl, hbefore⟩
    induction before with
    | nil => exact firstUnlike_cons_of_ne ha after
    | cons b before ih =>
        obtain ⟨hb, hbefore⟩ := List.forall_mem_cons.1 hbefore
        rw [List.cons_append, hb, firstUnlike_neutral_cons, ih hbefore]

/-- After neutral answers only, the rest decides. -/
theorem firstUnlike_append_of_eq {before : List Answer}
    (h : firstUnlike neutral before = .ok neutral) (after : List Answer) :
    firstUnlike neutral (before ++ after) = firstUnlike neutral after := by
  induction before with
  | nil => rfl
  | cons b before ih =>
      obtain ⟨hb, hbefore⟩ := List.forall_mem_cons.1 (firstUnlike_eq_neutral_iff.1 h)
      rw [List.cons_append, hb, firstUnlike_neutral_cons]
      exact ih (firstUnlike_eq_neutral_iff.2 hbefore)

/-- After an answer that is not neutral, the rest does not matter. -/
theorem firstUnlike_append_of_ne {before : List Answer}
    (h : firstUnlike neutral before ≠ .ok neutral) (after : List Answer) :
    firstUnlike neutral (before ++ after) = firstUnlike neutral before := by
  obtain ⟨left, right, hbefore, hleft⟩ := (firstUnlike_eq_iff h).1 rfl
  refine (firstUnlike_eq_iff h).2 ⟨left, right ++ after, ?_, hleft⟩
  rw [← List.cons_append, ← List.append_assoc, ← hbefore]

/-- Some answers in a row may be replaced by what they come to. -/
theorem firstUnlike_fold (before inner after : List Answer) :
    firstUnlike neutral (before ++ [firstUnlike neutral inner] ++ after) =
      firstUnlike neutral (before ++ inner ++ after) := by
  rw [List.append_assoc, List.append_assoc]
  by_cases hbefore : firstUnlike neutral before = .ok neutral
  · rw [firstUnlike_append_of_eq hbefore, firstUnlike_append_of_eq hbefore]
    by_cases hinner : firstUnlike neutral inner = .ok neutral
    · rw [firstUnlike_append_of_eq hinner, hinner]
      exact firstUnlike_neutral_cons neutral after
    · rw [firstUnlike_append_of_ne hinner]
      exact firstUnlike_cons_of_ne hinner after
  · rw [firstUnlike_append_of_ne hbefore, firstUnlike_append_of_ne hbefore]

/-! ## Conjunctions and disjunctions -/

variable {c : Columns}

theorem evalAll_eq (c : Columns) (ps : List Predicate) :
    evalAll c ps = firstUnlike true (ps.map (eval c)) := by
  induction ps with
  | nil => rfl
  | cons p ps ih =>
      rw [evalAll, ih, List.map_cons]
      match p.eval c with
      | .error e => rfl
      | .ok false => rfl
      | .ok true => rfl

theorem evalEither_eq (c : Columns) (ps : List Predicate) :
    evalEither c ps = firstUnlike false (ps.map (eval c)) := by
  induction ps with
  | nil => rfl
  | cons p ps ih =>
      rw [evalEither, ih, List.map_cons]
      match p.eval c with
      | .error e => rfl
      | .ok false => rfl
      | .ok true => rfl

theorem eval_all (c : Columns) (ps : List Predicate) :
    (all ps).eval c = firstUnlike true (ps.map (eval c)) := by
  rw [eval, evalAll_eq]

theorem eval_either (c : Columns) (ps : List Predicate) :
    (either ps).eval c = firstUnlike false (ps.map (eval c)) := by
  rw [eval, evalEither_eq]

/-- Some predicate of a list gives an answer, and all before it give the neutral one. -/
def Reaches (c : Columns) (neutral : Bool) (ps : List Predicate) (a : Answer) : Prop :=
  ∃ before p after, ps = before ++ p :: after ∧ p.eval c = a ∧
    ∀ q ∈ before, q.eval c = .ok neutral

/-- An answer is the one to a list of predicates that are evaluated in order, up to the first
that does not give the neutral answer. -/
structure StopsAt (c : Columns) (neutral : Bool) (ps : List Predicate) (answer : Answer) :
    Prop where
  /-- The other truth value is given where some predicate gives it first. -/
  settled_iff : answer = .ok !neutral ↔ Reaches c neutral ps (.ok !neutral)
  /-- A failure is given where some predicate fails so first. -/
  failed_iff : ∀ e, answer = .error e ↔ Reaches c neutral ps (.error e)
  neutral_iff : answer = .ok neutral ↔ ∀ p ∈ ps, p.eval c = .ok neutral

theorem Reaches.exists_mem {ps : List Predicate} {a : Answer} (h : Reaches c neutral ps a) :
    ∃ p ∈ ps, p.eval c = a := by
  obtain ⟨before, p, after, rfl, hp, -⟩ := h
  exact ⟨p, List.mem_append_right before List.mem_cons_self, hp⟩

theorem firstUnlike_map_eq_iff {ps : List Predicate} {a : Answer} (ha : a ≠ .ok neutral) :
    firstUnlike neutral (ps.map (eval c)) = a ↔ Reaches c neutral ps a := by
  rw [firstUnlike_eq_iff ha]
  constructor
  · rintro ⟨left, right, hps, hleft⟩
    obtain ⟨before, rest, rfl, rfl, hrest⟩ := List.map_eq_append_iff.1 hps
    obtain ⟨p, after, rfl, hp, -⟩ := List.map_eq_cons_iff.1 hrest
    exact ⟨before, p, after, rfl, hp, List.forall_mem_map.1 hleft⟩
  · rintro ⟨before, p, after, rfl, rfl, hbefore⟩
    exact ⟨before.map (eval c), after.map (eval c), by rw [List.map_append, List.map_cons],
      List.forall_mem_map.2 hbefore⟩

theorem StopsAt.of_firstUnlike (c : Columns) (neutral : Bool) (ps : List Predicate) :
    StopsAt c neutral ps (firstUnlike neutral (ps.map (eval c))) where
  settled_iff := firstUnlike_map_eq_iff (by simp)
  failed_iff e := firstUnlike_map_eq_iff (by simp)
  neutral_iff := by rw [firstUnlike_eq_neutral_iff, List.forall_mem_map]

theorem stopsAt_all (c : Columns) (ps : List Predicate) : StopsAt c true ps ((all ps).eval c) := by
  rw [eval_all]
  exact .of_firstUnlike c true ps

theorem stopsAt_either (c : Columns) (ps : List Predicate) :
    StopsAt c false ps ((either ps).eval c) := by
  rw [eval_either]
  exact .of_firstUnlike c false ps

/-- A part that is composed in the same way may be replaced by its own parts. -/
theorem eval_nested {f : List Predicate → Predicate}
    (hf : ∀ ps, (f ps).eval c = firstUnlike neutral (ps.map (eval c)))
    (ps qs rs : List Predicate) :
    (f (ps ++ [f qs] ++ rs)).eval c = (f (ps ++ qs ++ rs)).eval c := by
  rw [hf, hf, List.map_append, List.map_append, List.map_append, List.map_append,
    List.map_singleton, hf, firstUnlike_fold]

/-- Evaluation stops exactly at the first part that settles it, failures included, and so a
conjunction within a conjunction may be dissolved, and a disjunction within a disjunction. -/
theorem eval_stopsAt (c : Columns) (ps : List Predicate) :
    StopsAt c true ps ((all ps).eval c) ∧ StopsAt c false ps ((either ps).eval c) ∧
      ∀ qs rs, (all (ps ++ [all qs] ++ rs)).eval c = (all (ps ++ qs ++ rs)).eval c ∧
        (either (ps ++ [either qs] ++ rs)).eval c = (either (ps ++ qs ++ rs)).eval c :=
  ⟨stopsAt_all c ps, stopsAt_either c ps, fun qs rs =>
    ⟨eval_nested (eval_all c) ps qs rs, eval_nested (eval_either c) ps qs rs⟩⟩

-- A number cannot be compared with a text, which counts only where the comparison is reached.
example :
    (all [.const false, .compare "n" .equal (.text "")]).eval (.ofList [("n", .int 0)]) =
        .ok false ∧
      (all [.compare "n" .equal (.text ""), .const false]).eval (.ofList [("n", .int 0)]) =
        .error (.typeMismatch .int .text) :=
  ⟨rfl, rfl⟩

end Switchboard.Records.Predicate
