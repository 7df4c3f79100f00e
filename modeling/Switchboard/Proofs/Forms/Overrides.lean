import Mathlib
import Switchboard.Bus.Config
import Switchboard.Proofs.Forms.Digits

/-!
# Overrides of a configuration

What the text of a variable says is defined here without trimming or folding it.  The text is a
name with blanks around it, and nothing else (`Text.Padded`).  The name of a policy may have
capital letters (`DeadLetterPolicy.Reads`).  The name of a flag may not (`Config.FlagReads`).

Trimming takes away exactly the blanks around a text, because what it leaves has no blank at
either end, and only one part of a text is like that (`trimChars_eq_iff`).  Folding makes a text
equal to a small name just where the two agree letter by letter (`map_toLower_eq_iff`).  So parsing
finds what a text says.

Each field of a configuration is settled by its own variable and its own default (`Settled`), and
this is all that an override does (`override_settled`).
-/

namespace Switchboard

namespace Text

/-! ## Blanks around a text -/

def AllBlank (cs : List Char) : Prop := ∀ c ∈ cs, isBlank c = true

instance (cs : List Char) : Decidable (AllBlank cs) := List.decidableBAll _ cs

/-- The characters are those of a text with blanks around it. -/
def Padded (cs body : List Char) : Prop :=
  ∃ before after, AllBlank before ∧ AllBlank after ∧ cs = before ++ body ++ after

/-- There is no blank at either end. -/
structure Bare (cs : List Char) : Prop where
  head : ∀ c, cs.head? = some c → isBlank c = false
  last : ∀ c, cs.getLast? = some c → isBlank c = false

theorem bare_of_forall {cs : List Char} (h : ∀ c ∈ cs, isBlank c = false) : Bare cs where
  head c hc := h c (List.mem_of_head? hc)
  last c hc := h c (List.mem_of_getLast? hc)

theorem trimStart_append {before : List Char} (h : AllBlank before) (rest : List Char) :
    trimStart (before ++ rest) = trimStart rest :=
  List.dropWhile_append_of_pos h

theorem trimStart_of_allBlank {cs : List Char} (h : AllBlank cs) : trimStart cs = [] := by
  simpa [trimStart] using trimStart_append h []

theorem trimStart_of_head {cs : List Char} (h : ∀ c, cs.head? = some c → isBlank c = false) :
    trimStart cs = cs := by
  cases cs with
  | nil => rfl
  | cons c cs => exact trimStart_cons (h c rfl) cs

/-- What is dropped is blank. -/
theorem exists_trimStart (cs : List Char) :
    ∃ before, AllBlank before ∧ cs = before ++ trimStart cs :=
  ⟨cs.takeWhile isBlank, fun _ => List.mem_takeWhile_imp, List.takeWhile_append_dropWhile.symm⟩

theorem head_trimStart {cs : List Char} {c : Char} (h : (trimStart cs).head? = some c) :
    isBlank c = false := by
  have hnot := List.head?_dropWhile_not isBlank cs
  rw [trimStart] at h
  simpa [h] using hnot

theorem bare_trimChars (cs : List Char) : Bare (trimChars cs) where
  head c hc := by
    obtain ⟨after, -, hafter⟩ := exists_trimStart (trimStart cs).reverse
    have hstart : trimStart cs = trimChars cs ++ after.reverse := by
      rw [trimChars, ← List.reverse_append, ← hafter, List.reverse_reverse]
    have hhead : (trimStart cs).head? = some c := by simp [hstart, List.head?_append, hc]
    exact head_trimStart hhead
  last c hc := by
    rw [trimChars, List.getLast?_reverse] at hc
    exact head_trimStart hc

theorem padded_trimChars (cs : List Char) : Padded cs (trimChars cs) := by
  obtain ⟨before, hbefore, hcs⟩ := exists_trimStart cs
  obtain ⟨after, hafter, hrest⟩ := exists_trimStart (trimStart cs).reverse
  refine ⟨before, after.reverse, hbefore, fun c hc => hafter c (List.mem_reverse.1 hc), ?_⟩
  rw [trimChars, List.append_assoc, ← List.reverse_append, ← hrest, List.reverse_reverse, ← hcs]

/-- Trimming finds the one part of a text that has no blank at either end and nothing but blanks
around it. -/
theorem trimChars_eq_iff {cs body : List Char} :
    trimChars cs = body ↔ Bare body ∧ Padded cs body := by
  constructor
  · rintro rfl
    exact ⟨bare_trimChars cs, padded_trimChars cs⟩
  · rintro ⟨hbare, before, after, hbefore, hafter, rfl⟩
    rw [trimChars, List.append_assoc, trimStart_append hbefore]
    cases body with
    | nil =>
        rw [List.nil_append, trimStart_of_allBlank hafter]
        rfl
    | cons c cs =>
        -- the first cut stops at the body, and so does the second one, from behind
        have hstart : trimStart (c :: cs ++ after) = c :: cs ++ after :=
          trimStart_cons (hbare.head c rfl) _
        have hafter' : AllBlank after.reverse := fun c hc => hafter c (List.mem_reverse.1 hc)
        rw [hstart, List.reverse_append, trimStart_append hafter', trimStart_of_head,
          List.reverse_reverse]
        intro d hd
        exact hbare.last d (by rwa [List.head?_reverse] at hd)

/-! ## Letters in either case -/

/-- A character is another, or the ASCII capital of it. -/
def SameLetter (c d : Char) : Prop := c = d ∨ (c.isUpper = true ∧ d.toNat = c.toNat + 32)

instance (c d : Char) : Decidable (SameLetter c d) :=
  inferInstanceAs (Decidable (c = d ∨ (c.isUpper = true ∧ d.toNat = c.toNat + 32)))

theorem range_of_isUpper {c : Char} (h : c.isUpper = true) : 65 ≤ c.toNat ∧ c.toNat ≤ 90 := by
  simpa [Char.isUpper, UInt32.le_iff_toNat_le] using h

theorem isBlank_of_isUpper {c : Char} (h : c.isUpper = true) : isBlank c = false := by
  have hrange := range_of_isUpper h
  simp [isBlank, blankRanges]
  omega

theorem toNat_toLower {c : Char} (h : c.isUpper = true) : c.toLower.toNat = c.toNat + 32 := by
  have hletter : c.val ≥ 'A'.val ∧ c.val ≤ 'Z'.val := by simpa [Char.isUpper] using h
  have hle := (range_of_isUpper h).2
  rw [Char.toLower, dif_pos hletter]
  show (c.val + 32).toNat = c.toNat + 32
  rw [UInt32.toNat_add]
  simp
  omega

theorem toLower_of_not_isUpper {c : Char} (h : c.isUpper = false) : c.toLower = c := by
  have hletter : ¬ (c.val ≥ 'A'.val ∧ c.val ≤ 'Z'.val) := by simpa [Char.isUpper] using h
  rw [Char.toLower, dif_neg hletter]

/-- To fold a character is to find the small letter that it is in either case. -/
theorem toLower_eq_iff {c d : Char} (hd : d.isUpper = false) : c.toLower = d ↔ SameLetter c d := by
  cases hc : c.isUpper with
  | true =>
      have hne : c ≠ d := by
        rintro rfl
        simp [hd] at hc
      simp [SameLetter, hc, hne, ← Char.toNat_inj, toNat_toLower hc, eq_comm]
  | false => simp [SameLetter, hc, toLower_of_not_isUpper hc]

theorem isBlank_of_toLower {c : Char} (h : isBlank c.toLower = false) : isBlank c = false := by
  cases hc : c.isUpper with
  | true => exact isBlank_of_isUpper hc
  | false => rwa [toLower_of_not_isUpper hc] at h

/-- To fold a text is to find the small text that it agrees with letter by letter. -/
theorem map_toLower_eq_iff {cs name : List Char} (hname : ∀ d ∈ name, d.isUpper = false) :
    cs.map Char.toLower = name ↔ List.Forall₂ SameLetter cs name := by
  induction cs generalizing name with
  | nil => simp [eq_comm]
  | cons c cs ih =>
      cases name with
      | nil => simp
      | cons d name =>
          obtain ⟨hd, hname⟩ := List.forall_mem_cons.1 hname
          rw [List.map_cons, List.cons.injEq, List.forall₂_cons, toLower_eq_iff hd, ih hname]

/-! ## Names in a text -/

/-- A name has neither blanks nor capital letters. -/
def Plain (name : String) : Prop := ∀ c ∈ name.toList, isBlank c = false ∧ c.isUpper = false

instance (name : String) : Decidable (Plain name) := List.decidableBAll _ name.toList

/-- A text is trimmed to a name if it is the name with blanks around it. -/
theorem trim_eq_iff {text name : String} (h : Plain name) :
    trim text = name ↔ Padded text.toList name.toList := by
  have hbare : Bare name.toList := bare_of_forall fun c hc => (h c hc).1
  rw [trim, ← String.toList_inj, String.toList_ofList, trimChars_eq_iff]
  simp [hbare]

/-- A text is trimmed and folded to a name if it is the name with letters in either case and
blanks around it. -/
theorem fold_trim_eq_iff {text name : String} (h : Plain name) :
    fold (trim text) = name ↔
      ∃ body, Padded text.toList body ∧ List.Forall₂ SameLetter body name.toList := by
  have hsmall : ∀ d ∈ name.toList, d.isUpper = false := fun d hd => (h d hd).2
  rw [fold, trim, ← String.toList_inj, String.toList_map, String.toList_ofList]
  constructor
  · intro hname
    exact ⟨_, padded_trimChars _, (map_toLower_eq_iff hsmall).1 hname⟩
  · rintro ⟨body, hpadded, hletters⟩
    have hname : body.map Char.toLower = name.toList := (map_toLower_eq_iff hsmall).2 hletters
    have hbare : Bare body := bare_of_forall fun c hc =>
      isBlank_of_toLower (h _ (hname ▸ List.mem_map_of_mem hc)).1
    rw [trimChars_eq_iff.2 ⟨hbare, hpadded⟩, hname]

end Text

namespace Bus

/-! ## What texts say -/

namespace DeadLetterPolicy

/-- A text says a policy if it is its name in letters of either case, with blanks around it. -/
def Reads (text : String) (p : DeadLetterPolicy) : Prop :=
  ∃ body, Text.Padded text.toList body ∧ List.Forall₂ Text.SameLetter body p.name.toList

theorem plain_name (p : DeadLetterPolicy) : Text.Plain p.name := by
  cases p <;> decide

theorem lookup_names_eq_some_iff {s : String} {p : DeadLetterPolicy} :
    List.lookup s names = some p ↔ s = p.name := by
  constructor
  · intro h
    have hmem : (s, p) ∈ names := by
      obtain ⟨before, after, hnames, -⟩ := List.lookup_eq_some_iff.1 h
      simp [hnames]
    simp [names] at hmem
    rcases hmem with ⟨rfl, rfl⟩ | ⟨rfl, rfl⟩
    · rfl
    · rfl
  · rintro rfl
    cases p with
    | reject => rfl
    | drop => rfl

theorem parse_eq_ok_iff (text : String) (p : DeadLetterPolicy) :
    parse text = .ok p ↔ Reads text p := by
  rw [Reads, ← Text.fold_trim_eq_iff p.plain_name, ← lookup_names_eq_some_iff]
  dsimp only [parse]
  cases List.lookup (Text.fold (Text.trim text)) names with
  | none => simp
  | some q => simp

/-- What is wrong with a text that says no policy. -/
def complaint (text : String) : String :=
  "unknown dead letter policy `" ++ Text.fold (Text.trim text) ++ "`"

theorem eq_complaint_of_parse (text e : String) (h : parse text = .error e) :
    e = complaint text := by
  dsimp only [parse] at h
  cases hp : List.lookup (Text.fold (Text.trim text)) names with
  | none =>
      rw [hp] at h
      exact (Except.error.inj h).symm
  | some p =>
      rw [hp] at h
      cases h

end DeadLetterPolicy

namespace Config

def flagName : Bool → String
  | true => "true"
  | false => "false"

/-- A text says a flag if it is its name with blanks around it. -/
def FlagReads (text : String) (b : Bool) : Prop :=
  Text.Padded text.toList (flagName b).toList

theorem plain_flagName (b : Bool) : Text.Plain (flagName b) := by
  cases b <;> decide

theorem parseFlag_eq_ok_iff (text : String) (b : Bool) :
    parseFlag text = .ok b ↔ FlagReads text b := by
  rw [FlagReads, ← Text.trim_eq_iff (plain_flagName b)]
  dsimp only [parseFlag]
  split
  · next htrue => cases b <;> simp [htrue, flagName]
  · next htrue =>
      split
      · next hfalse => cases b <;> simp [hfalse, flagName]
      · next hfalse => cases b <;> simp [htrue, hfalse, flagName]

/-- What is wrong with a text that says no flag. -/
def flagComplaint (_ : String) : String := "provided string was not `true` or `false`"

theorem eq_flagComplaint_of_parseFlag (text e : String) (h : parseFlag text = .error e) :
    e = flagComplaint text := by
  dsimp only [parseFlag] at h
  split at h
  · cases h
  · split at h
    · cases h
    · exact (Except.error.inj h).symm

/-! ## Settling a field -/

section

variable {α : Type} {Reads : String → α → Prop} {complaint : String → String}
  {parse : String → Except String α}

/-- How the variable of a field settles its value and what is reported, if it is known what texts
say and what is wrong with a text that says nothing. -/
structure Settled (Reads : String → α → Prop) (complaint : String → String) (var : String)
    (default : α) (raw : Option String) (value : α) (log : List LogEntry) : Prop where
  unset : raw = none → value = default ∧ log = []
  read : ∀ text a, raw = some text → Reads text a → value = a ∧ log = []
  unread : ∀ text, raw = some text → (∀ a, ¬ Reads text a) →
    value = default ∧ log = [ignored var (complaint text)]

/-- A parser that finds what texts say settles a field. -/
theorem settled_overrideBy (hok : ∀ text a, parse text = .ok a ↔ Reads text a)
    (herror : ∀ text e, parse text = .error e → e = complaint text) (var : String) (default : α)
    (raw : Option String) :
    Settled Reads complaint var default raw (overrideBy parse var default raw).1
      (overrideBy parse var default raw).2 where
  unset hraw := by
    subst hraw
    exact ⟨rfl, rfl⟩
  read text a hraw ha := by
    subst hraw
    simp [overrideBy, (hok text a).2 ha]
  unread text hraw hnone := by
    subst hraw
    cases hparse : parse text with
    | ok a => exact absurd ((hok text a).1 hparse) (hnone a)
    | error e => simp [overrideBy, hparse, herror text e hparse]

/-- What a variable has settled is settled in the same way again. -/
theorem overrideBy_overrideBy (parse : String → Except String α) (var : String) (default : α)
    (raw : Option String) :
    overrideBy parse var (overrideBy parse var default raw).1 raw =
      overrideBy parse var default raw := by
  cases raw with
  | none => rfl
  | some text =>
      cases hparse : parse text with
      | ok a => simp [overrideBy, hparse]
      | error e => simp [overrideBy, hparse]

end

/-! ## Overriding a configuration -/

/-- Each field is settled by its own variable and its own default, and nothing else is reported.
So a field depends on nothing else, and to override twice is to override once. -/
theorem override_settled (defaults : Config) (lookup : String → Option String) :
    let result := defaults.override lookup
    (∃ policyLog flagLog,
      Settled DeadLetterPolicy.Reads DeadLetterPolicy.complaint deadLetterVar defaults.deadLetter
        (lookup deadLetterVar) result.1.deadLetter policyLog ∧
      Settled FlagReads flagComplaint rejectEmptyVar defaults.rejectEmpty
        (lookup rejectEmptyVar) result.1.rejectEmpty flagLog ∧
      result.2 = policyLog ++ flagLog) ∧
    (∀ (defaults' : Config) (lookup' : String → Option String),
      (defaults'.deadLetter = defaults.deadLetter →
        lookup' deadLetterVar = lookup deadLetterVar →
        (defaults'.override lookup').1.deadLetter = result.1.deadLetter) ∧
      (defaults'.rejectEmpty = defaults.rejectEmpty →
        lookup' rejectEmptyVar = lookup rejectEmptyVar →
        (defaults'.override lookup').1.rejectEmpty = result.1.rejectEmpty)) ∧
    result.1.override lookup = result := by
  intro result
  have hpolicy := settled_overrideBy DeadLetterPolicy.parse_eq_ok_iff
    DeadLetterPolicy.eq_complaint_of_parse deadLetterVar defaults.deadLetter (lookup deadLetterVar)
  have hflag := settled_overrideBy parseFlag_eq_ok_iff eq_flagComplaint_of_parseFlag
    rejectEmptyVar defaults.rejectEmpty (lookup rejectEmptyVar)
  refine ⟨⟨_, _, hpolicy, hflag, rfl⟩, ?_, ?_⟩
  · intro defaults' lookup'
    constructor
    · intro hdefault hraw
      simp [result, override, hdefault, hraw]
    · intro hdefault hraw
      simp [result, override, hdefault, hraw]
  · show override _ lookup = override defaults lookup
    simp only [result, override, overrideBy_overrideBy]

/-- A policy with a capital letter between two blanks, an em space and a line feed, and a flag in
capital letters. -/
def printed (var : String) : Option String :=
  if var = deadLetterVar then some "\u2003Reject\n"
  else if var = rejectEmptyVar then some "TRUE"
  else none

theorem override_settled_printed :
    DeadLetterPolicy.Reads "\u2003Reject\n" .reject ∧ (∀ b, ¬ FlagReads "TRUE" b) ∧
      forEvents.override printed =
        (⟨.reject, true⟩, [ignored rejectEmptyVar (flagComplaint "TRUE")]) ∧
      (Config.mk .reject true).override printed = forEvents.override printed := by
  have hreads : DeadLetterPolicy.Reads "\u2003Reject\n" .reject :=
    ⟨"Reject".toList, ⟨['\u2003'], ['\n'], by decide, by decide, by decide⟩, by decide⟩
  have hnone : ∀ b, ¬ FlagReads "TRUE" b := by
    intro b hb
    have hparse := (parseFlag_eq_ok_iff "TRUE" b).2 hb
    revert hparse
    cases b <;> decide
  obtain ⟨⟨policyLog, flagLog, hpolicy, hflag, hlog⟩, -, htwice⟩ :=
    override_settled forEvents printed
  obtain ⟨hvalue, rfl⟩ := hpolicy.read _ _ rfl hreads
  obtain ⟨hdefault, rfl⟩ := hflag.unread _ rfl hnone
  have hresult : forEvents.override printed =
      (⟨.reject, true⟩, [ignored rejectEmptyVar (flagComplaint "TRUE")]) :=
    Prod.ext (congrArg₂ Config.mk hvalue hdefault) hlog
  refine ⟨hreads, hnone, hresult, ?_⟩
  rwa [hresult] at htwice ⊢

end Config

end Bus

end Switchboard
