import Switchboard.Json.Form
import Switchboard.Text.Blank
import Switchboard.Trace

/-!
# Configuration

A bus is configured by its dead-letter policy, which says what becomes of a
message nobody handles, and by whether it rejects empty messages.  The defaults
of commands and events differ in the policy only.

`Config.override` takes overrides from two variables on top of defaults.  Blanks
around a value do not count.  A policy may be written in either case of ASCII
letters, a flag may not.  A value that cannot be read leaves the default as it
is and is reported in the log.
-/

namespace Switchboard.Bus

/-- What becomes of a message nobody handles. -/
inductive DeadLetterPolicy where
  | reject
  | drop
deriving DecidableEq, Inhabited

namespace DeadLetterPolicy

/-- The policies, each with the name it is written with. -/
def names : List (String × DeadLetterPolicy) := [("reject", reject), ("drop", drop)]

def name : DeadLetterPolicy → String
  | reject => "reject"
  | drop => "drop"

def title : DeadLetterPolicy → String
  | reject => "Reject"
  | drop => "Drop"

/-- The policy of a text, or why it names none. -/
def parse (s : String) : Except String DeadLetterPolicy :=
  let s := Text.fold (Text.trim s)
  match List.lookup s names with
  | some p => .ok p
  | none => .error ("unknown dead letter policy `" ++ s ++ "`")

instance : Form DeadLetterPolicy where
  encode p := .text p.name
  decode j := j.choice?.bind fun s => List.lookup s names

end DeadLetterPolicy

structure Config where
  /-- What becomes of a message nobody handles. -/
  deadLetter : DeadLetterPolicy
  /-- Whether empty messages of a batch are rejected. -/
  rejectEmpty : Bool
deriving DecidableEq, Inhabited

namespace Config

def forCommands : Config := ⟨.reject, true⟩

def forEvents : Config := ⟨.drop, true⟩

/-- A field that is not written has the value it has for commands. -/
instance : Form Config where
  encode c := .object [("dead_letter", encode c.deadLetter), ("reject_empty", encode c.rejectEmpty)]
  decode j := do
    match ← j.openRecord? 0 ["dead_letter", "reject_empty"] with
    | [policy, flag] =>
        return ⟨← Json.orElse? forCommands.deadLetter policy,
          ← Json.orElse? forCommands.rejectEmpty flag⟩
    | _ => none

/-! ## Overrides -/

/-- The variable that overrides the dead-letter policy. -/
def deadLetterVar : String := "KEEL_DEAD_LETTER_POLICY"

/-- The variable that overrides the rejection of empty messages. -/
def rejectEmptyVar : String := "KEEL_REJECT_EMPTY"

/-- The flag of a text, or why it is none. -/
def parseFlag (s : String) : Except String Bool :=
  let s := Text.trim s
  if s = "true" then .ok true
  else if s = "false" then .ok false
  else .error "provided string was not `true` or `false`"

/-- The report of an override that cannot be read. -/
def ignored (var error : String) : LogEntry :=
  ⟨.warn, "ignoring override", [("error", .text error), ("var", .text var)]⟩

/-- A value overridden by the text of a variable, if that is set and readable,
and the reports. -/
def overrideBy {α : Type} (parse : String → Except String α) (var : String) (default : α) :
    Option String → α × List LogEntry
  | none => (default, [])
  | some raw =>
      match parse raw with
      | .ok a => (a, [])
      | .error e => (default, [ignored var e])

/-- The configuration with its overrides, and the reports. -/
def override (defaults : Config) (lookup : String → Option String) : Config × List LogEntry :=
  let policy := overrideBy DeadLetterPolicy.parse deadLetterVar defaults.deadLetter
    (lookup deadLetterVar)
  let flag := overrideBy parseFlag rejectEmptyVar defaults.rejectEmpty (lookup rejectEmptyVar)
  (⟨policy.1, flag.1⟩, policy.2 ++ flag.2)

end Config

end Switchboard.Bus
