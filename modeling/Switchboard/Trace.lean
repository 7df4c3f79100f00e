/-!
# The log

Operations report what they do as log entries.  An entry has a level, a fixed
message and named values.  The entries of a run are kept in order.
-/

namespace Switchboard

/-- How much a log entry matters. -/
inductive Level where
  | debug
  | warn
deriving DecidableEq

def Level.name : Level → String
  | .debug => "DEBUG"
  | .warn => "WARN"

inductive LogValue where
  | text (value : String)
  | number (value : Nat)
  | flag (value : Bool)
deriving DecidableEq

structure LogEntry where
  level : Level
  message : String
  fields : List (String × LogValue)
deriving DecidableEq

end Switchboard
