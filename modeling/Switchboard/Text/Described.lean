import Switchboard.Text.Quoted

/-!
# Described values

How a value is described in one line.  A structure is described by its name and
its fields between braces.  Two dots at the end stand for fields that are not
shown.  A value with a single unnamed part stands in parentheses after its name.
-/

namespace Switchboard.Text

/-- A structure with the given name and fields. -/
def describeFields (name : String) (fields : List (String × String)) (more : Bool) : String :=
  let shown := fields.map fun f => f.1 ++ ": " ++ f.2
  let parts := if more then shown ++ [".."] else shown
  name ++ " \x7b " ++ ", ".intercalate parts ++ " \x7d"

def describeWrapped (name part : String) : String := name ++ "(" ++ part ++ ")"

def describeList (items : List String) : String := "[" ++ ", ".intercalate items ++ "]"

def describeSet (items : List String) : String := "\x7b" ++ ", ".intercalate items ++ "\x7d"

def describeFlag (b : Bool) : String := if b then "true" else "false"

/-- A number that may be missing. -/
def describeCount? : Option Nat → String
  | some n => describeWrapped "Some" (toString n)
  | none => "None"

end Switchboard.Text
