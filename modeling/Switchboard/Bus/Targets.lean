/-!
# Targets

A dispatcher answers with the targets it reached.  They are a set of texts, and
they are listed in the order of their characters.
-/

namespace Switchboard.Bus

/-- A text put into its place in an ordered list, unless it is there. -/
def insertText (s : String) : List String → List String
  | [] => [s]
  | t :: rest =>
      if s < t then s :: t :: rest
      else if s = t then t :: rest
      else t :: insertText s rest

/-- What one dispatch reached, in order, each target once. -/
structure Targets where
  ids : List String
deriving DecidableEq

namespace Targets

def ofList (ids : List String) : Targets := ⟨ids.foldl (fun l s => insertText s l) []⟩

def size (t : Targets) : Nat := t.ids.length

end Targets

end Switchboard.Bus
