import Switchboard.Json.Token

/-!
# Reading JSON

Tokens are put together one at a time.  `Assembly` holds the containers that are
open, innermost first, and what may come next.  `Assembly.next` moves it by one
token, so reading is a fold over the tokens (`read?`).

A container nested deeper than `maxDepth` is unfit, and so is an object with an
unfit name.  The text still has to be well formed to its end.
-/

namespace Switchboard.Json

/-- The deepest level at which a container is fit.  The outermost is at one. -/
def maxDepth : Nat := 127

/-- An open container.  Its parts are kept last first. -/
inductive Frame where
  | list (items : List Json)
  /-- An object, its fields so far, and the name of the field being read. -/
  | object (fields : List (Option String × Json)) (name : Option String)

/-- What may come next. -/
inductive Expected where
  | value
  /-- A value, or the end of a list that is still empty. -/
  | firstItem
  /-- A name, or the end of an object that is still empty. -/
  | firstName
  | name
  | colon
  /-- A comma, or the end of the innermost container. -/
  | separator
  /-- Nothing: the text stands for this value. -/
  | done (value : Json)

/-- A text that is being put together. -/
structure Assembly where
  /-- The open containers, innermost first. -/
  frames : List Frame := []
  expected : Expected := .value

/-- An object from its fields, last first. -/
def objectOf (fields : List (Option String × Json)) : Json :=
  match fields.reverse.mapM fun f => f.1.map fun name => (name, f.2) with
  | some fields => .object fields
  | none => .unfit

/-- Puts a finished value where it belongs. -/
def Assembly.put (frames : List Frame) (j : Json) : Assembly :=
  match frames with
  | [] => ⟨[], .done j⟩
  | .list items :: outer => ⟨.list (j :: items) :: outer, .separator⟩
  | .object fields name :: outer => ⟨.object ((name, j) :: fields) name :: outer, .separator⟩

def closed (depth : Nat) (j : Json) : Json := if depth ≤ maxDepth then j else .unfit

/-- Closes the innermost container, which has to be a list. -/
def Assembly.closeList? : List Frame → Option Assembly
  | .list items :: outer => some (put outer (closed (outer.length + 1) (.list items.reverse)))
  | _ => none

/-- Closes the innermost container, which has to be an object. -/
def Assembly.closeObject? : List Frame → Option Assembly
  | .object fields _ :: outer => some (put outer (closed (outer.length + 1) (objectOf fields)))
  | _ => none

/-- A token that starts a value. -/
def Assembly.value? (frames : List Frame) : Token → Option Assembly
  | .scalar j => some (put frames j)
  | .text (some s) => some (put frames (.text s))
  | .text none => some (put frames .unfit)
  | .openList => some ⟨.list [] :: frames, .firstItem⟩
  | .openObject => some ⟨.object [] none :: frames, .firstName⟩
  | _ => none

/-- A token that is the name of a field. -/
def Assembly.name? : List Frame → Token → Option Assembly
  | .object fields _ :: outer, .text name => some ⟨.object fields name :: outer, .colon⟩
  | _, _ => none

/-- The next token of a text. -/
def Assembly.next (a : Assembly) (t : Token) : Option Assembly :=
  match a.expected, t with
  | .firstItem, .closeList => closeList? a.frames
  | .firstItem, t => value? a.frames t
  | .value, t => value? a.frames t
  | .firstName, .closeObject => closeObject? a.frames
  | .firstName, t => name? a.frames t
  | .name, t => name? a.frames t
  | .colon, .colon => some { a with expected := .value }
  | .separator, .closeList => closeList? a.frames
  | .separator, .closeObject => closeObject? a.frames
  | .separator, .comma =>
      match a.frames with
      | .list _ :: _ => some { a with expected := .value }
      | .object _ _ :: _ => some { a with expected := .name }
      | [] => none
  | _, _ => none

/-- The value a text stands for, if it is a JSON text. -/
def read? (text : String) : Option Json := do
  let ts ← tokens? text.toList
  match (← ts.foldlM Assembly.next {}).expected with
  | .done j => some j
  | _ => none

end Switchboard.Json
