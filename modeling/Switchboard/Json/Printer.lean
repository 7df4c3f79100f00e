import Switchboard.Json
import Switchboard.Text.Digits

/-!
# Printing JSON

A value is printed without blanks, and its fields in the order in which it holds
them.  A quote, a backslash and a control character are escaped, and every other
character stands for itself.
-/

namespace Switchboard.Json

open Text (hexChar)

/-- A character as it stands inside quotes. -/
def escapeChar (c : Char) : List Char :=
  if c = '"' then ['\\', '"']
  else if c = '\\' then ['\\', '\\']
  else if c = '\n' then ['\\', 'n']
  else if c = '\r' then ['\\', 'r']
  else if c = '\t' then ['\\', 't']
  else if c.toNat < 0x20 then ['\\', 'u', '0', '0', hexChar (c.toNat / 16), hexChar (c.toNat % 16)]
  else [c]

/-- A text in quotes. -/
def printText (s : String) : String :=
  String.ofList ('"' :: s.toList.flatMap escapeChar ++ ['"'])

mutual

/-- A value as JSON text. -/
def print : Json → String
  | null => "null"
  | bool b => if b then "true" else "false"
  | int n => toString n
  | decimal written => written
  | text s => printText s
  | list items => "[" ++ ",".intercalate (printItems items) ++ "]"
  | object fields => "\x7b" ++ ",".intercalate (printFields fields) ++ "\x7d"
  | unfit => "null"

/-- The items of a list as JSON texts. -/
def printItems : List Json → List String
  | [] => []
  | j :: rest => print j :: printItems rest

/-- The fields of an object as JSON texts. -/
def printFields : List (String × Json) → List String
  | [] => []
  | (name, j) :: rest => (printText name ++ ":" ++ print j) :: printFields rest

end

end Switchboard.Json
