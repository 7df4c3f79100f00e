import Switchboard.Text.Digits
import Switchboard.Text.Hidden

/-!
# Quoted texts

A description shows a text between quotes.  A quote and a backslash have a
backslash in front, a line feed, a carriage return, a tab and the null character
have their short escapes, and a character that does not show is written by its
number.
-/

namespace Switchboard.Text

/-- Whether a character does not show in a description. -/
def isHidden (c : Char) : Bool :=
  Hidden.ranges.any fun r => r.1 ≤ c.toNat && c.toNat ≤ r.2

/-- A character as it stands between quotes. -/
def quoteChar (c : Char) : List Char :=
  if c = '"' then ['\\', '"']
  else if c = '\\' then ['\\', '\\']
  else if c = '\n' then ['\\', 'n']
  else if c = '\r' then ['\\', 'r']
  else if c = '\t' then ['\\', 't']
  else if c = '\x00' then ['\\', '0']
  else if isHidden c then ['\\', 'u', '\x7b'] ++ Nat.toDigits 16 c.toNat ++ ['\x7d']
  else [c]

def quote (s : String) : String := String.ofList ('"' :: s.toList.flatMap quoteChar ++ ['"'])

end Switchboard.Text
