/-!
# Blank characters

A *blank* is a character with the Unicode property `White_Space`.  There are
twenty-five of them, in ten ranges.  The set is larger than the one
`Char.isWhitespace` knows, which is ASCII only.

`trim` removes the blanks at both ends of a text and keeps the ones inside.
`fold` makes ASCII letters small and leaves every other character alone.
-/

namespace Switchboard.Text

/-- The ranges of code points whose characters are blank, both ends included. -/
def blankRanges : List (Nat × Nat) :=
  [(0x09, 0x0D), (0x20, 0x20), (0x85, 0x85), (0xA0, 0xA0), (0x1680, 0x1680),
   (0x2000, 0x200A), (0x2028, 0x2029), (0x202F, 0x202F), (0x205F, 0x205F), (0x3000, 0x3000)]

def isBlank (c : Char) : Bool :=
  blankRanges.any fun r => r.1 ≤ c.toNat && c.toNat ≤ r.2

/-- The characters left after the leading blanks. -/
def trimStart (cs : List Char) : List Char := cs.dropWhile isBlank

/-- The characters left after the blanks of both ends are gone. -/
def trimChars (cs : List Char) : List Char := (trimStart (trimStart cs).reverse).reverse

def trim (s : String) : String := String.ofList (trimChars s.toList)

/-- A text with its ASCII letters made small. -/
def fold (s : String) : String := s.map Char.toLower

end Switchboard.Text
