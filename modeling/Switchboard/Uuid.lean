import Switchboard.Json.Form
import Switchboard.Text.Digits

/-!
# Universally unique identifiers

A `Uuid` is sixteen bytes, ordered as a sequence of bytes.  Its text has two
small hexadecimal digits for each byte, with hyphens after four, six, eight and
ten bytes.

Four shapes are read, with digits in either case: thirty-two digits, the
hyphenated form, the hyphenated form between braces, and the hyphenated form
after `urn:uuid:` in either case.  Nothing else is.
-/

namespace Switchboard

structure Uuid where
  bytes : List UInt8
  length_bytes : bytes.length = 16
deriving DecidableEq

namespace Uuid

open Text (hexChar hexValue?)

instance : Ord Uuid := ⟨fun a b => compare a.bytes b.bytes⟩

def zero : Uuid := ⟨List.replicate 16 0, by simp⟩

instance : Inhabited Uuid := ⟨zero⟩

/-- The version, which the high half of the seventh byte holds. -/
def version (u : Uuid) : Nat := ((u.bytes.getD 6 0) / 16).toNat

/-! ## Fresh identifiers -/

/-- The lowest bytes of a number, as many as asked for, most significant first. -/
def lowBytes : (count : Nat) → Nat → List UInt8
  | 0, _ => []
  | k + 1, n => lowBytes k (n / 256) ++ [UInt8.ofNat (n % 256)]

theorem length_lowBytes : ∀ (k n : Nat), (lowBytes k n).length = k
  | 0, _ => rfl
  | k + 1, n => by simp [lowBytes, length_lowBytes k]

/-- A fresh identifier.  It starts with a time in milliseconds, which later times
do not precede, and is told apart from others of that time by a number.  Its
version is seven. -/
def timed (millis number : Nat) : Uuid :=
  ⟨lowBytes 6 millis ++ 0x70 :: 0 :: 0x80 :: lowBytes 7 number, by simp [length_lowBytes]⟩

/-! ## Printing -/

def byteChars (b : UInt8) : List Char := [hexChar (b.toNat / 16), hexChar (b.toNat % 16)]

/-- The digits of bytes, with a hyphen between groups of the given sizes. -/
def groupChars : List Nat → List UInt8 → List Char
  | [], bs => bs.flatMap byteChars
  | [_], bs => bs.flatMap byteChars
  | n :: sizes, bs => (bs.take n).flatMap byteChars ++ '-' :: groupChars sizes (bs.drop n)

def groupSizes : List Nat := [4, 2, 2, 2, 6]

def chars (u : Uuid) : List Char := groupChars groupSizes u.bytes

def text (u : Uuid) : String := String.ofList u.chars

instance : ToString Uuid := ⟨text⟩

/-! ## Reading -/

/-- The bytes that pairs of digits write. -/
def bytesOf? : List Char → Option (List UInt8)
  | [] => some []
  | [_] => none
  | h :: l :: rest => do
      let b := UInt8.ofNat (16 * (← hexValue? h) + (← hexValue? l))
      return b :: (← bytesOf? rest)

/-- The characters of groups of the given sizes, in bytes, without the hyphens
between them. -/
def ungroup? : List Nat → List Char → Option (List Char)
  | [], cs => some cs
  | [_], cs => some cs
  | n :: sizes, cs =>
      match cs.drop (2 * n) with
      | '-' :: rest => (ungroup? sizes rest).map (cs.take (2 * n) ++ ·)
      | _ => none

/-- The identifier that thirty-two digits write. -/
def ofDigits? (cs : List Char) : Option Uuid := do
  let bs ← bytesOf? cs
  if h : bs.length = 16 then some ⟨bs, h⟩ else none

/-- The identifier that the hyphenated form writes. -/
def ofHyphenated? (cs : List Char) : Option Uuid := (ungroup? groupSizes cs).bind ofDigits?

/-- What stands in front of a hyphenated form that is written as a name. -/
def urnScheme : List Char := "urn:uuid:".toList

/-- The identifier that a list of characters writes, in any of the four shapes. -/
def ofChars? (cs : List Char) : Option Uuid :=
  if cs.length = 32 then ofDigits? cs
  else if cs.length = 36 then ofHyphenated? cs
  else if cs.length = 38 ∧ cs.head? = some '\x7b' ∧ cs.getLast? = some '\x7d' then
    ofHyphenated? (cs.drop 1).dropLast
  else if cs.length = 45 ∧ (cs.take 9).map Char.toLower = urnScheme then
    ofHyphenated? (cs.drop 9)
  else none

def ofText? (s : String) : Option Uuid := ofChars? s.toList

instance : Form Uuid where
  encode u := .text u.text
  decode j := j.text?.bind ofText?

end Uuid

end Switchboard
