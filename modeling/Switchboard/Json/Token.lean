import Switchboard.Json
import Switchboard.Text.Digits

/-!
# JSON tokens

A text is cut into tokens one character at a time.  `Scan` is what has been seen
so far: the tokens, and the place the next character falls in.  `Scan.next`
moves it by one character, so a whole text is a fold (`tokens?`).

A number or a word runs until a character that belongs to neither.  It is judged
when it ends, by `scalar?`.

Inside quotes a sixteen-bit unit may be written as an escape.  Two units that
form a surrogate pair make one character.  A text with half a pair is a token
without a value.
-/

namespace Switchboard.Json

open Text (digitsValue hexValue?)

/-- A token of a JSON text. -/
inductive Token where
  | openList
  | closeList
  | openObject
  | closeObject
  | comma
  | colon
  | scalar (value : Json)
  /-- A quoted text.  It has no value if it holds half of a surrogate pair. -/
  | text (value : Option String)

/-! ## Numbers -/

/-- The least magnitude that rounds past the largest double. -/
def doubleLimit : Nat := Nat.pow 2 1024 - Nat.pow 2 970

/-- Whether `m * 10 ^ e` rounds to a finite double.  The number of digits decides
far from the limit, so the power is only formed near it. -/
def fitsDouble (m : Nat) (e : Int) : Bool :=
  if m = 0 then true
  else
    let top : Int := (Nat.toDigits 10 m).length + e
    if top < 308 then true
    else if 310 < top then false
    else if 0 ≤ e then m * Nat.pow 10 e.toNat < doubleLimit
    else m < doubleLimit * Nat.pow 10 (-e).toNat

/-- The digits after a point, and what follows them.  A point needs a digit. -/
def fraction? : List Char → Option (List Char × List Char)
  | '.' :: rest =>
      let ds := rest.takeWhile Char.isDigit
      if ds.isEmpty then none else some (ds, rest.dropWhile Char.isDigit)
  | cs => some ([], cs)

/-- The exponent, if one is written, read up to the end of the number. -/
def exponent? : List Char → Option (Option Int)
  | [] => some none
  | c :: rest =>
      if c = 'e' ∨ c = 'E' then
        let (negative, ds) := match rest with
          | '-' :: r => (true, r)
          | '+' :: r => (false, r)
          | r => (false, r)
        if ds.isEmpty || !ds.all Char.isDigit then none
        else
          let n : Int := digitsValue ds
          some (some (if negative then -n else n))
      else none

/-- The value of a number without fraction and exponent.  A negative zero and a
number past sixty-four bits are decimals. -/
def wholeNumber (negative : Bool) (n : Nat) (written : String) : Json :=
  if negative then
    if n = 0 then .decimal written
    else if n ≤ 9223372036854775808 then .int (-(n : Int))
    else if fitsDouble n 0 then .decimal written else .unfit
  else if n < UInt64.size then .int n
  else if fitsDouble n 0 then .decimal written else .unfit

/-- The value of a number.  A leading zero stands alone. -/
def number? (cs : List Char) : Option Json := do
  let (negative, rest) := match cs with
    | '-' :: r => (true, r)
    | r => (false, r)
  let whole := rest.takeWhile Char.isDigit
  if whole.isEmpty || (whole.length ≠ 1 && whole.head? == some '0') then none
  else
    let (part, rest) ← fraction? (rest.dropWhile Char.isDigit)
    let power ← exponent? rest
    let written := String.ofList cs
    match part, power with
    | [], none => some (wholeNumber negative (digitsValue whole) written)
    | _, _ =>
        let e := power.getD 0 - part.length
        some (if fitsDouble (digitsValue (whole ++ part)) e then .decimal written else .unfit)

/-- The value of a bare word. -/
def scalar? (cs : List Char) : Option Json :=
  if cs = "null".toList then some .null
  else if cs = "true".toList then some (.bool true)
  else if cs = "false".toList then some (.bool false)
  else number? cs

/-! ## Quoted texts -/

/-- A part of a quoted text. -/
inductive Piece where
  /-- A character, written as itself or as a short escape. -/
  | char (c : Char)
  /-- A sixteen-bit unit, written as an escape. -/
  | unit (n : Nat)

/-- Whether a unit is the first half of a surrogate pair. -/
def isHighHalf (n : Nat) : Bool := 0xD800 ≤ n && n < 0xDC00

/-- Whether a unit is the second half of a surrogate pair. -/
def isLowHalf (n : Nat) : Bool := 0xDC00 ≤ n && n < 0xE000

/-- The characters that the pieces of a text stand for. -/
def charsOf? : List Piece → Option (List Char)
  | [] => some []
  | .char c :: rest => (charsOf? rest).map (c :: ·)
  | .unit h :: rest =>
      if isHighHalf h then
        match rest with
        | .unit l :: rest =>
            if isLowHalf l then
              (charsOf? rest).map (Char.ofNat (0x10000 + (h - 0xD800) * 0x400 + (l - 0xDC00)) :: ·)
            else none
        | _ => none
      else if isLowHalf h then none
      else (charsOf? rest).map (Char.ofNat h :: ·)

/-- The character of a short escape. -/
def shortEscape? : Char → Option Char
  | '"' => some '"'
  | '\\' => some '\\'
  | '/' => some '/'
  | 'b' => some '\x08'
  | 'f' => some '\x0c'
  | 'n' => some '\n'
  | 'r' => some '\r'
  | 't' => some '\t'
  | _ => none

/-! ## Scanning -/

/-- Where the next character falls.  Collected parts are kept last first. -/
inductive Place where
  | between
  | word (written : List Char)
  | quoted (pieces : List Piece)
  | escaped (pieces : List Piece)
  /-- In the digits of a unit, with the number of digits still to come and the
  value of those read. -/
  | unit (pieces : List Piece) (missing : Nat) (value : Nat)

/-- What has been seen of a text. -/
structure Scan where
  place : Place := .between
  tokens : List Token := []

/-- Whether a character may stand between tokens. -/
def isSpace (c : Char) : Bool := c = ' ' || c = '\t' || c = '\n' || c = '\r'

/-- Whether a character may belong to a number or a word. -/
def isWordChar (c : Char) : Bool := c.isAlphanum || c = '-' || c = '+' || c = '.'

/-- A character that falls between tokens. -/
def Scan.start (tokens : List Token) (c : Char) : Option Scan :=
  if isSpace c then some ⟨.between, tokens⟩
  else if isWordChar c then some ⟨.word [c], tokens⟩
  else match c with
    | '"' => some ⟨.quoted [], tokens⟩
    | '[' => some ⟨.between, .openList :: tokens⟩
    | ']' => some ⟨.between, .closeList :: tokens⟩
    | '{' => some ⟨.between, .openObject :: tokens⟩
    | '}' => some ⟨.between, .closeObject :: tokens⟩
    | ',' => some ⟨.between, .comma :: tokens⟩
    | ':' => some ⟨.between, .colon :: tokens⟩
    | _ => none

/-- The next character of a text.  A control character may not stand inside
quotes. -/
def Scan.next (s : Scan) (c : Char) : Option Scan :=
  match s.place with
  | .between => Scan.start s.tokens c
  | .word cs =>
      if isWordChar c then some { s with place := .word (c :: cs) }
      else do Scan.start (.scalar (← scalar? cs.reverse) :: s.tokens) c
  | .quoted ps =>
      if c = '"' then some ⟨.between, .text ((charsOf? ps.reverse).map String.ofList) :: s.tokens⟩
      else if c = '\\' then some { s with place := .escaped ps }
      else if c.toNat < 0x20 then none
      else some { s with place := .quoted (.char c :: ps) }
  | .escaped ps =>
      if c = 'u' then some { s with place := .unit ps 4 0 }
      else do some { s with place := .quoted (.char (← shortEscape? c) :: ps) }
  | .unit ps missing value => do
      let value := 16 * value + (← hexValue? c)
      if missing ≤ 1 then some { s with place := .quoted (.unit value :: ps) }
      else some { s with place := .unit ps (missing - 1) value }

/-- The tokens of a text that ends here. -/
def Scan.finish? (s : Scan) : Option (List Token) :=
  match s.place with
  | .between => some s.tokens.reverse
  | .word cs => do some (.scalar (← scalar? cs.reverse) :: s.tokens).reverse
  | _ => none

/-- The tokens of a text. -/
def tokens? (cs : List Char) : Option (List Token) := do
  (← cs.foldlM Scan.next {}).finish?

end Switchboard.Json
