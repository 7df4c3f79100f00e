import Mathlib

/-!
# Texts in the order of their bytes

Texts are ordered by code points.  The bytes that encode them are ordered in the same way
(`toUTF8_lt_iff`), so it does not matter which of the two are compared.

A code point is written in up to four bytes.  The first has a mark that tells how many follow, and
each of those has six bits (`marked`).  Of two code points, the lesser has no more bytes.  If it has
fewer, the first byte decides, since the marks increase.  If it has as many, the first bits in which
the two differ decide (`marked_append_lt`).  In either case a byte differs before one of the two
ends, so what follows does not matter (`encodeChar_append_lt`), and texts are compared code point by
code point.
-/

namespace Switchboard.Text

theorem byte_lt_iff {m n : Nat} : UInt8.ofNat m < UInt8.ofNat n ↔ m % 256 < n % 256 := by
  rw [UInt8.lt_iff_toNat_lt, UInt8.toNat_ofNat', UInt8.toNat_ofNat']

/-! ## Numbers in bytes -/

/-- The last bits of a number, six in each byte. -/
def continuation : Nat → Nat → List UInt8
  | 0, _ => []
  | k + 1, n => continuation k (n / 64) ++ [UInt8.ofNat (n % 64 + 128)]

/-- A number in a first byte, which is marked, and so many that follow. -/
def marked (mark k n : Nat) : List UInt8 := UInt8.ofNat (n / 64 ^ k + mark) :: continuation k n

/-- Numbers in as many bytes are ordered like their bytes, whatever follows. -/
theorem marked_append_lt {mark k m n : Nat} (h : m < n) (hn : n / 64 ^ k + mark < 256)
    (xs ys : List UInt8) : marked mark k m ++ xs < marked mark k n ++ ys := by
  induction k generalizing m n xs ys with
  | zero =>
      refine List.cons_lt_cons_iff.2 (.inl (byte_lt_iff.2 ?_))
      omega
  | succ k ih =>
      have hpow (i : Nat) : i / 64 ^ (k + 1) = i / 64 / 64 ^ k := by
        rw [Nat.div_div_eq_div_mul, Nat.pow_succ']
      rw [hpow] at hn
      rw [marked, marked, hpow, hpow, continuation, continuation, ← List.cons_append,
        ← List.cons_append, List.append_assoc, List.append_assoc]
      rcases Nat.lt_or_ge (m / 64) (n / 64) with hlt | hge
      · exact ih hlt hn _ _
      · -- only the last six bits differ
        have heq : m / 64 = n / 64 := by omega
        rw [heq]
        refine List.append_left_lt (List.cons_lt_cons_iff.2 (.inl (byte_lt_iff.2 ?_)))
        omega

/-! ## Code points -/

/-- How many bytes follow the first byte of a code point. -/
def followers (n : Nat) : Nat :=
  if n < 0x80 then 0 else if n < 0x800 then 1 else if n < 0x10000 then 2 else 3

/-- The mark of a first byte that so many bytes follow. -/
def mark : Nat → Nat
  | 0 => 0
  | 1 => 0xc0
  | 2 => 0xe0
  | _ => 0xf0

/-- The bytes of a code point. -/
def codeBytes (n : Nat) : List UInt8 := marked (mark (followers n)) (followers n) n

theorem toNat_lt (c : Char) : c.toNat < 0x110000 := by
  rcases c.valid with h | h
  · exact Nat.lt_trans h (by decide)
  · exact h.2

theorem utf8EncodeChar_eq (c : Char) : String.utf8EncodeChar c = codeBytes c.toNat := by
  have hc : c.val.toNat < 0x110000 := toNat_lt c
  rw [String.utf8EncodeChar, codeBytes, followers, Char.toNat]
  generalize c.val.toNat = n at hc
  by_cases h1 : n < 0x80
  · rw [if_pos (Nat.le_of_lt_succ h1), if_pos h1, marked, mark, Nat.pow_zero, Nat.div_one]
    rfl
  · rw [if_neg (by omega), if_neg h1]
    by_cases h2 : n < 0x800
    · have hlead : n / 64 % 0x20 = n / 64 := Nat.mod_eq_of_lt (by omega)
      rw [if_pos (by omega), if_pos h2, hlead]
      rfl
    · rw [if_neg (by omega), if_neg h2]
      have h4096 : n / 64 / 64 = n / 4096 := Nat.div_div_eq_div_mul ..
      by_cases h3 : n < 0x10000
      · have hlead : n / 4096 % 0x10 = n / 4096 := Nat.mod_eq_of_lt (by omega)
        rw [if_pos (by omega), if_pos h3, hlead]
        rfl
      · have hlead : n / 262144 % 0x08 = n / 262144 := Nat.mod_eq_of_lt (by omega)
        rw [if_neg (by omega), if_neg h3, hlead, marked, continuation, continuation, continuation,
          h4096]
        rfl

def lead (n : Nat) : Nat := n / 64 ^ followers n + mark (followers n)

/-- The first bytes of code points increase with the number of bytes that follow. -/
theorem lead_lt {m n : Nat} (h : m < n) (hn : n < 0x110000) :
    lead n < 256 ∧ (followers m = followers n ∨ lead m < lead n) := by
  rw [lead, lead, followers, followers]
  split_ifs <;> simp only [mark, true_or, and_true] <;> omega

/-- Code points are ordered like their bytes, whatever follows. -/
theorem codeBytes_append_lt {m n : Nat} (h : m < n) (hn : n < 0x110000) (xs ys : List UInt8) :
    codeBytes m ++ xs < codeBytes n ++ ys := by
  obtain ⟨hlead, heq | hlt⟩ := lead_lt h hn
  · rw [codeBytes, codeBytes, heq]
    exact marked_append_lt h hlead xs ys
  · have hbyte : UInt8.ofNat (lead m) < UInt8.ofNat (lead n) := byte_lt_iff.2 (by omega)
    exact List.cons_lt_cons_iff.2 (.inl hbyte)

/-! ## Texts -/

theorem flatMap_utf8EncodeChar_lt {cs ds : List Char} (h : cs < ds) :
    cs.flatMap String.utf8EncodeChar < ds.flatMap String.utf8EncodeChar := by
  induction h with
  | nil =>
      rw [List.flatMap_nil, List.flatMap_cons, utf8EncodeChar_eq]
      exact .nil
  | cons h ih => exact List.append_left_lt ih
  | rel h =>
      rw [List.flatMap_cons, List.flatMap_cons, utf8EncodeChar_eq, utf8EncodeChar_eq]
      exact codeBytes_append_lt h (toNat_lt _) _ _

theorem data_toUTF8 (s : String) :
    s.toUTF8.data.toList = s.toList.flatMap String.utf8EncodeChar := by
  have hofList : (String.ofList s.toList).toUTF8.data.toList =
      s.toList.flatMap String.utf8EncodeChar := List.toList_data_toByteArray
  rwa [String.ofList_toList] at hofList

/-- Texts are ordered by code points as they are by bytes. -/
theorem toUTF8_lt_iff {s t : String} :
    s.toUTF8.data.toList < t.toUTF8.data.toList ↔ s.toList < t.toList := by
  rw [data_toUTF8, data_toUTF8]
  refine ⟨fun h => ?_, flatMap_utf8EncodeChar_lt⟩
  rcases lt_trichotomy s.toList t.toList with hlt | heq | hgt
  · exact hlt
  · exact absurd h (heq ▸ List.lt_irrefl _)
  · exact absurd h (List.lt_asymm (flatMap_utf8EncodeChar_lt hgt))

end Switchboard.Text
