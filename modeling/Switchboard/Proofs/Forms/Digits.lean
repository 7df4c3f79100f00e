import Switchboard.Text.Blank
import Switchboard.Text.Digits

/-!
# Reading digits back

A number that fits in a width is read back from its decimal digits of that width
(`digitsValue_fixedDigits`), and a hexadecimal digit from its character
(`hexValue?_hexChar`).  Written digits are digits, and no digit is blank, so a reader of digits
takes them all and skips none.
-/

namespace Switchboard.Text

/-! ## Decimal -/

theorem isDigit_digitChar : ∀ d < 10, (digitChar d).isDigit = true := by decide

theorem digitValue_digitChar : ∀ d < 10, digitValue (digitChar d) = d := by decide

theorem length_fixedDigits (w n : Nat) : (fixedDigits w n).length = w := by
  induction w generalizing n with
  | zero => rfl
  | succ w ih => rw [fixedDigits, List.length_append, ih, List.length_singleton]

theorem isDigit_of_mem_fixedDigits {w n : Nat} {c : Char} (h : c ∈ fixedDigits w n) :
    c.isDigit = true := by
  induction w generalizing n with
  | zero => cases h
  | succ w ih =>
      rcases List.mem_append.1 h with h | h
      · exact ih h
      · rw [List.mem_singleton.1 h]
        exact isDigit_digitChar _ (Nat.mod_lt n (by decide))

theorem digitsValue_concat (ds : List Char) (c : Char) :
    digitsValue (ds ++ [c]) = 10 * digitsValue ds + digitValue c := by
  simp [digitsValue]

theorem digitsValue_fixedDigits {w n : Nat} (h : n < Nat.pow 10 w) :
    digitsValue (fixedDigits w n) = n := by
  induction w generalizing n with
  | zero =>
      obtain rfl : n = 0 := Nat.lt_one_iff.1 h
      rfl
  | succ w ih =>
      have hquotient : n / 10 < Nat.pow 10 w := Nat.div_lt_of_lt_mul (Nat.mul_comm _ 10 ▸ h)
      rw [fixedDigits, digitsValue_concat, ih hquotient,
        digitValue_digitChar _ (Nat.mod_lt n (by decide))]
      exact Nat.div_add_mod n 10

theorem fixedDigits_ne_nil {w : Nat} (hw : 0 < w) (n : Nat) : fixedDigits w n ≠ [] := by
  intro hnil
  have hlength := length_fixedDigits w n
  rw [hnil, List.length_nil] at hlength
  omega

/-- Digits are read up to their end, or to a character that is none. -/
theorem takeWhile_fixedDigits (w n : Nat) :
    (fixedDigits w n).takeWhile Char.isDigit = fixedDigits w n := by
  have h : (fixedDigits w n ++ []).takeWhile Char.isDigit = fixedDigits w n ++ [].takeWhile _ :=
    List.takeWhile_append_of_pos fun _ => isDigit_of_mem_fixedDigits
  rwa [List.append_nil, List.takeWhile_nil, List.append_nil] at h

theorem takeWhile_fixedDigits_append (w n : Nat) {c : Char} (hc : c.isDigit = false)
    (rest : List Char) :
    (fixedDigits w n ++ c :: rest).takeWhile Char.isDigit = fixedDigits w n := by
  rw [List.takeWhile_append_of_pos fun _ => isDigit_of_mem_fixedDigits,
    List.takeWhile_cons_of_neg (by simp [hc]), List.append_nil]

/-! ## Blanks -/

theorem isBlank_of_isDigit {c : Char} (h : c.isDigit = true) : isBlank c = false := by
  have hrange : 48 ≤ c.toNat ∧ c.toNat ≤ 57 := by
    simpa [Char.isDigit, UInt32.le_iff_toNat_le] using h
  simp [isBlank, blankRanges]
  omega

theorem trimStart_cons {c : Char} (h : isBlank c = false) (cs : List Char) :
    trimStart (c :: cs) = c :: cs := by
  rw [trimStart, List.dropWhile_cons_of_neg (by simp [h])]

/-- Nothing is skipped before digits. -/
theorem trimStart_fixedDigits {w : Nat} (hw : 0 < w) (n : Nat) (rest : List Char) :
    trimStart (fixedDigits w n ++ rest) = fixedDigits w n ++ rest := by
  obtain ⟨c, ds, hcs⟩ := List.exists_cons_of_ne_nil (fixedDigits_ne_nil hw n)
  have hc : c.isDigit = true := isDigit_of_mem_fixedDigits (hcs ▸ List.mem_cons_self)
  rw [hcs, List.cons_append, trimStart_cons (isBlank_of_isDigit hc)]

/-! ## Hexadecimal -/

theorem hexValue?_hexChar : ∀ n < 16, hexValue? (hexChar n) = some n := by decide

end Switchboard.Text
