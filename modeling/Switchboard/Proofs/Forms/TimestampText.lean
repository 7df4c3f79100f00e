import Switchboard.Proofs.Forms.Calendar
import Switchboard.Proofs.Forms.Digits

/-!
# Instants and their text

An instant of the years 0000 to 9999 that is no leap second is read back from its text
(`Timestamp.ofText?_text`).  Its text has four digits for the year and two for every other
number, so each number is read up to its last digit, and nothing is skipped before it.

A fraction is written with three, six or nine digits, as few as are exact, and what is left out
is zero.  The offset is that of UTC, so the day and the second that are read are the ones that
were written.
-/

namespace Switchboard.Timestamp

open Text

/-! ## Parts of a text -/

/-- A number is read from its digits. -/
theorem number?_fixedDigits {w n : Nat} (hw : 0 < w) (hn : n < Nat.pow 10 w) (rest : List Char) :
    number? w (fixedDigits w n ++ rest) = some (n, rest) := by
  have hne : (fixedDigits w n).isEmpty = false :=
    List.isEmpty_eq_false_iff.2 (fixedDigits_ne_nil hw n)
  simp only [number?, trimStart_fixedDigits hw, List.take_left' (length_fixedDigits w n),
    takeWhile_fixedDigits, hne, List.drop_left, digitsValue_fixedDigits hn]
  rfl

theorem year?_fixedDigits {n : Nat} (hn : n < Nat.pow 10 4) (rest : List Char) :
    year? (fixedDigits 4 n ++ rest) = some ((n : Int), rest) := by
  obtain ⟨c, ds, hcs⟩ := List.exists_cons_of_ne_nil (fixedDigits_ne_nil (w := 4) (by decide) n)
  have hc : c.isDigit = true := isDigit_of_mem_fixedDigits (hcs ▸ List.mem_cons_self)
  rw [year?, trimStart_fixedDigits (by decide), hcs, List.cons_append]
  split
  · next heq =>
      obtain ⟨rfl, -⟩ := List.cons.inj heq
      cases hc
  · next heq =>
      obtain ⟨rfl, -⟩ := List.cons.inj heq
      cases hc
  · rw [← List.cons_append, ← hcs, number?_fixedDigits (by decide) hn, Option.map_some]

theorem mark?_cons {c : Char} (h : isBlank c = false) (rest : List Char) :
    mark? c (c :: rest) = some rest := by
  rw [mark?, trimStart_cons h]
  exact if_pos rfl

/-- The nanoseconds are read from the digits of a fraction. -/
theorem fraction?_fixedDigits {w n : Nat} (hw : 0 < w) (hw9 : w ≤ 9) (hn : n < Nat.pow 10 w) :
    fraction? ('.' :: fixedDigits w n ++ ['Z']) = some (n * Nat.pow 10 (9 - w), ['Z']) := by
  have hne : (fixedDigits w n).isEmpty = false :=
    List.isEmpty_eq_false_iff.2 (fixedDigits_ne_nil hw n)
  have hkept : (fixedDigits w n).take 9 = fixedDigits w n :=
    List.take_of_length_le (by rw [length_fixedDigits]; exact hw9)
  simp only [List.cons_append, fraction?, takeWhile_fixedDigits_append w n (c := 'Z') rfl, hne,
    hkept, List.drop_left' (length_fixedDigits w n), digitsValue_fixedDigits hn, length_fixedDigits]
  rfl

/-- A fraction leaves out zeros only. -/
theorem fraction?_fractionChars {n : Nat} (hn : n < billion) :
    fraction? (fractionChars n ++ ['Z']) = some (n, ['Z']) := by
  unfold billion at hn
  rw [fractionChars]
  by_cases h0 : n = 0
  · rw [if_pos h0, h0]
    rfl
  · rw [if_neg h0]
    by_cases h6 : n % 1000000 = 0
    · rw [if_pos h6, fraction?_fixedDigits (by decide) (by decide)
        (by show n / 1000000 < 1000; omega)]
      have hexact : n / 1000000 * 1000000 = n := Nat.div_mul_cancel (Nat.dvd_of_mod_eq_zero h6)
      exact congrArg (fun k => some (k, ['Z'])) hexact
    · rw [if_neg h6]
      by_cases h3 : n % 1000 = 0
      · rw [if_pos h3, fraction?_fixedDigits (by decide) (by decide)
          (by show n / 1000 < 1000000; omega)]
        have hexact : n / 1000 * 1000 = n := Nat.div_mul_cancel (Nat.dvd_of_mod_eq_zero h3)
        exact congrArg (fun k => some (k, ['Z'])) hexact
      · rw [if_neg h3, fraction?_fixedDigits (by decide) (by decide) hn]
        exact congrArg (fun k => some (k, ['Z'])) (Nat.mul_one n)

/-! ## Whole texts -/

/-- The characters of a date and a time of day, with the sign of UTC. -/
def partChars (year month day hour minute second nano : Nat) : List Char :=
  fixedDigits 4 year ++ '-' :: (fixedDigits 2 month ++ '-' :: (fixedDigits 2 day ++
    'T' :: (fixedDigits 2 hour ++ ':' :: (fixedDigits 2 minute ++ ':' :: (fixedDigits 2 second ++
      (fractionChars nano ++ ['Z']))))))

/-- A text with the parts of a date and of a time of day is read as their instant. -/
theorem ofChars?_partChars {year month day hour minute second nano : Nat} {n : Int}
    (hyear : year < 10000) (hmonth : month < 100) (hday : day < 100)
    (hdate : Date.dayOf? ⟨year, month, day⟩ = some n)
    (hhour : hour < 24) (hminute : minute < 60) (hsecond : second < 60) (hnano : nano < billion) :
    ofChars? (partChars year month day hour minute second nano) =
      some (ofSeconds (n * 86400 + (hour * 3600 + minute * 60 + second))
        (Fin.ofNat 2000000000 nano)) := by
  rw [partChars]
  have hpart {k : Nat} (hk : k < 100) (rest : List Char) :
      number? 2 (fixedDigits 2 k ++ rest) = some (k, rest) :=
    number?_fixedDigits (by decide) hk rest
  have hseparator (rest : List Char) : separator? ('T' :: rest) = some rest := rfl
  have hoffset : offset? (trimStart ['Z']) = some (0, []) := by decide
  -- Each reader takes its part and leaves the rest to the next one.
  refine Option.bind_eq_some_iff.2 ⟨_, year?_fixedDigits hyear _, ?_⟩
  refine Option.bind_eq_some_iff.2 ⟨_, mark?_cons (by decide) _, ?_⟩
  refine Option.bind_eq_some_iff.2 ⟨_, hpart hmonth _, ?_⟩
  refine Option.bind_eq_some_iff.2 ⟨_, mark?_cons (by decide) _, ?_⟩
  refine Option.bind_eq_some_iff.2 ⟨_, hpart hday _, ?_⟩
  refine Option.bind_eq_some_iff.2 ⟨_, hseparator _, ?_⟩
  refine Option.bind_eq_some_iff.2 ⟨_, hpart (by omega) _, ?_⟩
  refine Option.bind_eq_some_iff.2 ⟨_, mark?_cons (by decide) _, ?_⟩
  refine Option.bind_eq_some_iff.2 ⟨_, hpart (by omega) _, ?_⟩
  refine Option.bind_eq_some_iff.2 ⟨_, mark?_cons (by decide) _, ?_⟩
  refine Option.bind_eq_some_iff.2 ⟨_, hpart (by omega) _, ?_⟩
  refine Option.bind_eq_some_iff.2 ⟨_, fraction?_fractionChars hnano, ?_⟩
  refine Option.bind_eq_some_iff.2 ⟨_, hoffset, ?_⟩
  refine Option.bind_eq_some_iff.2 ⟨_, hdate, ?_⟩
  have hordinary : ¬ second = 60 := by omega
  have hlast : (year : Int).natAbs ≤ lastYear := by
    unfold lastYear
    omega
  rw [if_neg hordinary, if_pos]
  · show some (ofSeconds (_ - 0) _) = _
    rw [Int.sub_zero, Nat.add_zero]
  · simp only [Bool.and_eq_true, decide_eq_true_eq]
    exact ⟨⟨⟨⟨⟨rfl, hhour⟩, hminute⟩, by omega⟩, hlast⟩, by decide⟩

/-- An instant of the years 0000 to 9999 that is no leap second. -/
structure Plain (t : Timestamp) : Prop where
  year_nonneg : 0 ≤ (Date.dateOf t.day).year
  year_le : (Date.dateOf t.day).year ≤ 9999
  not_leap : t.nano.val < billion

theorem ofSeconds_eq (t : Timestamp) :
    ofSeconds (t.day * 86400 + t.second.val) t.nano = t := by
  obtain ⟨day, second, nano⟩ := t
  have hsecond := second.isLt
  have hday : (day * 86400 + second.val) / 86400 = day := by omega
  have hrest : ((day * 86400 + second.val) % 86400).toNat = second.val := by omega
  rw [ofSeconds, hday, hrest]
  simp

/-- The text of an instant of the years 0000 to 9999 that is no leap second. -/
theorem Plain.chars_eq {t : Timestamp} (h : t.Plain) :
    t.chars = partChars (Date.dateOf t.day).year.toNat (Date.dateOf t.day).month.toNat
      (Date.dateOf t.day).day.toNat (t.second.val / 3600) (t.second.val / 60 % 60)
      (t.second.val % 60) t.nano.val := by
  have hyear : yearChars (Date.dateOf t.day).year =
      fixedDigits 4 (Date.dateOf t.day).year.toNat := if_pos ⟨h.year_nonneg, h.year_le⟩
  have hleap : (if billion ≤ t.nano.val then 1 else 0) = 0 := if_neg (Nat.not_le.2 h.not_leap)
  simp only [chars, partChars, hyear, hleap, Nat.add_zero, Nat.zero_mul, Nat.sub_zero,
    List.append_assoc, List.cons_append]

/-- An instant is read back from its text. -/
theorem ofText?_text {t : Timestamp} (h : t.Plain) : ofText? t.text = some t := by
  obtain ⟨hyear0, hyear, hleap⟩ := h
  obtain ⟨hmonth0, hmonth, hday0, hday⟩ := Date.dateOf_bounds t.day
  have hsecond := t.second.isLt
  have hdate : Date.dayOf? ⟨((Date.dateOf t.day).year.toNat : Int),
      ((Date.dateOf t.day).month.toNat : Int), ((Date.dateOf t.day).day.toNat : Int)⟩ =
      some t.day := by
    rw [Int.toNat_of_nonneg hyear0, Int.toNat_of_nonneg (by omega),
      Int.toNat_of_nonneg (by omega), Date.dayOf?_dateOf]
  have hparts : ((t.second.val / 3600 : Nat) : Int) * 3600
      + ((t.second.val / 60 % 60 : Nat) : Int) * 60 + ((t.second.val % 60 : Nat) : Int)
      = t.second.val := by omega
  have hnano : Fin.ofNat 2000000000 t.nano.val = t.nano := Fin.ofNat_val_eq_self t.nano
  rw [ofText?, text, String.toList_ofList, Plain.chars_eq ⟨hyear0, hyear, hleap⟩,
    ofChars?_partChars (by omega) (by omega) (by omega) hdate (by omega) (by omega) (by omega)
      hleap, hparts, hnano, ofSeconds_eq]

end Switchboard.Timestamp
