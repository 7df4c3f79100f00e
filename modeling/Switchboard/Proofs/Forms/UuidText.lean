import Switchboard.Proofs.Forms.Digits
import Switchboard.Uuid

/-!
# Identifiers and their text

An identifier is read back from its text (`Uuid.ofText?_text`).  The text has thirty-six
characters, so it is read as the hyphenated form.  Taking out the hyphens leaves two digits for
each byte, whatever the sizes of the groups are.
-/

namespace Switchboard.Uuid

open Text (hexValue?_hexChar)

/-! ## Bytes -/

theorem length_byteChars (b : UInt8) : (byteChars b).length = 2 := rfl

theorem length_flatMap_byteChars (bs : List UInt8) :
    (bs.flatMap byteChars).length = 2 * bs.length := by
  induction bs with
  | nil => rfl
  | cons b bs ih =>
      rw [List.flatMap_cons, List.length_append, ih, length_byteChars, List.length_cons]
      omega

theorem bytesOf?_flatMap_byteChars (bs : List UInt8) :
    bytesOf? (bs.flatMap byteChars) = some bs := by
  induction bs with
  | nil => rfl
  | cons b bs ih =>
      have hb : b.toNat < 256 := b.toNat_lt
      have hbyte : UInt8.ofNat (16 * (b.toNat / 16) + b.toNat % 16) = b := by
        rw [Nat.div_add_mod, UInt8.ofNat_toNat]
      rw [List.flatMap_cons, byteChars, List.cons_append, List.cons_append, List.nil_append,
        bytesOf?, hexValue?_hexChar _ (by omega), hexValue?_hexChar _ (by omega), ih]
      exact congrArg (fun x => some (x :: bs)) hbyte

/-! ## Groups -/

/-- The number of bytes in groups of the given sizes. -/
def groupedBytes : List Nat → Nat
  | [] => 0
  | n :: sizes => n + groupedBytes sizes

theorem length_take_flatMap {n : Nat} {bs : List UInt8} (h : n ≤ bs.length) :
    ((bs.take n).flatMap byteChars).length = 2 * n := by
  rw [length_flatMap_byteChars, List.length_take, Nat.min_eq_left h]

theorem groupedBytes_drop {n : Nat} {sizes : List Nat} {bs : List UInt8}
    (h : groupedBytes (n :: sizes) = bs.length) : groupedBytes sizes = (bs.drop n).length := by
  rw [groupedBytes] at h
  rw [List.length_drop]
  omega

/-- Without its hyphens, a text of groups has the digits of the bytes in a row. -/
theorem ungroup?_groupChars {sizes : List Nat} {bs : List UInt8}
    (h : groupedBytes sizes = bs.length) :
    ungroup? sizes (groupChars sizes bs) = some (bs.flatMap byteChars) := by
  induction sizes generalizing bs with
  | nil => rfl
  | cons n sizes ih =>
      cases sizes with
      | nil => rfl
      | cons m sizes =>
          have hn : n ≤ bs.length := by rw [← h, groupedBytes]; omega
          simp only [groupChars, ungroup?, List.drop_left' (length_take_flatMap hn),
            List.take_left' (length_take_flatMap hn), ih (groupedBytes_drop h), Option.map_some]
          rw [← List.flatMap_append, List.take_append_drop]

theorem length_groupChars {n : Nat} {sizes : List Nat} {bs : List UInt8}
    (h : groupedBytes (n :: sizes) = bs.length) :
    (groupChars (n :: sizes) bs).length = 2 * bs.length + sizes.length := by
  induction sizes generalizing n bs with
  | nil => exact length_flatMap_byteChars bs
  | cons m sizes ih =>
      have hn : n ≤ bs.length := by rw [← h, groupedBytes]; omega
      simp only [groupChars, List.length_append, List.length_cons, length_take_flatMap hn,
        ih (groupedBytes_drop h), List.length_drop]
      omega

/-- An identifier is read back from its text. -/
theorem ofText?_text (u : Uuid) : ofText? u.text = some u := by
  obtain ⟨bytes, hbytes⟩ := u
  have hgrouped : groupedBytes groupSizes = bytes.length := hbytes.symm
  have hlength : (groupChars groupSizes bytes).length = 36 := by
    rw [groupSizes, length_groupChars hgrouped, hbytes]
    rfl
  have hundigited : (groupChars groupSizes bytes).length ≠ 32 := by omega
  rw [ofText?, text, chars, String.toList_ofList, ofChars?, if_neg hundigited, if_pos hlength,
    ofHyphenated?, ungroup?_groupChars hgrouped, Option.bind_some, ofDigits?,
    bytesOf?_flatMap_byteChars]
  exact dif_pos hbytes

end Switchboard.Uuid
