import WasmerSectest.Lib.Decimal
import WasmerSectest.Lib.Utf8

namespace TextLength
set_option autoImplicit true

@[simp] theorem toString_self (s : String) : toString s = s := rfl

theorem length_le_length_bytes (s : String) : s.toList.length ≤ (Utf8.bytes s).length := by
  rw [Utf8.bytes_eq_flatMap]
  induction s.toList with
  | nil => exact Nat.zero_le _
  | cons c cs ih =>
    have hc : 0 < c.utf8Size := c.utf8Size_pos
    rw [List.flatMap_cons, List.length_append, List.length_cons, String.length_utf8EncodeChar]
    omega

theorem length_bytes_le (s : String) : (Utf8.bytes s).length ≤ 4 * s.toList.length := by
  rw [Utf8.bytes_eq_flatMap]
  induction s.toList with
  | nil => exact Nat.zero_le _
  | cons c cs ih =>
    have hc : c.utf8Size ≤ 4 := c.utf8Size_le_four
    rw [List.flatMap_cons, List.length_append, List.length_cons, String.length_utf8EncodeChar]
    omega

theorem length_toDigits_le {base : Nat} (hbase : 1 < base) (h : n < base ^ (k + 1)) :
    (Nat.toDigits base n).length ≤ k + 1 :=
  (Nat.length_toDigits_le_iff hbase k.succ_pos).2 h

theorem length_nat_le (h : n < 10 ^ (k + 1)) : (toString n).toList.length ≤ k + 1 := by
  rw [Nat.toString_eq_ofList_toDigits, String.toList_ofList]
  exact length_toDigits_le (by decide) h

theorem length_int_le {i : Int} (h : i.natAbs < 10 ^ (k + 1)) :
    (toString i).toList.length ≤ k + 2 := by
  cases i with
  | ofNat n =>
    rw [Decimal.toList_toString_ofNat]
    exact Nat.le_succ_of_le (length_toDigits_le (by decide) h)
  | negSucc n =>
    rw [Decimal.toList_toString_negSucc, List.length_cons]
    exact Nat.succ_le_succ (length_toDigits_le (by decide) h)

theorem length_uint16_le (n : UInt16) : (toString n).toList.length ≤ 5 :=
  length_nat_le (lt_of_lt_of_le n.toNat_lt (by decide))

theorem length_uint32_le (n : UInt32) : (toString n).toList.length ≤ 10 :=
  length_nat_le (lt_of_lt_of_le n.toNat_lt (by decide))

theorem length_uint64_le (n : UInt64) : (toString n).toList.length ≤ 20 :=
  length_nat_le (lt_of_lt_of_le n.toNat_lt (by decide))

theorem length_int32_le (n : Int32) : (toString n).toList.length ≤ 11 := by
  apply length_int_le
  have hlo := n.le_toInt
  have hhi := n.toInt_lt
  omega

theorem length_intercalate (sep : List α) (texts : List (List α)) :
    (sep.intercalate texts).length =
      (texts.map List.length).sum + (texts.length - 1) * sep.length := by
  induction texts with
  | nil => simp
  | cons text texts ih =>
    cases texts with
    | nil => simp
    | cons next texts =>
      rw [List.intercalate_cons_cons, List.length_append, List.length_append, ih]
      simp only [List.map_cons, List.sum_cons, List.length_cons]
      simp only [Nat.add_sub_cancel, Nat.add_mul, Nat.one_mul]
      omega

end TextLength
