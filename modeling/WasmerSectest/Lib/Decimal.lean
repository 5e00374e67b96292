import Mathlib

namespace Decimal
set_option autoImplicit true

/-- The value of a nonempty string of ASCII digits. -/
def digits? (cs : List Char) : Option Nat :=
  if cs ≠ [] ∧ cs.all Char.isDigit then some (Nat.ofDigitChars 10 cs 0) else none

/-- Rust's `parse` for an unsigned type with `size` values. -/
def parseUnsigned (size : Nat) (cs : List Char) : Option Nat :=
  match cs with
  | '+' :: rest => (digits? rest).filter (· < size)
  | cs => (digits? cs).filter (· < size)

/-- Rust's `parse` for a signed type whose values lie in `[-half, half)`. -/
def parseSigned (half : Nat) (cs : List Char) : Option Int :=
  match cs with
  | '-' :: rest => ((digits? rest).filter (· ≤ half)).map (fun n => -(n : Int))
  | '+' :: rest => ((digits? rest).filter (· < half)).map (fun n => (n : Int))
  | cs => ((digits? cs).filter (· < half)).map (fun n => (n : Int))

/-- Why `parse` refuses a text: digits are read until one is wrong or the value too large. -/
def unsignedError (size : Nat) (cs : List Char) : String :=
  let digits := match cs with
    | '+' :: rest => rest
    | cs => cs
  if cs = [] then "cannot parse integer from empty string"
  else if size ≤ Nat.ofDigitChars 10 (digits.takeWhile Char.isDigit) 0 then
    "number too large to fit in target type"
  else "invalid digit found in string"

theorem mem_toDigits (h : c ∈ Nat.toDigits 10 n) : c.isDigit = true :=
  Nat.isDigit_of_mem_toDigits (by decide) (by decide) h

theorem digits?_toDigits (n : Nat) : digits? (Nat.toDigits 10 n) = some n := by
  have hne : Nat.toDigits 10 n ≠ [] := Nat.toDigits_ne_nil
  have hall : (Nat.toDigits 10 n).all Char.isDigit = true :=
    List.all_eq_true.2 fun c hc => mem_toDigits hc
  rw [digits?, if_pos ⟨hne, hall⟩, Nat.ofDigitChars_ten_toDigits]

theorem toDigits_cons (n : Nat) :
    ∃ c cs, Nat.toDigits 10 n = c :: cs ∧ c ≠ '+' ∧ c ≠ '-' := by
  cases he : Nat.toDigits 10 n with
  | nil => exact absurd he Nat.toDigits_ne_nil
  | cons c cs =>
    have hc : c.isDigit = true := mem_toDigits (he ▸ List.mem_cons_self)
    refine ⟨c, cs, rfl, ?_, ?_⟩ <;> (intro h; subst h; exact absurd hc (by decide))

theorem parseUnsigned_toDigits (h : n < size) :
    parseUnsigned size (Nat.toDigits 10 n) = some n := by
  have hd := digits?_toDigits n
  obtain ⟨c, cs, he, hp, -⟩ := toDigits_cons n
  rw [he] at hd ⊢
  rw [parseUnsigned, hd, Option.filter_some, decide_eq_true h]
  · rfl
  · intro rest hr
    exact hp (List.cons.inj hr).1

theorem parseSigned_toDigits (h : n < half) :
    parseSigned half (Nat.toDigits 10 n) = some (n : Int) := by
  have hd := digits?_toDigits n
  obtain ⟨c, cs, he, hp, hm⟩ := toDigits_cons n
  rw [he] at hd ⊢
  rw [parseSigned, hd, Option.filter_some, decide_eq_true h]
  · rfl
  · intro rest hr
    exact hm (List.cons.inj hr).1
  · intro rest hr
    exact hp (List.cons.inj hr).1

theorem parseSigned_neg_toDigits (h : n ≤ half) :
    parseSigned half ('-' :: Nat.toDigits 10 n) = some (-(n : Int)) := by
  rw [parseSigned, digits?_toDigits, Option.filter_some, decide_eq_true h]
  rfl

theorem toList_toString_ofNat (n : Nat) :
    (toString (Int.ofNat n)).toList = Nat.toDigits 10 n :=
  Nat.toList_repr

theorem toList_toString_negSucc (n : Nat) :
    (toString (Int.negSucc n)).toList = '-' :: Nat.toDigits 10 (n + 1) := by
  change ("-" ++ Nat.repr (n + 1)).toList = _
  rw [String.toList_append, Nat.toList_repr]
  rfl

/-- Printing a number that fits a signed type and parsing the text gives it back. -/
theorem parseSigned_toString {half : Nat} (i : Int) (hlo : -(half : Int) ≤ i)
    (hhi : i < half) : parseSigned half (toString i).toList = some i := by
  cases i with
  | ofNat n =>
    rw [toList_toString_ofNat]
    exact parseSigned_toDigits (Int.ofNat_lt.1 hhi)
  | negSucc n =>
    rw [toList_toString_negSucc, parseSigned_neg_toDigits (by omega)]
    rfl

theorem mem_toString (i : Int) (h : c ∈ (toString i).toList) :
    c = '-' ∨ c.isDigit = true := by
  cases i with
  | ofNat n =>
    rw [toList_toString_ofNat] at h
    exact .inr (mem_toDigits h)
  | negSucc n =>
    rw [toList_toString_negSucc] at h
    rcases List.mem_cons.1 h with hc | hc
    · exact .inl hc
    · exact .inr (mem_toDigits hc)

end Decimal
