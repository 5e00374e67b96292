import Mathlib

namespace LittleEndian
set_option autoImplicit true

/-- The number whose base-256 digits, least significant first, are the given bytes. -/
def decode : List UInt8 → Nat
  | [] => 0
  | b :: bs => b.toNat + 256 * decode bs

/-- The `w` least significant base-256 digits of a number, least significant first. -/
def encode : Nat → Nat → List UInt8
  | 0, _ => []
  | w + 1, n => UInt8.ofNat n :: encode w (n / 256)

@[simp] theorem encode_length (w n : Nat) : (encode w n).length = w := by
  induction w generalizing n with
  | zero => rfl
  | succ w ih => rw [encode, List.length_cons, ih]

theorem decode_lt (bs : List UInt8) : decode bs < 256 ^ bs.length := by
  induction bs with
  | nil => exact Nat.one_pos
  | cons b bs ih =>
    have hb := b.toNat_lt
    rw [decode, List.length_cons, Nat.pow_succ]
    omega

theorem decode_encode (w n : Nat) (h : n < 256 ^ w) : decode (encode w n) = n := by
  induction w generalizing n with
  | zero => rw [Nat.pow_zero] at h; rw [encode, decode]; omega
  | succ w ih =>
    have hq : n / 256 < 256 ^ w := by
      rw [Nat.pow_succ] at h
      exact Nat.div_lt_of_lt_mul (by rw [Nat.mul_comm]; exact h)
    have hb : (UInt8.ofNat n).toNat = n % 256 := rfl
    rw [encode, decode, ih _ hq, hb]
    omega

theorem encode_decode (bs : List UInt8) : encode bs.length (decode bs) = bs := by
  induction bs with
  | nil => rfl
  | cons b bs ih =>
    have hb := b.toNat_lt
    have hlow : UInt8.ofNat (b.toNat + 256 * decode bs) = b := by
      apply UInt8.toNat.inj
      rw [UInt8.toNat_ofNat']
      omega
    have hhigh : (b.toNat + 256 * decode bs) / 256 = decode bs := by omega
    rw [List.length_cons, decode, encode, hlow, hhigh, ih]

/-- A byte string of the right width is the encoding of a number iff it decodes to it. -/
theorem decode_eq_iff (hw : bs.length = w) (hn : n < 256 ^ w) :
    decode bs = n ↔ bs = encode w n := by
  subst hw
  apply Iff.intro
  · intro h
    rw [← h, encode_decode]
  · intro h
    have hd := decode_encode bs.length n hn
    rwa [← h] at hd

end LittleEndian
