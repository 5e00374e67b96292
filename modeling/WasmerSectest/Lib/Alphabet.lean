import Mathlib

namespace Alphabet
set_option autoImplicit true

/-- Every character of a text is one of an alphabet. -/
def Over (alphabet : Char → Bool) (text : String) : Prop :=
  ∀ c ∈ text.toList, alphabet c = true

instance {alphabet : Char → Bool} {text : String} : Decidable (Over alphabet text) :=
  decidable_of_iff (text.toList.all alphabet = true) List.all_eq_true

section
variable {alphabet : Char → Bool}

theorem over_append {text text' : String} :
    Over alphabet (text ++ text') ↔ Over alphabet text ∧ Over alphabet text' := by
  rw [Over, String.toList_append]
  exact List.forall_mem_append

theorem over_ofList {chars : List Char} :
    Over alphabet (String.ofList chars) ↔ ∀ c ∈ chars, alphabet c = true := by
  rw [Over, String.toList_ofList]

theorem Over.intercalate {separator : String} (hseparator : Over alphabet separator)
    {texts : List String} (h : ∀ text ∈ texts, Over alphabet text) :
    Over alphabet (separator.intercalate texts) := by
  induction texts with
  | nil => exact List.forall_mem_nil _
  | cons text texts ih =>
    rw [List.forall_mem_cons] at h
    cases texts with
    | nil =>
      rw [String.intercalate_singleton]
      exact h.1
    | cons next texts =>
      rw [String.intercalate_cons_cons, over_append, over_append]
      exact ⟨⟨h.1, hseparator⟩, ih h.2⟩

end

def digits : List Char := "0123456789abcdef".toList

theorem digitChar_mem_digits : ∀ d < 16, Nat.digitChar d ∈ digits := by decide

theorem mem_digits {base : Nat} (hlo : 1 < base) (hhi : base ≤ 16) {n : Nat}
    (h : c ∈ Nat.toDigits base n) : c ∈ digits := by
  induction n using Nat.strongRecOn with
  | ind n ih =>
    by_cases hn : n < base
    · rw [Nat.toDigits_of_lt_base hn, List.mem_singleton] at h
      exact h ▸ digitChar_mem_digits n (by omega)
    · have hdiv : 0 < n / base := Nat.div_pos (by omega) (by omega)
      have hmod : n % base < base := Nat.mod_lt n (by omega)
      have hlt : n / base < n := Nat.div_lt_self (by omega) hlo
      rw [← Nat.div_add_mod n base, ← Nat.toDigits_append_toDigits hlo hdiv hmod] at h
      rcases List.mem_append.1 h with h | h
      · exact ih _ hlt h
      · rw [Nat.toDigits_of_lt_base hmod, List.mem_singleton] at h
        exact h ▸ digitChar_mem_digits _ (by omega)

def Numeral (alphabet : Char → Bool) : Prop := ∀ c ∈ digits, alphabet c = true

instance {alphabet : Char → Bool} : Decidable (Numeral alphabet) :=
  decidable_of_iff (digits.all alphabet = true) List.all_eq_true

section
variable {alphabet : Char → Bool}

theorem Numeral.toDigits (h : Numeral alphabet) {base : Nat} (hlo : 1 < base)
    (hhi : base ≤ 16) (n : Nat) : ∀ c ∈ Nat.toDigits base n, alphabet c = true :=
  fun _ hc => h _ (mem_digits hlo hhi hc)

theorem Numeral.nat (h : Numeral alphabet) (n : Nat) : Over alphabet (toString n) := by
  rw [Nat.toString_eq_ofList_toDigits, over_ofList]
  exact h.toDigits (by decide) (by decide) n

theorem Numeral.uint16 (h : Numeral alphabet) (n : UInt16) : Over alphabet (toString n) :=
  h.nat n.toNat

theorem Numeral.uint32 (h : Numeral alphabet) (n : UInt32) : Over alphabet (toString n) :=
  h.nat n.toNat

theorem Numeral.uint64 (h : Numeral alphabet) (n : UInt64) : Over alphabet (toString n) :=
  h.nat n.toNat

end

end Alphabet
