import Mathlib

namespace Escape
set_option autoImplicit true

/-- An escape table: a marked letter stands for a character that may not appear as itself. -/
structure Codec where
  mark : Char
  letter : Char → Option Char
  char : Char → Option Char
  letter_mark : letter mark ≠ none
  char_letter : ∀ c l, letter c = some l → char l = some c

variable (k : Codec)

def Codec.escape : List Char → List Char
  | [] => []
  | c :: cs =>
    match k.letter c with
    | some l => k.mark :: l :: escape cs
    | none => c :: escape cs

def Codec.unescape : List Char → Option (List Char)
  | [] => some []
  | [c] => if c = k.mark then none else some [c]
  | c :: l :: cs =>
    if c = k.mark then
      match k.char l with
      | some d => (unescape cs).map (d :: ·)
      | none => none
    else (unescape (l :: cs)).map (c :: ·)

theorem Codec.unescape_cons (h : c ≠ k.mark) (cs : List Char) :
    k.unescape (c :: cs) = (k.unescape cs).map (c :: ·) := by
  cases cs with
  | nil => exact if_neg h
  | cons l cs => rw [unescape, if_neg h]

theorem Codec.unescape_mark (h : k.char l = some d) (cs : List Char) :
    k.unescape (k.mark :: l :: cs) = (k.unescape cs).map (d :: ·) := by
  rw [unescape, if_pos rfl, h]

theorem Codec.unescape_escape (cs : List Char) : k.unescape (k.escape cs) = some cs := by
  induction cs with
  | nil => rfl
  | cons c cs ih =>
    cases hl : k.letter c with
    | some l =>
      rw [escape, hl]
      change k.unescape (k.mark :: l :: k.escape cs) = _
      rw [unescape_mark k (k.char_letter c l hl), ih]
      rfl
    | none =>
      have hc : c ≠ k.mark := fun he => k.letter_mark (he ▸ hl)
      rw [escape, hl]
      change k.unescape (c :: k.escape cs) = _
      rw [unescape_cons k hc, ih]
      rfl

/-- A character with an escape, that is not itself a letter of the table, never shows. -/
theorem Codec.not_mem_escape (hc : k.letter c ≠ none) (hm : c ≠ k.mark)
    (hl : k.char c = none) (cs : List Char) : c ∉ k.escape cs := by
  induction cs with
  | nil => exact List.not_mem_nil
  | cons d cs ih =>
    intro h
    cases hd : k.letter d with
    | some l =>
      rw [escape, hd] at h
      rcases List.mem_cons.1 h with he | h
      · exact hm he
      · rcases List.mem_cons.1 h with he | h
        · subst he
          have hs := k.char_letter d c hd
          rw [hl] at hs
          cases hs
        · exact ih h
    | none =>
      rw [escape, hd] at h
      rcases List.mem_cons.1 h with he | h
      · subst he; exact hc hd
      · exact ih h

/-- A character without a part in the table shows exactly where it stands in the text. -/
theorem Codec.mem_escape_iff (hc : k.letter c = none) (hm : c ≠ k.mark) (hl : k.char c = none)
    (cs : List Char) : c ∈ k.escape cs ↔ c ∈ cs := by
  induction cs with
  | nil => exact Iff.rfl
  | cons d cs ih =>
    rw [escape]
    cases hd : k.letter d with
    | some l =>
      have hcd : c ≠ d := by
        intro he
        rw [← he, hc] at hd
        cases hd
      have hcl : c ≠ l := by
        intro he
        have hs := k.char_letter d l hd
        rw [← he, hl] at hs
        cases hs
      simp only [List.mem_cons, hm, hcl, hcd, false_or]
      exact ih
    | none =>
      simp only [List.mem_cons]
      exact or_congr_right ih

/-- Escaping at most doubles a text, and never shortens it. -/
theorem Codec.length_escape_le (cs : List Char) : (k.escape cs).length ≤ 2 * cs.length := by
  induction cs with
  | nil => exact Nat.zero_le _
  | cons c cs ih =>
    rw [escape]
    cases k.letter c with
    | some l =>
      simp only [List.length_cons]
      omega
    | none =>
      simp only [List.length_cons]
      omega

theorem Codec.le_length_escape (cs : List Char) : cs.length ≤ (k.escape cs).length := by
  induction cs with
  | nil => exact Nat.zero_le _
  | cons c cs ih =>
    rw [escape]
    cases k.letter c with
    | some l => exact Nat.succ_le_succ (Nat.le_succ_of_le ih)
    | none => exact Nat.succ_le_succ ih

end Escape
