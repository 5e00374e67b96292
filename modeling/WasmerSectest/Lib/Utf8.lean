import Mathlib

namespace Utf8
set_option autoImplicit true

def bytes (s : String) : List UInt8 := s.toByteArray.data.toList

/-- Rust's `str::from_utf8`. -/
def fromUtf8 (bs : List UInt8) : Option String := String.fromUTF8? bs.toByteArray

theorem toByteArray_bytes (s : String) : (bytes s).toByteArray = s.toByteArray := by
  apply ByteArray.ext
  rw [List.data_toByteArray, bytes]

theorem bytes_of_toByteArray (h : bs.toByteArray = s.toByteArray) : bytes s = bs := by
  rw [bytes, ← h, List.data_toByteArray]

theorem bytes_injective (h : bytes s = bytes t) : s = t := by
  apply String.toByteArray_inj.1
  rw [← toByteArray_bytes s, ← toByteArray_bytes t, h]

theorem bytes_eq_flatMap (s : String) : bytes s = s.toList.flatMap String.utf8EncodeChar := by
  rw [bytes, ← String.utf8Encode_toList, List.utf8Encode, List.data_toByteArray]

theorem bytes_append (s t : String) : bytes (s ++ t) = bytes s ++ bytes t := by
  rw [bytes_eq_flatMap, String.toList_append, List.flatMap_append, ← bytes_eq_flatMap,
    ← bytes_eq_flatMap]

theorem encodeChar_split (h : String.utf8EncodeChar c = before ++ b :: after)
    (hd : String.utf8EncodeChar d ++ rest = b :: rest') : before = [] := by
  have hlt : before.length < (String.utf8EncodeChar c).length := by
    rw [h, List.length_append, List.length_cons]
    omega
  have hb : (String.utf8EncodeChar c)[before.length] = b := by
    simp only [h, List.getElem_append_right, Nat.le_refl, Nat.sub_self, List.getElem_cons_zero]
  have hpos : 0 < (String.utf8EncodeChar d).length := by
    rw [String.length_utf8EncodeChar]
    exact d.utf8Size_pos
  have hb' : (String.utf8EncodeChar d)[0] = b := by
    have hget : (String.utf8EncodeChar d ++ rest)[0]? = some b := by
      rw [hd]
      rfl
    rw [List.getElem?_append_left hpos] at hget
    exact (List.getElem?_eq_some_iff.1 hget).2
  have hfirst : b.IsUTF8FirstByte := by
    rw [← hb', UInt8.isUTF8FirstByte_getElem_utf8EncodeChar]
  rw [← hb, UInt8.isUTF8FirstByte_getElem_utf8EncodeChar] at hfirst
  exact List.length_eq_zero_iff.1 hfirst

theorem exists_bytes_of_append (h : bytes s = before ++ bytes t) : ∃ s', before = bytes s' := by
  rw [bytes_eq_flatMap, bytes_eq_flatMap] at h
  suffices hchars : ∃ cs : List Char, before = cs.flatMap String.utf8EncodeChar by
    obtain ⟨cs, rfl⟩ := hchars
    refine ⟨String.ofList cs, ?_⟩
    rw [bytes_eq_flatMap, String.toList_ofList]
  generalize s.toList = cs at h
  induction cs generalizing before with
  | nil => exact ⟨[], (List.append_eq_nil_iff.1 h.symm).1⟩
  | cons c cs ih =>
    rw [List.flatMap_cons] at h
    rcases List.append_eq_append_iff.1 h with ⟨before, rfl, hrest⟩ | ⟨after, hc, hrest⟩
    · obtain ⟨cs', rfl⟩ := ih hrest
      exact ⟨c :: cs', (List.flatMap_cons ..).symm⟩
    · cases after with
      | nil =>
        rw [List.append_nil] at hc
        refine ⟨[c], ?_⟩
        rw [List.flatMap_singleton, hc]
      | cons b after =>
        cases ht : t.toList with
        | nil =>
          rw [ht, List.flatMap_nil] at hrest
          cases hrest
        | cons d ds =>
          rw [ht, List.flatMap_cons] at hrest
          exact ⟨[], encodeChar_split hc hrest⟩

/-- Decoding succeeds exactly on the encoding of the string it returns. -/
theorem fromUtf8_eq_some_iff : fromUtf8 bs = some s ↔ bs = bytes s := by
  rw [fromUtf8, String.fromUTF8?]
  apply Iff.intro
  · intro h
    split at h
    · have he := Option.some.inj h
      exact (bytes_of_toByteArray (congrArg String.toByteArray he)).symm
    · cases h
  · intro h
    subst h
    have hv : (bytes s).toByteArray.IsValidUTF8 := toByteArray_bytes s ▸ s.isValidUTF8
    rw [dif_pos hv]
    exact congrArg some (String.toByteArray_inj.1 (toByteArray_bytes s))

theorem fromUtf8_eq_none_iff : fromUtf8 bs = none ↔ ∀ s, bs ≠ bytes s := by
  rw [Option.eq_none_iff_forall_ne_some]
  exact forall_congr' fun s => not_congr fromUtf8_eq_some_iff

/-- The width a lead byte announces, and the range its second byte must lie in. -/
def lead (b : UInt8) : Nat × UInt8 × UInt8 :=
  if 0xC2 ≤ b ∧ b ≤ 0xDF then (2, 0x80, 0xBF)
  else if b = 0xE0 then (3, 0xA0, 0xBF)
  else if b = 0xED then (3, 0x80, 0x9F)
  else if 0xE1 ≤ b ∧ b ≤ 0xEF then (3, 0x80, 0xBF)
  else if b = 0xF0 then (4, 0x90, 0xBF)
  else if 0xF1 ≤ b ∧ b ≤ 0xF3 then (4, 0x80, 0xBF)
  else if b = 0xF4 then (4, 0x80, 0x8F)
  else (1, 0x80, 0xBF)

/-- How many bytes the ill-formed sequence at the front of the input takes up. -/
def invalidLength : List UInt8 → Nat
  | b :: second :: rest =>
    let (width, lo, hi) := lead b
    if 3 ≤ width ∧ lo ≤ second ∧ second ≤ hi then
      2 + ((rest.take (width - 2)).takeWhile fun c => 0x80 ≤ c ∧ c ≤ 0xBF).length
    else 1
  | _ => 1

/-- The character at the front of the input, if a well-formed one stands there. -/
def decodeChar (bs : List UInt8) : Option Char := bs.toByteArray.utf8DecodeChar? 0

def lossyChars : Nat → List UInt8 → List Char
  | _, [] => []
  | 0, _ => []
  | fuel + 1, bs =>
    match decodeChar bs with
    | some c => c :: lossyChars fuel (bs.drop c.utf8Size)
    | none => '\uFFFD' :: lossyChars fuel (bs.drop (invalidLength bs))

/-- Rust's `String::from_utf8_lossy`; every step consumes a byte, so the fuel suffices. -/
def fromUtf8Lossy (bs : List UInt8) : String := String.ofList (lossyChars bs.length bs)

/-- How Rust reports the first ill-formed sequence of a byte string. -/
def errorText : Nat → Nat → List UInt8 → String
  | fuel + 1, index, b :: bs =>
    match decodeChar (b :: bs) with
    | some c => errorText fuel (index + c.utf8Size) ((b :: bs).drop c.utf8Size)
    | none =>
      let len := invalidLength (b :: bs)
      let width := (lead b).1
      if len = (b :: bs).length ∧ len < width then
        s!"incomplete utf-8 byte sequence from index {index}"
      else s!"invalid utf-8 sequence of {len} bytes from index {index}"
  | _, _, _ => ""

theorem decodeChar_append (c : Char) (rest : List UInt8) :
    decodeChar (String.utf8EncodeChar c ++ rest) = some c := by
  rw [decodeChar, List.toByteArray_append]
  exact ByteArray.utf8DecodeChar?_utf8EncodeChar_append

theorem lossyChars_flatMap (cs : List Char)
    (h : (cs.flatMap String.utf8EncodeChar).length ≤ fuel) :
    lossyChars fuel (cs.flatMap String.utf8EncodeChar) = cs := by
  induction cs generalizing fuel with
  | nil => rw [List.flatMap_nil, lossyChars]
  | cons c cs ih =>
    have hlen := String.length_utf8EncodeChar c
    have hpos := c.utf8Size_pos
    rw [List.flatMap_cons, List.length_append, hlen] at h
    cases fuel with
    | zero => omega
    | succ fuel =>
      have hne : String.utf8EncodeChar c ++ cs.flatMap String.utf8EncodeChar ≠ [] := by
        intro he
        have := congrArg List.length he
        rw [List.length_append, hlen, List.length_nil] at this
        omega
      have hdrop : (String.utf8EncodeChar c ++ cs.flatMap String.utf8EncodeChar).drop
          c.utf8Size = cs.flatMap String.utf8EncodeChar := by
        rw [← hlen, List.drop_left]
      rw [List.flatMap_cons, lossyChars, decodeChar_append]
      · change c :: lossyChars fuel (List.drop c.utf8Size _) = c :: cs
        rw [hdrop, ih (by omega)]
      · exact hne

/-- Text that is valid UTF-8 loses nothing. -/
theorem fromUtf8Lossy_bytes (s : String) : fromUtf8Lossy (bytes s) = s := by
  rw [fromUtf8Lossy, bytes_eq_flatMap, lossyChars_flatMap _ (Nat.le_refl _),
    String.ofList_toList]

theorem decodeChar_eq_some (h : decodeChar bs = some c) :
    ∃ rest, bs = String.utf8EncodeChar c ++ rest := by
  obtain ⟨rest, hrest⟩ := ByteArray.exists_of_utf8DecodeChar?_eq_some h
  refine ⟨rest.data.toList, ?_⟩
  have hlist := congrArg (fun b : ByteArray => b.data.toList) hrest
  rw [List.data_toByteArray, ByteArray.data_append, Array.toList_append,
    List.data_toByteArray] at hlist
  exact hlist

theorem lossyChars_succ (fuel : Nat) (h : bs ≠ []) :
    (∃ c rest, bs = String.utf8EncodeChar c ++ rest ∧
      lossyChars (fuel + 1) bs = c :: lossyChars fuel rest) ∨
    ∃ n, lossyChars (fuel + 1) bs = '\uFFFD' :: lossyChars fuel (bs.drop n) := by
  obtain ⟨b, bs, rfl⟩ := List.exists_cons_of_ne_nil h
  cases hd : decodeChar (b :: bs) with
  | some c =>
    obtain ⟨rest, hrest⟩ := decodeChar_eq_some hd
    refine .inl ⟨c, rest, hrest, ?_⟩
    rw [lossyChars, hd]
    · change c :: lossyChars fuel (List.drop c.utf8Size (b :: bs)) = _
      rw [hrest, ← String.length_utf8EncodeChar, List.drop_left]
    · exact h
  | none =>
    refine .inr ⟨invalidLength (b :: bs), ?_⟩
    rw [lossyChars, hd]
    exact h

theorem mem_lossyChars (h : c ∈ lossyChars fuel bs) :
    c = '\uFFFD' ∨ String.utf8EncodeChar c <:+: bs := by
  induction fuel generalizing bs with
  | zero =>
    cases bs with
    | nil => cases h
    | cons b bs => cases h
  | succ fuel ih =>
    by_cases hbs : bs = []
    · subst hbs
      cases h
    · obtain ⟨d, rest, hrest, heq⟩ | ⟨n, heq⟩ := lossyChars_succ fuel hbs
      · rw [heq, List.mem_cons] at h
        rcases h with rfl | h
        · rw [hrest]
          exact .inr (List.prefix_append _ _).isInfix
        · apply (ih h).imp_right
          intro hin
          rw [hrest]
          exact hin.trans (List.suffix_append _ _).isInfix
      · rw [heq, List.mem_cons] at h
        rcases h with rfl | h
        · exact .inl rfl
        · apply (ih h).imp_right
          intro hin
          exact hin.trans (List.drop_suffix _ _).isInfix

theorem flatMap_lossyChars (hlen : bs.length ≤ fuel) (h : '\uFFFD' ∉ lossyChars fuel bs) :
    (lossyChars fuel bs).flatMap String.utf8EncodeChar = bs := by
  induction fuel generalizing bs with
  | zero =>
    obtain rfl := List.eq_nil_of_length_eq_zero (Nat.le_zero.1 hlen)
    rfl
  | succ fuel ih =>
    by_cases hbs : bs = []
    · subst hbs
      rfl
    · obtain ⟨c, rest, hrest, heq⟩ | ⟨n, heq⟩ := lossyChars_succ fuel hbs
      · have hpos := c.utf8Size_pos
        rw [hrest, List.length_append, String.length_utf8EncodeChar] at hlen
        rw [heq, List.mem_cons, not_or] at h
        rw [heq, List.flatMap_cons, ih (by omega) h.2, hrest]
      · rw [heq, List.mem_cons, not_or] at h
        exact absurd rfl h.1

theorem bytes_fromUtf8Lossy (h : '\uFFFD' ∉ (fromUtf8Lossy bs).toList) :
    bytes (fromUtf8Lossy bs) = bs := by
  rw [fromUtf8Lossy, String.toList_ofList] at h
  rw [fromUtf8Lossy, bytes_eq_flatMap, String.toList_ofList,
    flatMap_lossyChars (Nat.le_refl _) h]

theorem eq_of_mem_encodeChar (hd : String.utf8EncodeChar d = [b])
    (h : b ∈ String.utf8EncodeChar c) : c = d := by
  obtain ⟨before, after, hc⟩ := List.append_of_mem h
  have hstart : String.utf8EncodeChar d ++ [] = [b] := by
    rw [hd]
    rfl
  have hbefore : before = [] := encodeChar_split hc hstart
  subst hbefore
  have hdec := decodeChar_append c []
  rw [List.append_nil, hc, List.nil_append, ← List.singleton_append, ← hd,
    decodeChar_append] at hdec
  exact (Option.some.inj hdec).symm

theorem mem_bytes_iff (hd : String.utf8EncodeChar d = [b]) : b ∈ bytes s ↔ d ∈ s.toList := by
  rw [bytes_eq_flatMap, List.mem_flatMap]
  apply Iff.intro
  · intro h
    obtain ⟨c, hc, hb⟩ := h
    rwa [← eq_of_mem_encodeChar hd hb]
  · intro h
    refine ⟨d, h, ?_⟩
    rw [hd]
    exact List.mem_singleton_self b

theorem bytes_intercalate (sep : String) (parts : List String) :
    bytes (sep.intercalate parts) = (bytes sep).intercalate (parts.map bytes) := by
  induction parts with
  | nil => rfl
  | cons part parts ih =>
    cases parts with
    | nil =>
      rw [String.intercalate_singleton, List.map_singleton, List.intercalate_singleton]
    | cons part' parts =>
      rw [String.intercalate_cons_cons, bytes_append, bytes_append, ih]
      simp only [List.map_cons, List.intercalate_cons_cons]

end Utf8
