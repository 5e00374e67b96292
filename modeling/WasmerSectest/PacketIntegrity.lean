import WasmerSectest.PacketFormat

namespace WasmerSectest
set_option autoImplicit true

def Rejected (bytes : List UInt8) : Prop := ∃ err, parsePacket bytes = .error err

theorem parsePacket_fits (h : HeaderFits bytes) (hs : SumFits bytes) :
    parsePacket bytes = .ok (headerOf bytes) := by
  have hverdict := parsePacket_verdict bytes
  generalize parsePacket bytes = answer at hverdict
  cases hverdict with
  | header hn _ => exact absurd h hn
  | checksum _ hn _ _ => exact absurd hs hn
  | accepted _ _ => rfl

theorem fits_of_ok (h : parsePacket bytes = .ok p) :
    HeaderFits bytes ∧ SumFits bytes ∧ p = headerOf bytes := by
  have hverdict := parsePacket_verdict bytes
  rw [h] at hverdict
  cases hverdict with
  | accepted hheader hs => exact ⟨hheader, hs, rfl⟩

theorem rejected_of_misfit (h : HeaderFits bytes → ¬SumFits bytes) : Rejected bytes := by
  cases hparsed : parsePacket bytes with
  | error err => exact ⟨err, hparsed⟩
  | ok p =>
    obtain ⟨hheader, hs, -⟩ := fits_of_ok hparsed
    exact absurd hs (h hheader)

section
variable {bytes : List UInt8} {i : Nat} {v : UInt8}

theorem slice_set_before (h : i < a) (b : Nat) : slice (bytes.set i v) a b = slice bytes a b := by
  rw [slice, slice, List.drop_set, if_pos h]

theorem slice_set_after (h : b ≤ i) (a : Nat) : slice (bytes.set i v) a b = slice bytes a b := by
  rw [slice, slice, List.drop_set]
  split
  · rfl
  · rw [List.take_set, List.set_eq_of_length_le]
    exact Nat.le_trans (List.length_take_le _ _) (Nat.sub_le_sub_right h a)

theorem body_set_before (h : i < 16) : (bytes.set i v).drop 16 = bytes.drop 16 := by
  rw [List.drop_set, if_pos h]

theorem slice_set_ne (ha : a ≤ i) (hb : i < b) (hi : i < bytes.length) (hne : bytes[i] ≠ v) :
    slice (bytes.set i v) a b ≠ slice bytes a b := by
  intro heq
  have hget := congrArg (fun l => l[i - a]?) heq
  have hlt : i - a < b - a := Nat.sub_lt_sub_right ha hb
  simp only [slice, List.getElem?_take_of_lt hlt, List.getElem?_drop, Nat.add_sub_cancel' ha,
    List.getElem?_set_self hi, List.getElem?_eq_getElem hi, Option.some_inj] at hget
  exact hne hget.symm

theorem byteSum_set (hi : i < bytes.length) :
    byteSum (bytes.set i v) + bytes[i].toNat = byteSum bytes + v.toNat := by
  induction bytes generalizing i with
  | nil => cases hi
  | cons b bytes ih =>
    cases i with
    | zero =>
      simp only [byteSum, List.set_cons_zero, List.map_cons, List.sum_cons,
        List.getElem_cons_zero]
      omega
    | succ i =>
      have hrest := ih (Nat.lt_of_succ_lt_succ hi)
      simp only [byteSum, List.set_cons_succ, List.map_cons, List.sum_cons,
        List.getElem_cons_succ] at hrest ⊢
      omega

theorem byteSum_set_ne (hi : i < bytes.length) (hne : bytes[i] ≠ v) :
    byteSum (bytes.set i v) % 2 ^ 32 ≠ byteSum bytes % 2 ^ 32 := by
  have hsum := byteSum_set (v := v) hi
  have hold := bytes[i].toNat_lt
  have hnew := v.toNat_lt
  have hdiff : bytes[i].toNat ≠ v.toNat := fun h => hne (UInt8.toNat_inj.1 h)
  omega

theorem decode_slice_ne {bytes' : List UInt8} (hlen : bytes.length = bytes'.length)
    (h : slice bytes a b ≠ slice bytes' a b) :
    LittleEndian.decode (slice bytes a b) ≠ LittleEndian.decode (slice bytes' a b) := by
  intro heq
  have hwidth : (slice bytes a b).length = (slice bytes' a b).length := by
    simp only [slice, List.length_take, List.length_drop, hlen]
  apply h
  rw [← LittleEndian.encode_decode (slice bytes a b), heq, hwidth, LittleEndian.encode_decode]

theorem header_set (h : HeaderFits bytes) (hi : 6 ≤ i ∧ i < 8 ∨ 12 ≤ i) :
    HeaderFits (bytes.set i v) := by
  have hsix : 6 ≤ i := by omega
  have hslice : slice (bytes.set i v) 8 12 = slice bytes 8 12 := by
    rcases hi with hi | hi
    · exact slice_set_before hi.2 12
    · exact slice_set_after hi 8
  apply HeaderFits.mk
  · rw [List.length_set]
    exact h.long
  · rw [slice_set_after (Nat.le_trans (by decide) hsix)]
    exact h.magic
  · rw [slice_set_after hsix]
    exact h.version
  · rw [hslice, h.body_len, List.length_drop, List.length_drop, List.length_set]

theorem flags_set (h : HeaderFits bytes) (hs : SumFits bytes) (hlow : 6 ≤ i) (hhigh : i < 8)
    (hi : i < bytes.length) (hne : bytes[i] ≠ v) :
    ∃ flags, flags ≠ (headerOf bytes).flags ∧
      parsePacket (bytes.set i v) = .ok { headerOf bytes with flags } := by
  have hheader := header_set (v := v) h (.inl ⟨hlow, hhigh⟩)
  have hlen : slice (bytes.set i v) 8 12 = slice bytes 8 12 := slice_set_before hhigh 12
  have htwelve : i < 12 := Nat.lt_trans hhigh (by decide)
  have hsum : slice (bytes.set i v) 12 16 = slice bytes 12 16 := slice_set_before htwelve 16
  have hsfits : SumFits (bytes.set i v) := by
    rw [SumFits, hsum, body_set_before (Nat.lt_trans hhigh (by decide))]
    exact hs
  refine ⟨(headerOf (bytes.set i v)).flags, ?_, ?_⟩
  · intro hflags
    have hdecode := congrArg UInt16.toNat hflags
    have hlt {bs : List UInt8} (hl : 16 ≤ bs.length) :
        LittleEndian.decode (slice bs 6 8) < 2 ^ 16 := by
      have hbound := LittleEndian.decode_lt (slice bs 6 8)
      rwa [slice_length (Nat.le_trans (by decide) hl) 6] at hbound
    simp only [headerOf] at hdecode
    rw [UInt16.toNat_ofNat_of_lt' (hlt hheader.long),
      UInt16.toNat_ofNat_of_lt' (hlt h.long)] at hdecode
    exact decode_slice_ne List.length_set (slice_set_ne hlow hhigh hi hne) hdecode
  · rw [parsePacket_fits hheader hsfits]
    simp only [headerOf, hlen, hsum]

theorem rejected_set (h : HeaderFits bytes) (hs : SumFits bytes) (hi : i < bytes.length)
    (hne : bytes[i] ≠ v) (hflags : ¬(i = 6 ∨ i = 7)) : Rejected (bytes.set i v) := by
  have hcases : i < 4 ∨ (4 ≤ i ∧ i < 6) ∨ (8 ≤ i ∧ i < 12) ∨ (12 ≤ i ∧ i < 16) ∨ 16 ≤ i := by
    omega
  apply rejected_of_misfit
  intro hheader hsfits
  rcases hcases with hmagic | hversion | hlen | hsum | hbody
  · exact slice_set_ne (Nat.zero_le i) hmagic hi hne (hheader.magic.trans h.magic.symm)
  · exact slice_set_ne hversion.1 hversion.2 hi hne (hheader.version.trans h.version.symm)
  · apply decode_slice_ne List.length_set (slice_set_ne hlen.1 hlen.2 hi hne)
    rw [hheader.body_len, h.body_len, List.length_drop, List.length_drop, List.length_set]
  · apply decode_slice_ne List.length_set (slice_set_ne hsum.1 hsum.2 hi hne)
    rw [SumFits, body_set_before hsum.2] at hsfits
    exact hsfits.trans hs.symm
  · have hdrop : (bytes.set i v).drop 16 = (bytes.drop 16).set (i - 16) v := by
      rw [List.drop_set, if_neg (Nat.not_lt.2 hbody)]
    have hlt : i - 16 < (bytes.drop 16).length := by
      rw [List.length_drop]
      omega
    have hget : (bytes.drop 16)[i - 16] ≠ v := by
      rw [List.getElem_drop]
      simp only [Nat.add_sub_cancel' hbody]
      exact hne
    apply byteSum_set_ne hlt hget
    rw [SumFits, slice_set_after hbody, hdrop] at hsfits
    exact hsfits.symm.trans hs

end

theorem length_of_fits {bytes bytes' : List UInt8} (h : HeaderFits bytes)
    (h' : HeaderFits bytes') (hpre : bytes <+: bytes') : bytes = bytes' := by
  obtain ⟨rest, rfl⟩ := hpre
  have hslice : slice (bytes ++ rest) 8 12 = slice bytes 8 12 := by
    have hlong := h.long
    rw [slice, slice, List.drop_append_of_le_length (by omega),
      List.take_append_of_le_length (by rw [List.length_drop]; omega)]
  have hlen := h'.body_len
  rw [hslice, h.body_len, List.length_drop, List.length_drop, List.length_append] at hlen
  have hlong := h.long
  have hnil : rest = [] := List.length_eq_zero_iff.1 (by omega)
  rw [hnil, List.append_nil]

/-- A packet survives no change of one byte outside its flags, no cut and no extension. -/
theorem packet_corruption_detected (bytes : List UInt8) (p : Packet)
    (h : parsePacket bytes = .ok p) :
    (∀ (i : Nat) (hi : i < bytes.length) (v : UInt8), bytes[i] ≠ v →
      if i = 6 ∨ i = 7 then
        ∃ flags, flags ≠ p.flags ∧ parsePacket (bytes.set i v) = .ok { p with flags }
      else Rejected (bytes.set i v)) ∧
    (∀ cut, cut <+: bytes → cut ≠ bytes → Rejected cut) ∧
    ∀ longer, bytes <+: longer → longer ≠ bytes → Rejected longer := by
  obtain ⟨hheader, hs, rfl⟩ := fits_of_ok h
  refine ⟨?_, ?_, ?_⟩
  · intro i hi v hne
    split
    · next hflags => exact flags_set hheader hs (by omega) (by omega) hi hne
    · next hflags => exact rejected_set hheader hs hi hne hflags
  · intro cut hpre hne
    apply rejected_of_misfit
    intro hcut
    exact absurd (length_of_fits hcut hheader hpre) hne
  · intro longer hpre hne
    apply rejected_of_misfit
    intro hlonger
    exact absurd (length_of_fits hheader hlonger hpre).symm hne

def helloPacket : List UInt8 := encode 2 [0x48, 0x45, 0x4c, 0x4c, 0x4f]

theorem hello_corruption_detected :
    Rejected (helloPacket.set 20 0x21) ∧ Rejected (helloPacket.take 20) ∧
      Rejected (helloPacket ++ [0]) := by
  obtain ⟨hset, hcut, hlonger⟩ := packet_corruption_detected helloPacket _
    (parsePacket_encode 2 [0x48, 0x45, 0x4c, 0x4c, 0x4f] (by decide))
  refine ⟨?_, ?_, ?_⟩
  · exact hset 20 (by decide) 0x21 (by decide)
  · exact hcut _ (List.take_prefix _ _) (by decide)
  · exact hlonger _ (List.prefix_append _ _) (by decide)

end WasmerSectest
