import WasmerSectest.HostImports
import WasmerSectest.MemoryBoundary

namespace WasmerSectest
set_option autoImplicit true

def byteSum (bytes : List UInt8) : Nat := (bytes.map UInt8.toNat).sum

/-- The packet format: magic, version, flags, body length and checksum before the body. -/
def encode (flags : UInt16) (body : List UInt8) : List UInt8 :=
  [0x57, 0x53, 0x47, 0x54] ++ LittleEndian.encode 2 1 ++ LittleEndian.encode 2 flags.toNat ++
    LittleEndian.encode 4 body.length ++ LittleEndian.encode 4 (byteSum body % 2 ^ 32) ++ body

/-- The header of the packet with the given flags and body. -/
def packetOf (flags : UInt16) (body : List UInt8) : Packet where
  version := 1
  flags := flags
  bodyLen := UInt32.ofNat body.length
  checksum := UInt32.ofNat (byteSum body)

theorem u16FromLeBytes_eq_some_iff {x : UInt16} :
    u16FromLeBytes bs = some x ↔ bs = LittleEndian.encode 2 x.toNat := by
  have hx : x.toNat < 256 ^ 2 := x.toNat_lt
  rw [u16FromLeBytes]
  by_cases hw : bs.length = 2
  · have hd := LittleEndian.decode_lt bs
    rw [hw] at hd
    rw [if_pos hw, Option.some.injEq, ← LittleEndian.decode_eq_iff hw hx, ← UInt16.toNat_inj,
      UInt16.toNat_ofNat_of_lt' hd]
  · rw [if_neg hw]
    refine ⟨nofun, fun h => absurd ?_ hw⟩
    rw [h, LittleEndian.encode_length]

theorem u32FromLeBytes_eq_some_iff {x : UInt32} :
    u32FromLeBytes bs = some x ↔ bs = LittleEndian.encode 4 x.toNat := by
  have hx : x.toNat < 256 ^ 4 := x.toNat_lt
  rw [u32FromLeBytes]
  by_cases hw : bs.length = 4
  · have hd := LittleEndian.decode_lt bs
    rw [hw] at hd
    rw [if_pos hw, Option.some.injEq, ← LittleEndian.decode_eq_iff hw hx, ← UInt32.toNat_inj,
      UInt32.toNat_ofNat_of_lt' hd]
  · rw [if_neg hw]
    refine ⟨nofun, fun h => absurd ?_ hw⟩
    rw [h, LittleEndian.encode_length]

theorem checksum32_eq (bytes : List UInt8) : checksum32 bytes = UInt32.ofNat (byteSum bytes) := by
  have hfold (acc : UInt32) : bytes.foldl (fun acc byte => acc + byte.toUInt32) acc =
      acc + UInt32.ofNat (byteSum bytes) := by
    induction bytes generalizing acc with
    | nil => exact (UInt32.add_zero acc).symm
    | cons b bytes ih =>
      have hs : byteSum (b :: bytes) = b.toNat + byteSum bytes := List.sum_cons
      rw [List.foldl_cons, ih, hs, UInt32.ofNat_add, UInt32.ofNat_uInt8ToNat,
        ← UInt32.add_assoc]
  rw [checksum32, hfold, UInt32.zero_add]

theorem slice_append_slice (bytes : List UInt8) {a b c : Nat} (hab : a ≤ b) (hbc : b ≤ c) :
    slice bytes a b ++ slice bytes b c = slice bytes a c := by
  rw [slice, slice, slice, ← Nat.sub_add_sub_cancel hbc hab, Nat.add_comm, List.take_add,
    List.drop_drop, Nat.add_sub_cancel' hab]

/-- The five header fields and the body make up a packet. -/
theorem header_fields (bytes : List UInt8) :
    slice bytes 0 4 ++ slice bytes 4 6 ++ slice bytes 6 8 ++ slice bytes 8 12 ++
      slice bytes 12 16 ++ bytes.drop 16 = bytes := by
  rw [slice_append_slice bytes (by decide) (by decide),
    slice_append_slice bytes (by decide) (by decide),
    slice_append_slice bytes (by decide) (by decide),
    slice_append_slice bytes (by decide) (by decide)]
  exact List.take_append_drop 16 bytes

theorem parsePacket_encode (flags : UInt16) (body : List UInt8) (h : body.length < 2 ^ 32) :
    parsePacket (encode flags body) = .ok (packetOf flags body) := by
  have hn : (UInt32.ofNat body.length).toNat = body.length := UInt32.toNat_ofNat_of_lt' h
  have hlen : ¬(encode flags body).length < Abi.packetHeaderLen := by
    rw [encode, List.length_append]
    simp only [List.length_append, LittleEndian.encode_length]
    exact Nat.not_lt.2 (Nat.le_add_right 16 _)
  have hmagic : u32FromLeBytes (slice (encode flags body) 0 4) = some Abi.packetMagic :=
    u32FromLeBytes_eq_some_iff.2 rfl
  have hversion : u16FromLeBytes (slice (encode flags body) 4 6) = some 1 :=
    u16FromLeBytes_eq_some_iff.2 rfl
  have hflags : u16FromLeBytes (slice (encode flags body) 6 8) = some flags :=
    u16FromLeBytes_eq_some_iff.2 rfl
  have hbody : u32FromLeBytes (slice (encode flags body) 8 12) =
      some (UInt32.ofNat body.length) :=
    u32FromLeBytes_eq_some_iff.2 (by rw [hn]; rfl)
  have hsum : u32FromLeBytes (slice (encode flags body) 12 16) =
      some (UInt32.ofNat (byteSum body)) :=
    u32FromLeBytes_eq_some_iff.2 (by rw [UInt32.toNat_ofNat']; rfl)
  have hdrop : (encode flags body).drop Abi.packetHeaderLen = body := rfl
  simp only [parsePacket, if_neg hlen, hmagic, hversion, hflags, hbody, hsum, hdrop, hn,
    checksum32_eq, ne_eq, not_true_eq_false, if_false]
  rfl

/-- What the parser can answer: a header error, or the header of an encoding. -/
inductive PacketCheck (bytes : List UInt8) : Except AbiError Packet → Prop where
  | rejected (hc : err.code = Abi.errHeader) : PacketCheck bytes (.error err)
  | accepted (hl : body.length < 2 ^ 32) (he : bytes = encode flags body) :
    PacketCheck bytes (.ok (packetOf flags body))

theorem slice_length (h : b ≤ bytes.length) (a : Nat) : (slice bytes a b).length = b - a := by
  rw [slice, List.length_take, List.length_drop]
  omega

theorem u16FromLeBytes_of_length (h : bs.length = 2) :
    u16FromLeBytes bs = some (UInt16.ofNat (LittleEndian.decode bs)) := if_pos h

theorem u32FromLeBytes_of_length (h : bs.length = 4) :
    u32FromLeBytes bs = some (UInt32.ofNat (LittleEndian.decode bs)) := if_pos h

/-- The fixed fields and the body length are those of a packet. -/
structure HeaderFits (bytes : List UInt8) : Prop where
  long : 16 ≤ bytes.length
  magic : slice bytes 0 4 = [0x57, 0x53, 0x47, 0x54]
  version : slice bytes 4 6 = [1, 0]
  body_len : LittleEndian.decode (slice bytes 8 12) = (bytes.drop 16).length

def SumFits (bytes : List UInt8) : Prop :=
  LittleEndian.decode (slice bytes 12 16) = byteSum (bytes.drop 16) % 2 ^ 32

instance (bytes : List UInt8) : Decidable (HeaderFits bytes) :=
  decidable_of_iff (16 ≤ bytes.length ∧ slice bytes 0 4 = [0x57, 0x53, 0x47, 0x54] ∧
      slice bytes 4 6 = [1, 0] ∧
      LittleEndian.decode (slice bytes 8 12) = (bytes.drop 16).length)
    ⟨fun h => ⟨h.1, h.2.1, h.2.2.1, h.2.2.2⟩, fun h => ⟨h.long, h.magic, h.version, h.body_len⟩⟩

instance (bytes : List UInt8) : Decidable (SumFits bytes) :=
  inferInstanceAs (Decidable (_ = _))

/-- What the header of a packet says, field by field. -/
def headerOf (bytes : List UInt8) : Packet where
  version := 1
  flags := UInt16.ofNat (LittleEndian.decode (slice bytes 6 8))
  bodyLen := UInt32.ofNat (LittleEndian.decode (slice bytes 8 12))
  checksum := UInt32.ofNat (LittleEndian.decode (slice bytes 12 16))

/-- Everything the parser can answer, with the reason for it. -/
inductive PacketVerdict (bytes : List UInt8) : Except AbiError Packet → Prop where
  | header (h : ¬HeaderFits bytes) (hc : err.code = Abi.errHeader) :
    PacketVerdict bytes (.error err)
  | checksum (h : HeaderFits bytes) (hs : ¬SumFits bytes) (expected actual : UInt32) :
    PacketVerdict bytes (.error (.badChecksum expected actual))
  | accepted (h : HeaderFits bytes) (hs : SumFits bytes) :
    PacketVerdict bytes (.ok (headerOf bytes))

theorem decode_slice_lt (h : b - a ≤ 4) : LittleEndian.decode (slice bytes a b) < 2 ^ 32 := by
  have hlen : (slice bytes a b).length ≤ 4 := Nat.le_trans (List.length_take_le _ _) h
  exact Nat.lt_of_lt_of_le (LittleEndian.decode_lt _) (Nat.pow_le_pow_right (by decide) hlen)

theorem magic_iff (h : bs.length = 4) :
    UInt32.ofNat (LittleEndian.decode bs) = Abi.packetMagic ↔ bs = [0x57, 0x53, 0x47, 0x54] := by
  rw [← Option.some_inj, ← u32FromLeBytes_of_length h, u32FromLeBytes_eq_some_iff]
  rfl

theorem version_iff (h : bs.length = 2) :
    UInt16.ofNat (LittleEndian.decode bs) = 1 ↔ bs = [1, 0] := by
  rw [← Option.some_inj, ← u16FromLeBytes_of_length h, u16FromLeBytes_eq_some_iff]
  rfl

theorem sum_iff {bytes : List UInt8} :
    UInt32.ofNat (LittleEndian.decode (slice bytes 12 16)) = checksum32 (bytes.drop 16) ↔
      SumFits bytes := by
  rw [checksum32_eq, ← UInt32.toNat_inj, UInt32.toNat_ofNat_of_lt' (decode_slice_lt (by decide)),
    UInt32.toNat_ofNat']
  rfl

theorem parsePacket_verdict (bytes : List UInt8) : PacketVerdict bytes (parsePacket bytes) := by
  unfold parsePacket
  by_cases hlen : bytes.length < Abi.packetHeaderLen
  case pos =>
    rw [if_pos hlen]
    exact .header (fun h => absurd h.long (Nat.not_le.2 hlen)) rfl
  have h16 : 16 ≤ bytes.length := Nat.not_lt.1 hlen
  have hfield {b : Nat} (hb : b ≤ 16) (a : Nat) : (slice bytes a b).length = b - a :=
    slice_length (Nat.le_trans hb h16) a
  have hmagic := u32FromLeBytes_of_length (hfield (b := 4) (by decide) 0)
  have hversion := u16FromLeBytes_of_length (hfield (b := 6) (by decide) 4)
  have hflags := u16FromLeBytes_of_length (hfield (b := 8) (by decide) 6)
  have hbody := u32FromLeBytes_of_length (hfield (b := 12) (by decide) 8)
  have hsum := u32FromLeBytes_of_length (hfield (b := 16) (by decide) 12)
  rw [if_neg hlen]
  simp only [hmagic, hversion, hflags, hbody, hsum]
  by_cases hm : UInt32.ofNat (LittleEndian.decode (slice bytes 0 4)) = Abi.packetMagic
  case neg =>
    rw [if_pos hm]
    exact .header (fun h => hm ((magic_iff (hfield (by decide) 0)).2 h.magic)) rfl
  rw [if_neg (not_not_intro hm)]
  by_cases hv : UInt16.ofNat (LittleEndian.decode (slice bytes 4 6)) = 1
  case neg =>
    rw [if_pos hv]
    exact .header (fun h => hv ((version_iff (hfield (by decide) 4)).2 h.version)) rfl
  rw [if_neg (not_not_intro hv)]
  have hlow : LittleEndian.decode (slice bytes 8 12) < 2 ^ 32 := decode_slice_lt (by decide)
  have hbodyLen := UInt32.toNat_ofNat_of_lt' hlow
  by_cases hb : (bytes.drop Abi.packetHeaderLen).length =
      (UInt32.ofNat (LittleEndian.decode (slice bytes 8 12))).toNat
  case neg =>
    rw [if_pos hb]
    exact .header (fun h => hb (hbodyLen.trans h.body_len).symm) rfl
  rw [if_neg (not_not_intro hb)]
  have hheader : HeaderFits bytes :=
    ⟨h16, (magic_iff (hfield (by decide) 0)).1 hm, (version_iff (hfield (by decide) 4)).1 hv,
      hbodyLen.symm.trans hb.symm⟩
  by_cases hs : UInt32.ofNat (LittleEndian.decode (slice bytes 12 16)) =
      checksum32 (bytes.drop Abi.packetHeaderLen)
  case neg =>
    rw [if_pos hs]
    exact .checksum hheader (fun h => hs (sum_iff.2 h)) _ _
  rw [if_neg (not_not_intro hs), hv]
  exact .accepted hheader (sum_iff.1 hs)

theorem encode_of_fits (h : HeaderFits bytes) (hs : SumFits bytes) :
    (bytes.drop 16).length < 2 ^ 32 ∧ bytes = encode (headerOf bytes).flags (bytes.drop 16) ∧
      headerOf bytes = packetOf (headerOf bytes).flags (bytes.drop 16) := by
  have hflags : slice bytes 6 8 = LittleEndian.encode 2 (headerOf bytes).flags.toNat := by
    rw [← u16FromLeBytes_eq_some_iff]
    exact u16FromLeBytes_of_length (slice_length (Nat.le_trans (by decide) h.long) 6)
  have hlen : slice bytes 8 12 = LittleEndian.encode 4 (bytes.drop 16).length := by
    have hlt : (bytes.drop 16).length < 256 ^ 4 := h.body_len ▸ decode_slice_lt (by decide)
    exact (LittleEndian.decode_eq_iff (slice_length (Nat.le_trans (by decide) h.long) 8)
      hlt).1 h.body_len
  have hsum : slice bytes 12 16 =
      LittleEndian.encode 4 (byteSum (bytes.drop 16) % 2 ^ 32) := by
    have hlt : byteSum (bytes.drop 16) % 2 ^ 32 < 256 ^ 4 := Nat.mod_lt _ (by decide)
    exact (LittleEndian.decode_eq_iff (slice_length h.long 12) hlt).1 hs
  refine ⟨h.body_len ▸ decode_slice_lt (by decide), ?_, ?_⟩
  · conv_lhs => rw [← header_fields bytes, h.magic, h.version, hflags, hlen, hsum]
    rfl
  · have hchecksum : UInt32.ofNat (LittleEndian.decode (slice bytes 12 16)) =
        UInt32.ofNat (byteSum (bytes.drop 16)) := by
      rw [← checksum32_eq]
      exact sum_iff.2 hs
    rw [headerOf, packetOf, hchecksum, h.body_len]

theorem parsePacket_check (bytes : List UInt8) : PacketCheck bytes (parsePacket bytes) := by
  have hverdict := parsePacket_verdict bytes
  generalize parsePacket bytes = answer at hverdict
  cases hverdict with
  | header _ hc => exact .rejected hc
  | checksum => exact .rejected rfl
  | accepted h hs =>
    obtain ⟨hlen, hbytes, hheader⟩ := encode_of_fits h hs
    rw [hheader]
    exact .accepted hlen hbytes

/-- Exactly the encodings are packets, and their header is recovered. -/
theorem parsePacket_ok_iff (bytes : List UInt8) (p : Packet) :
    parsePacket bytes = .ok p ↔ ∃ flags body, body.length < 2 ^ 32 ∧
      bytes = encode flags body ∧ p = packetOf flags body := by
  apply Iff.intro
  · intro h
    have hc := parsePacket_check bytes
    rw [h] at hc
    cases hc with
    | accepted hl he => exact ⟨_, _, hl, he, rfl⟩
  · intro ⟨flags, body, hl, he, hp⟩
    rw [he, hp]
    exact parsePacket_encode flags body hl

end WasmerSectest
