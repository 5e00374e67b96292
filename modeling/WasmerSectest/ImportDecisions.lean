import WasmerSectest.PacketFormat

namespace WasmerSectest
set_option autoImplicit true

/-- The ranges an import accepts in a memory, as its callers would state them. -/
structure Accepted (view : LinearMemory) (ptr len align maxLen : UInt32) : Prop where
  align_supported : SupportedAlign align
  align_dvd : align.toNat ∣ ptr.toNat
  len_le : len.toNat ≤ maxLen.toNat
  fits : ptr.toNat + len.toNat ≤ min (2 ^ 32 - 1) view.bytes.length

theorem accepted_iff_validRange {view : LinearMemory} :
    Accepted view ptr len align maxLen ↔
      ValidRange ptr len align maxLen view.bytes.length := by
  apply Iff.intro
  · intro h
    have hf := h.fits
    exact ⟨h.align_supported, h.len_le, h.align_dvd, by omega, by omega⟩
  · intro h
    have hw := h.no_wrap
    have hb := h.in_bounds
    exact ⟨h.align_supported, h.align_dvd, h.len_le, by omega⟩

section
variable [HostArch] (memory : Option Memory) (store : Store) (ptr len align maxLen : UInt32)

theorem rangeOutcome_spec (read : GuestBytes → Outcome) :
    (∃ m, memory = some m ∧ Accepted (m.view store) ptr len align maxLen ∧
      rangeOutcome (withGuestBytes memory store ptr len align maxLen read) =
        read ((m.view store).lend ptr len "memory.read")) ∨
    (¬∃ m, memory = some m ∧ Accepted (m.view store) ptr len align maxLen) ∧
      (rangeOutcome (withGuestBytes memory store ptr len align maxLen read)).1 ∈
        [Abi.errInternal, Abi.errAlign, Abi.errTooLarge, Abi.errBounds] := by
  cases memory with
  | none => exact .inr ⟨nofun, .head _⟩
  | some m =>
    by_cases h : Accepted (m.view store) ptr len align maxLen
    · refine .inl ⟨m, rfl, h, ?_⟩
      rw [withGuestBytes_valid (accepted_iff_validRange.1 h)]
      rfl
    · have hv := mt accepted_iff_validRange.2 h
      obtain ⟨err, hc, he⟩ := validateRange_refused ((m.view store).toNat_dataSize ▸ hv)
      refine .inr ⟨fun ⟨m', hm, ha⟩ => h (Option.some.inj hm ▸ ha), ?_⟩
      rw [withGuestBytes_refused he]
      change err.code ∈ _
      rcases hc.code with hc | hc | hc <;> rw [hc] <;> decide

theorem rangeOutcome_code_iff (read : GuestBytes → Outcome) (code : Int32)
    (hcode : code ∉ [Abi.errInternal, Abi.errAlign, Abi.errTooLarge, Abi.errBounds]) :
    (rangeOutcome (withGuestBytes memory store ptr len align maxLen read)).1 = code ↔
      ∃ m, memory = some m ∧ Accepted (m.view store) ptr len align maxLen ∧
        (read ((m.view store).lend ptr len "memory.read")).1 = code := by
  rcases rangeOutcome_spec memory store ptr len align maxLen read with
    ⟨m, hm, ha, he⟩ | ⟨hr, hc⟩
  · rw [he]
    apply Iff.intro
    · intro h
      exact ⟨m, hm, ha, h⟩
    · rintro ⟨m', hm', -, h⟩
      obtain rfl := Option.some.inj (hm.symm.trans hm')
      exact h
  · apply iff_of_false
    · intro h
      exact hcode (h ▸ hc)
    · rintro ⟨m, hm, ha, -⟩
      exact hr ⟨m, hm, ha⟩

end

theorem validatePacketFromGuest_ok_iff (guest : GuestBytes) :
    (validatePacketFromGuest guest).1 = Abi.ok ↔
      ∃ flags body, body.length < 2 ^ 32 ∧ guest.bytes = encode flags body := by
  have hc := parsePacket_check guest.bytes
  have hiff := parsePacket_ok_iff guest.bytes
  rw [validatePacketFromGuest]
  generalize parsePacket guest.bytes = answer at hc hiff
  cases hc with
  | @rejected err hcode =>
    apply iff_of_false
    · intro h
      have h' : err.code = Abi.ok := h
      exact absurd (hcode.symm.trans h') (by decide)
    · rintro ⟨flags, body, hl, he⟩
      exact nomatch (hiff (packetOf flags body)).2 ⟨flags, body, hl, he, rfl⟩
  | accepted hl he => exact ⟨fun _ => ⟨_, _, hl, he⟩, fun _ => rfl⟩

theorem eq_packetOf_iff (p : Packet) (hl : body.length < 2 ^ 32) :
    p = packetOf flags body ↔ p.version = 1 ∧ p.flags = flags ∧
      p.bodyLen.toNat = body.length ∧ p.checksum.toNat = byteSum body % 2 ^ 32 := by
  have hb : (UInt32.ofNat body.length).toNat = body.length := UInt32.toNat_ofNat_of_lt' hl
  have hs : (UInt32.ofNat (byteSum body)).toNat = byteSum body % 2 ^ 32 := UInt32.toNat_ofNat'
  obtain ⟨version, pflags, bodyLen, checksum⟩ := p
  rw [packetOf, Packet.mk.injEq, ← UInt32.toNat_inj, ← UInt32.toNat_inj, hb, hs]

/-- The packet import accepts exactly the packet format. -/
theorem packet_import_exact [HostArch] :
    (∀ bytes p, parsePacket bytes = .ok p ↔ ∃ flags body, body.length < 2 ^ 32 ∧
      bytes = encode flags body ∧ p.version = 1 ∧ p.flags = flags ∧
      p.bodyLen.toNat = body.length ∧ p.checksum.toNat = byteSum body % 2 ^ 32) ∧
    (∀ flags body, body.length < 2 ^ 32 →
      parsePacket (encode flags body) = .ok (packetOf flags body)) ∧
    ∀ (state : HostState) (store : Store) (ptr len align : UInt32) (elapsedUs : U128),
      (hostAcceptPacket state store ptr len align elapsedUs).1 = Abi.ok ↔
        ∃ m, state.memory = some m ∧
          Accepted (m.view store) ptr len align state.policy.maxPacketLen ∧
          ∃ flags body, body.length < 2 ^ 32 ∧
            (m.view store).range ptr len = encode flags body := by
  refine ⟨fun bytes p => ?_, parsePacket_encode, fun state store ptr len align elapsedUs => ?_⟩
  · rw [parsePacket_ok_iff]
    refine exists_congr fun flags => exists_congr fun body => and_congr_right fun hl => ?_
    rw [eq_packetOf_iff p hl]
  · have h := rangeOutcome_code_iff state.memory store ptr len align state.policy.maxPacketLen
      validatePacketFromGuest Abi.ok (by decide)
    simp only [validatePacketFromGuest_ok_iff] at h
    exact h

/-- What the check of a capability string can answer, each code with what led to it. -/
inductive CapabilityCheck (policy : Policy) (bytes : List UInt8) : Int32 → Prop where
  | granted (path : String) (he : bytes = Utf8.bytes path) (hp : path ∈ policy.allowedPaths) :
    CapabilityCheck policy bytes Abi.ok
  | denied (path : String) (he : bytes = Utf8.bytes path) (hp : path ∉ policy.allowedPaths) :
    CapabilityCheck policy bytes Abi.errCapability
  | notUtf8 (hn : ∀ path, bytes ≠ Utf8.bytes path) : CapabilityCheck policy bytes Abi.errUtf8

theorem validateCapabilityFromGuest_check (policy : Policy) (guest : GuestBytes) :
    CapabilityCheck policy guest.bytes (validateCapabilityFromGuest policy guest).1 := by
  rw [validateCapabilityFromGuest]
  cases hd : Utf8.fromUtf8 guest.bytes with
  | none => exact .notUtf8 (Utf8.fromUtf8_eq_none_iff.1 hd)
  | some path =>
    have he := Utf8.fromUtf8_eq_some_iff.1 hd
    by_cases hp : policy.isPathAllowed path = true
    · simp only [hp, if_true]
      exact .granted path he ((policy.isPathAllowed_iff path).1 hp)
    · simp only [hp]
      exact .denied path he (mt (policy.isPathAllowed_iff path).2 hp)

section
variable {policy : Policy} {bytes : List UInt8} {code : Int32}

theorem CapabilityCheck.ok_iff (h : CapabilityCheck policy bytes code) :
    code = Abi.ok ↔ ∃ path ∈ policy.allowedPaths, bytes = Utf8.bytes path := by
  cases h with
  | granted path he hp => exact ⟨fun _ => ⟨path, hp, he⟩, fun _ => rfl⟩
  | denied path he hp =>
    apply iff_of_false (by decide)
    rintro ⟨path', hp', he'⟩
    exact hp (Utf8.bytes_injective (he.symm.trans he') ▸ hp')
  | notUtf8 hn =>
    apply iff_of_false (by decide)
    rintro ⟨path, -, he⟩
    exact hn path he

theorem CapabilityCheck.denied_iff (h : CapabilityCheck policy bytes code) :
    code = Abi.errCapability ↔
      ∃ path, path ∉ policy.allowedPaths ∧ bytes = Utf8.bytes path := by
  cases h with
  | granted path he hp =>
    apply iff_of_false (by decide)
    rintro ⟨path', hp', he'⟩
    exact hp' (Utf8.bytes_injective (he.symm.trans he') ▸ hp)
  | denied path he hp => exact ⟨fun _ => ⟨path, hp, he⟩, fun _ => rfl⟩
  | notUtf8 hn =>
    apply iff_of_false (by decide)
    rintro ⟨path, -, he⟩
    exact hn path he

theorem CapabilityCheck.utf8_iff (h : CapabilityCheck policy bytes code) :
    code = Abi.errUtf8 ↔ ∀ path, bytes ≠ Utf8.bytes path := by
  cases h with
  | granted path he hp => exact iff_of_false (by decide) fun hn => hn path he
  | denied path he hp => exact iff_of_false (by decide) fun hn => hn path he
  | notUtf8 hn => exact iff_of_true rfl hn

end

/-- The capability import allows exactly the UTF-8 encodings of the allowed paths. -/
theorem capability_import_exact [HostArch] (state : HostState) (store : Store)
    (ptr len : UInt32) (elapsedUs : U128) :
    let code := (hostReadCap state store ptr len elapsedUs).1
    let granted (m : Memory) (judge : List UInt8 → Prop) := state.memory = some m ∧
      len.toNat ≤ state.policy.maxCapStringLen.toNat ∧
      ptr.toNat + len.toNat ≤ min (2 ^ 32 - 1) (m.view store).bytes.length ∧
      judge ((m.view store).range ptr len)
    (code = Abi.ok ↔ ∃ m, granted m fun bytes =>
      ∃ path ∈ state.policy.allowedPaths, bytes = Utf8.bytes path) ∧
    (code = Abi.errUtf8 ↔ ∃ m, granted m fun bytes => ∀ path, bytes ≠ Utf8.bytes path) ∧
    (code = Abi.errCapability ↔ ∃ m, granted m fun bytes =>
      ∃ path, path ∉ state.policy.allowedPaths ∧ bytes = Utf8.bytes path) ∧
    ∀ m path, code = Abi.ok → state.memory = some m →
      (m.view store).range ptr len = Utf8.bytes path → path ∈ state.policy.allowedPaths := by
  have haccept (m : Memory) : Accepted (m.view store) ptr len 1 state.policy.maxCapStringLen ↔
      len.toNat ≤ state.policy.maxCapStringLen.toNat ∧
        ptr.toNat + len.toNat ≤ min (2 ^ 32 - 1) (m.view store).bytes.length :=
    ⟨fun h => ⟨h.len_le, h.fits⟩, fun ⟨hl, hf⟩ => ⟨.inl rfl, Nat.one_dvd _, hl, hf⟩⟩
  have hcode (code : Int32)
      (h : code ∉ [Abi.errInternal, Abi.errAlign, Abi.errTooLarge, Abi.errBounds]) :=
    rangeOutcome_code_iff state.memory store ptr len 1 state.policy.maxCapStringLen
      (validateCapabilityFromGuest state.policy) code h
  have hok := hcode Abi.ok (by decide)
  have hutf8 := hcode Abi.errUtf8 (by decide)
  have hdenied := hcode Abi.errCapability (by decide)
  simp only [haccept, (validateCapabilityFromGuest_check _ _).ok_iff,
    (validateCapabilityFromGuest_check _ _).utf8_iff,
    (validateCapabilityFromGuest_check _ _).denied_iff, and_assoc] at hok hutf8 hdenied
  refine ⟨hok, hutf8, hdenied, ?_⟩
  intro m path h hm he
  obtain ⟨m', hm', -, -, path', hp', he'⟩ := hok.1 h
  obtain rfl := Option.some.inj (hm.symm.trans hm')
  exact Utf8.bytes_injective (he'.symm.trans he) ▸ hp'

end WasmerSectest
