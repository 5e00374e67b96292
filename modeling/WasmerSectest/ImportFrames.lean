import WasmerSectest.ImportDecisions

namespace WasmerSectest
set_option autoImplicit true

/-- The ranges the marker may be written to, in natural numbers. -/
structure MarkerRange (view : LinearMemory) (ptr len align : UInt32) : Prop where
  len_eq : len.toNat = 4
  align_supported : SupportedAlign align
  align_dvd : align.toNat ∣ ptr.toNat
  fits : ptr.toNat + 4 ≤ min (2 ^ 32 - 1) view.bytes.length

/-- One memory holds the marker at an address; nothing else in the store differs. -/
structure MarkerWritten (store store' : Store) (memory : Memory) (ptr : UInt32) : Prop where
  bytes_eq : (memory.view store').bytes =
    (memory.view store).bytes.take ptr.toNat ++ hostWriteMarkerBytes ++
      (memory.view store).bytes.drop (ptr.toNat + 4)
  other : ∀ memory', memory' ≠ memory → memory'.view store' = memory'.view store

/-- What an import call may do to the guest's memory, given the code it returns. -/
def GuestCall.Touches (call : GuestCall) (state : HostState) (store : Store) (code : Int32)
    (store' : Store) : Prop :=
  match call with
  | .writeMarker ptr len align =>
    (code = Abi.ok ↔
      ∃ m, state.memory = some m ∧ MarkerRange (m.view store) ptr len align) ∧
    (code = Abi.ok → ∃ m, state.memory = some m ∧
      MarkerRange (m.view store) ptr len align ∧ MarkerWritten store store' m ptr) ∧
    (code ≠ Abi.ok → store' = store)
  | .acceptPacket .. | .readCap .. | .allocCap _ | .tick => store' = store

section
variable {store : Store} {memory : Memory} {view : LinearMemory} {ptr len align : UInt32}

theorem markerRange_iff : MarkerRange view ptr len align ↔
    ValidRange ptr len align 4 view.bytes.length ∧ len.toNat = 4 := by
  apply Iff.intro
  · intro h
    have hlen := h.len_eq
    have hfits := h.fits
    exact ⟨⟨h.align_supported, Nat.le_of_eq hlen, h.align_dvd, by omega, by omega⟩, hlen⟩
  · intro ⟨h, hlen⟩
    have hwrap := h.no_wrap
    have hbounds := h.in_bounds
    exact ⟨hlen, h.align_supported, h.align_dvd, by omega⟩

theorem LinearMemory.eq_of_bytes {view' : LinearMemory} (h : view.bytes = view'.bytes) :
    view = view' := by
  cases view
  cases view'
  cases h
  rfl

theorem LinearMemory.write_range (hfits : ptr.toNat + len.toNat ≤ view.bytes.length)
    (hwrite : ptr.toNat + (view.range ptr len).length ≤ view.bytes.length) :
    view.write ptr.toNat (view.range ptr len) hwrite = view := by
  apply eq_of_bytes
  change view.bytes.take ptr.toNat ++ view.range ptr len ++
    view.bytes.drop (ptr.toNat + (view.range ptr len).length) = view.bytes
  rw [range_length hfits, range, slice, Nat.add_sub_cancel_left, List.append_assoc,
    ← List.drop_drop, List.take_append_drop, List.take_append_drop]

theorem Store.set_self : store.set memory (memory.view store) = store := by
  funext m
  rw [set]
  split
  · next h => rw [h]; rfl
  · rfl

theorem markerWritten_set {written : LinearMemory}
    (h : written.bytes = (memory.view store).bytes.take ptr.toNat ++ hostWriteMarkerBytes ++
      (memory.view store).bytes.drop (ptr.toNat + 4)) :
    MarkerWritten store (store.set memory written) memory ptr := by
  apply MarkerWritten.mk
  · rw [Memory.view, Store.set, if_pos rfl]
    exact h
  · intro m hne
    rw [Memory.view, Store.set, if_neg hne]
    rfl

end

section
variable [HostArch] {state : HostState} {store : Store} {memory : Memory}
  {ptr len align : UInt32}

theorem hostWriteMarker_unmapped (hm : state.memory = none) (elapsedUs : U128) :
    (hostWriteMarker state store ptr len align elapsedUs).1 = Abi.errInternal ∧
      (hostWriteMarker state store ptr len align elapsedUs).2.2 = store := by
  rw [hostWriteMarker, hm]
  exact ⟨rfl, rfl⟩

theorem hostWriteMarker_refused (hm : state.memory = some memory)
    (h : ¬ValidRange ptr len align 4 (memory.view store).bytes.length) (elapsedUs : U128) :
    (hostWriteMarker state store ptr len align elapsedUs).1 ≠ Abi.ok ∧
      (hostWriteMarker state store ptr len align elapsedUs).2.2 = store := by
  obtain ⟨err, hcheck, hrange⟩ := validateRange_refused ((memory.view store).toNat_dataSize ▸ h)
  have haccess := withGuestBytesMut_refused hrange writeMarkerToGuest
  have hcode : err.code ≠ Abi.ok := by
    rcases hcheck.code with hcode | hcode | hcode <;> rw [hcode] <;> decide
  rw [hostWriteMarker, hm]
  change (rangeOutcome (withGuestBytesMut (some memory) store ptr len align 4 _).1).1 ≠ _ ∧
    (withGuestBytesMut (some memory) store ptr len align 4 _).2 = store
  rw [haccess]
  exact ⟨hcode, rfl⟩

theorem hostWriteMarker_short (hm : state.memory = some memory)
    (h : ValidRange ptr len align 4 (memory.view store).bytes.length) (hlen : len.toNat ≠ 4)
    (elapsedUs : U128) :
    (hostWriteMarker state store ptr len align elapsedUs).1 ≠ Abi.ok ∧
      (hostWriteMarker state store ptr len align elapsedUs).2.2 = store := by
  have hlent : ¬((memory.view store).lend ptr len "memory.write").bytes.length =
      hostWriteMarkerBytes.length := by
    change ¬((memory.view store).range ptr len).length = 4
    rwa [LinearMemory.range_length h.in_bounds]
  have hsame (hwrite) : store.set memory ((memory.view store).write ptr.toNat
      ((memory.view store).range ptr len) hwrite) = store := by
    rw [LinearMemory.write_range h.in_bounds, Store.set_self]
  rw [hostWriteMarker, hm]
  change (rangeOutcome (withGuestBytesMut (some memory) store ptr len align 4 _).1).1 ≠ _ ∧
    (withGuestBytesMut (some memory) store ptr len align 4 _).2 = store
  rw [withGuestBytesMut_valid h]
  simp only [writeMarkerToGuest, dif_neg hlent]
  exact ⟨show Abi.errHeader ≠ Abi.ok by decide, hsame _⟩

theorem hostWriteMarker_written (hm : state.memory = some memory)
    (h : ValidRange ptr len align 4 (memory.view store).bytes.length) (hlen : len.toNat = 4)
    (elapsedUs : U128) :
    (hostWriteMarker state store ptr len align elapsedUs).1 = Abi.ok ∧
      MarkerWritten store (hostWriteMarker state store ptr len align elapsedUs).2.2 memory
        ptr := by
  have hlent : ((memory.view store).lend ptr len "memory.write").bytes.length =
      hostWriteMarkerBytes.length := by
    change ((memory.view store).range ptr len).length = 4
    rwa [LinearMemory.range_length h.in_bounds]
  rw [hostWriteMarker, hm]
  change (rangeOutcome (withGuestBytesMut (some memory) store ptr len align 4 _).1).1 = _ ∧
    MarkerWritten store (withGuestBytesMut (some memory) store ptr len align 4 _).2 memory ptr
  rw [withGuestBytesMut_valid h]
  simp only [writeMarkerToGuest, dif_pos hlent]
  exact ⟨rfl, markerWritten_set rfl⟩

theorem hostWriteMarker_touches (state : HostState) (store : Store) (ptr len align : UInt32)
    (elapsedUs : U128) :
    (GuestCall.writeMarker ptr len align).Touches state store
      (hostWriteMarker state store ptr len align elapsedUs).1
      (hostWriteMarker state store ptr len align elapsedUs).2.2 := by
  have hsame (hcode : (hostWriteMarker state store ptr len align elapsedUs).1 ≠ Abi.ok)
      (hstore : (hostWriteMarker state store ptr len align elapsedUs).2.2 = store)
      (hrange : ¬∃ m, state.memory = some m ∧ MarkerRange (m.view store) ptr len align) :
      (GuestCall.writeMarker ptr len align).Touches state store
        (hostWriteMarker state store ptr len align elapsedUs).1
        (hostWriteMarker state store ptr len align elapsedUs).2.2 :=
    ⟨iff_of_false hcode hrange, fun hok => absurd hok hcode, fun _ => hstore⟩
  cases hm : state.memory with
  | none =>
    obtain ⟨hcode, hstore⟩ := hostWriteMarker_unmapped hm elapsedUs
    apply hsame (hcode ▸ by decide) hstore
    rw [hm]
    exact nofun
  | some memory =>
    have hnot (hrange : ¬MarkerRange (memory.view store) ptr len align) :
        ¬∃ m, state.memory = some m ∧ MarkerRange (m.view store) ptr len align := by
      rintro ⟨m, hm', h⟩
      obtain rfl := Option.some.inj (hm.symm.trans hm')
      exact hrange h
    rw [markerRange_iff] at hnot
    by_cases h : ValidRange ptr len align 4 (memory.view store).bytes.length
    · by_cases hlen : len.toNat = 4
      · obtain ⟨hcode, hwritten⟩ := hostWriteMarker_written hm h hlen elapsedUs
        have hrange := markerRange_iff.2 ⟨h, hlen⟩
        exact ⟨iff_of_true hcode ⟨memory, hm, hrange⟩,
          fun _ => ⟨memory, hm, hrange, hwritten⟩, fun hne => absurd hcode hne⟩
      · obtain ⟨hcode, hstore⟩ := hostWriteMarker_short hm h hlen elapsedUs
        exact hsame hcode hstore (hnot fun hrange => hlen hrange.2)
    · obtain ⟨hcode, hstore⟩ := hostWriteMarker_refused hm h elapsedUs
      exact hsame hcode hstore (hnot fun hrange => h hrange.1)

/-- The host imports leave the guest's memory as it was, but for the marker where it was
granted. -/
theorem import_touches (call : GuestCall) (state : HostState) (store : Store)
    (elapsedUs : U128) :
    call.Touches state store (call.perform state store elapsedUs).1
      (call.perform state store elapsedUs).2.2 := by
  cases call with
  | writeMarker ptr len align => exact hostWriteMarker_touches state store ptr len align elapsedUs
  | acceptPacket | readCap | allocCap | tick => rfl

end

end WasmerSectest
