import WasmerSectest.Memory

namespace WasmerSectest
set_option autoImplicit true

section
variable {ptr len align maxLen : UInt32} {size : UInt64}

def SupportedAlign (align : UInt32) : Prop :=
  align = 1 ∨ align = 2 ∨ align = 4 ∨ align = 8 ∨ align = 16

instance : Decidable (SupportedAlign align) :=
  inferInstanceAs (Decidable (align = 1 ∨ align = 2 ∨ align = 4 ∨ align = 8 ∨ align = 16))

/-- The ranges a guest may name, in natural numbers: nothing wraps and nothing overhangs. -/
structure ValidRange (ptr len align maxLen : UInt32) (memorySize : Nat) : Prop where
  align_supported : SupportedAlign align
  len_le : len.toNat ≤ maxLen.toNat
  align_dvd : align.toNat ∣ ptr.toNat
  no_wrap : ptr.toNat + len.toNat < 2 ^ 32
  in_bounds : ptr.toNat + len.toNat ≤ memorySize

/-- What the range check can answer, each refusal with the checks passed before it. -/
inductive RangeCheck (ptr len align maxLen : UInt32) (size : UInt64) :
    Except AbiError GuestRange → Prop where
  | invalidAlignment (ha : ¬SupportedAlign align) :
    RangeCheck ptr len align maxLen size (.error (.invalidAlignment align))
  | tooLarge (ha : SupportedAlign align) (hl : maxLen.toNat < len.toNat) :
    RangeCheck ptr len align maxLen size (.error (.tooLarge len maxLen))
  | misaligned (ha : SupportedAlign align) (hl : len.toNat ≤ maxLen.toNat)
    (hd : ¬align.toNat ∣ ptr.toNat) :
    RangeCheck ptr len align maxLen size (.error (.misaligned ptr align))
  | overflow (ha : SupportedAlign align) (hl : len.toNat ≤ maxLen.toNat)
    (hd : align.toNat ∣ ptr.toNat) (hw : 2 ^ 32 ≤ ptr.toNat + len.toNat) :
    RangeCheck ptr len align maxLen size (.error (.ptrLenOverflow ptr len))
  | outOfBounds (ha : SupportedAlign align) (hl : len.toNat ≤ maxLen.toNat)
    (hd : align.toNat ∣ ptr.toNat) (hw : ptr.toNat + len.toNat < 2 ^ 32)
    (hb : size.toNat < ptr.toNat + len.toNat) :
    RangeCheck ptr len align maxLen size (.error (.outOfBounds ptr len (ptr + len) size))
  | accepted (h : ValidRange ptr len align maxLen size.toNat) :
    RangeCheck ptr len align maxLen size (.ok ⟨ptr, len, ptr + len, ptr.toUInt64⟩)

theorem toNat_add_of_lt (h : ptr.toNat + len.toNat < 2 ^ 32) :
    (ptr + len).toNat = ptr.toNat + len.toNat := by
  rw [UInt32.toNat_add, Nat.mod_eq_of_lt h]

theorem misaligned_iff (ha : SupportedAlign align) :
    (align > 1 ∧ ptr % align ≠ 0) ↔ ¬align.toNat ∣ ptr.toNat := by
  have hz : (ptr % align).toNat = 0 ↔ ptr % align = 0 := UInt32.toNat_inj (b := 0)
  rw [Nat.dvd_iff_mod_eq_zero, ← UInt32.toNat_mod, hz]
  refine ⟨fun h => h.2, fun h => ⟨?_, h⟩⟩
  rcases ha with he | he | he | he | he <;> subst he
  · have h1 : (ptr % 1).toNat = 0 := by rw [UInt32.toNat_mod]; exact Nat.mod_one _
    exact absurd (hz.1 h1) h
  all_goals decide

theorem checkedGuestRange_spec (ptr len align maxLen : UInt32) (size : UInt64) :
    RangeCheck ptr len align maxLen size (checkedGuestRange ptr len align size maxLen) := by
  rw [checkedGuestRange]
  change RangeCheck _ _ _ _ _ (if ¬SupportedAlign align then _ else _)
  by_cases ha : SupportedAlign align
  case neg => rw [if_pos ha]; exact .invalidAlignment ha
  rw [if_neg (not_not_intro ha)]
  by_cases hl : len > maxLen
  case pos => rw [if_pos hl]; exact .tooLarge ha (UInt32.lt_iff_toNat_lt.1 hl)
  have hl' : len.toNat ≤ maxLen.toNat :=
    Nat.not_lt.1 fun h => hl (UInt32.lt_iff_toNat_lt.2 h)
  rw [if_neg hl]
  by_cases hm : align > 1 ∧ ptr % align ≠ 0
  case pos => rw [if_pos hm]; exact .misaligned ha hl' ((misaligned_iff ha).1 hm)
  have hd : align.toNat ∣ ptr.toNat := not_not.1 fun h => hm ((misaligned_iff ha).2 h)
  rw [if_neg hm, checkedAdd]
  by_cases hw : ptr.toNat + len.toNat < 2 ^ 32
  case neg => rw [if_neg hw]; exact .overflow ha hl' hd (Nat.not_lt.1 hw)
  have hstop : (ptr + len).toUInt64 > size ↔ size.toNat < ptr.toNat + len.toNat := by
    rw [gt_iff_lt, UInt64.lt_iff_toNat_lt, UInt32.toNat_toUInt64, toNat_add_of_lt hw]
  rw [if_pos hw]
  change RangeCheck _ _ _ _ _ (if (ptr + len).toUInt64 > size then _ else _)
  by_cases hb : (ptr + len).toUInt64 > size
  case pos => rw [if_pos hb]; exact .outOfBounds ha hl' hd hw (hstop.1 hb)
  rw [if_neg hb]
  exact .accepted ⟨ha, hl', hd, hw, Nat.not_lt.1 fun h => hb (hstop.2 h)⟩

theorem checkedGuestRange_valid (h : ValidRange ptr len align maxLen size.toNat) :
    checkedGuestRange ptr len align size maxLen =
      .ok ⟨ptr, len, ptr + len, ptr.toUInt64⟩ := by
  have hs := checkedGuestRange_spec ptr len align maxLen size
  generalize checkedGuestRange ptr len align size maxLen = r at hs
  cases hs with
  | invalidAlignment ha => exact absurd h.align_supported ha
  | tooLarge ha hl => exact absurd h.len_le (Nat.not_le.2 hl)
  | misaligned ha hl hd => exact absurd h.align_dvd hd
  | overflow ha hl hd hw => exact absurd h.no_wrap (Nat.not_lt.2 hw)
  | outOfBounds ha hl hd hw hb => exact absurd h.in_bounds (Nat.not_le.2 hb)
  | accepted h => rfl

/-- The gates a refused range leaves behind: the checks it passed, then the one it failed. -/
def refusedGates (err : AbiError) : List Gate :=
  (["max_len", "alignment", "checked_add"].takeWhile (· ≠ err.gate)).map Gate.pass ++
    [Gate.fail err.gate]

def validatedGates : List Gate :=
  [.pass "max_len", .pass "alignment", .pass "checked_add", .pass "bounds"]

theorem validateRange_ok (h : ValidRange ptr len align maxLen size.toNat) :
    validateRange ptr len align size maxLen =
      .ok (⟨ptr, len, ptr + len, ptr.toUInt64⟩, validatedGates) := by
  rw [validateRange, checkedGuestRange_valid h]
  rfl

theorem validateRange_refused (h : ¬ValidRange ptr len align maxLen size.toNat) :
    ∃ err, RangeCheck ptr len align maxLen size (.error err) ∧
      validateRange ptr len align size maxLen =
        .error (err, some size, refusedGates err) := by
  have hs := checkedGuestRange_spec ptr len align maxLen size
  rw [validateRange]
  generalize checkedGuestRange ptr len align size maxLen = r at hs
  cases hs with
  | invalidAlignment ha => exact ⟨_, .invalidAlignment ha, rfl⟩
  | tooLarge ha hl => exact ⟨_, .tooLarge ha hl, rfl⟩
  | misaligned ha hl hd => exact ⟨_, .misaligned ha hl hd, rfl⟩
  | overflow ha hl hd hw => exact ⟨_, .overflow ha hl hd hw, rfl⟩
  | outOfBounds ha hl hd hw hb => exact ⟨_, .outOfBounds ha hl hd hw hb, rfl⟩
  | accepted hv => exact absurd hv h

theorem validateRange_ok_iff : (∃ r, validateRange ptr len align size maxLen = .ok r) ↔
    ValidRange ptr len align maxLen size.toNat := by
  apply Iff.intro
  · intro ⟨r, hr⟩
    refine not_not.1 fun hv => ?_
    obtain ⟨err, -, he⟩ := validateRange_refused hv
    rw [he] at hr
    cases hr
  · intro hv
    exact ⟨_, validateRange_ok hv⟩

theorem RangeCheck.code (h : RangeCheck ptr len align maxLen size (.error err)) :
    err.code = Abi.errAlign ∨ err.code = Abi.errTooLarge ∨ err.code = Abi.errBounds := by
  cases h with
  | invalidAlignment ha => exact .inl rfl
  | tooLarge ha hl => exact .inr (.inl rfl)
  | misaligned ha hl hd => exact .inl rfl
  | overflow ha hl hd hw => exact .inr (.inr rfl)
  | outOfBounds ha hl hd hw hb => exact .inr (.inr rfl)

theorem usizeTryFrom_of_lt [HostArch] (h : n < 2 ^ 32) :
    ∃ u : Usize, usizeTryFrom n = some u ∧ u.toNat = n := by
  have hn : n < 2 ^ HostArch.usizeBits :=
    Nat.lt_of_lt_of_le h (Nat.pow_le_pow_right (by decide) HostArch.usizeBits_ge)
  refine ⟨_, if_pos hn, ?_⟩
  rw [BitVec.toNat_ofNat, Nat.mod_eq_of_lt hn]

theorem rangeIndices_ok [HostArch] (h : ptr.toNat + len.toNat < 2 ^ 32) :
    ∃ start stop, rangeIndices ⟨ptr, len, ptr + len, ptr.toUInt64⟩ = .ok (start, stop) ∧
      start.toNat = ptr.toNat ∧ stop.toNat = ptr.toNat + len.toNat := by
  obtain ⟨start, hs, hsn⟩ := usizeTryFrom_of_lt ptr.toNat_lt
  obtain ⟨stop, ht, htn⟩ := usizeTryFrom_of_lt h
  refine ⟨start, stop, ?_, hsn, htn⟩
  rw [← toNat_add_of_lt h] at ht
  simp only [rangeIndices, UInt32.toNat_toUInt64, hs, ht]
  rfl

def LinearMemory.range (view : LinearMemory) (ptr len : UInt32) : List UInt8 :=
  slice view.bytes ptr.toNat (ptr.toNat + len.toNat)

theorem getRange_valid {view : LinearMemory}
    (h : ptr.toNat + len.toNat ≤ view.bytes.length) :
    getRange view.bytes ptr.toNat (ptr.toNat + len.toNat) = some (view.range ptr len) := by
  rw [getRange, if_pos ⟨Nat.le_add_right _ _, h⟩]
  rfl

theorem LinearMemory.range_length {view : LinearMemory}
    (h : ptr.toNat + len.toNat ≤ view.bytes.length) :
    (view.range ptr len).length = len.toNat := by
  rw [range, slice, Nat.add_sub_cancel_left, List.length_take, List.length_drop]
  omega

/-- What a checked access lends to its callback. -/
def LinearMemory.lend (view : LinearMemory) (ptr len : UInt32) (gate : String) : GuestBytes :=
  ⟨view.range ptr len, ⟨ptr, len, ptr + len, ptr.toUInt64⟩, view.dataSize,
    validatedGates ++ [.pass gate]⟩

end

section
variable [HostArch] {memory : Memory} {store : Store} {ptr len align maxLen : UInt32}

theorem withGuestBytes_valid
    (h : ValidRange ptr len align maxLen (memory.view store).bytes.length)
    (read : GuestBytes → R) :
    withGuestBytes (some memory) store ptr len align maxLen read =
      .ok (read ((memory.view store).lend ptr len "memory.read")) := by
  obtain ⟨start, stop, hi, hs, ht⟩ := rangeIndices_ok h.no_wrap
  have hv := validateRange_ok ((memory.view store).toNat_dataSize ▸ h)
  have hg := getRange_valid h.in_bounds
  rw [← ht, ← hs] at hg
  simp only [withGuestBytes, hv, hi, hg, bind, Except.bind, pure, Except.pure]
  rfl

theorem withGuestBytes_refused
    (h : validateRange ptr len align (memory.view store).dataSize maxLen = .error e)
    (read : GuestBytes → R) :
    withGuestBytes (some memory) store ptr len align maxLen read = .error e := by
  simp only [withGuestBytes, h]
  rfl

omit [HostArch] in
theorem LinearMemory.write_fits {view : LinearMemory}
    (h : ptr.toNat + len.toNat ≤ view.bytes.length)
    (written : Written (view.lend ptr len gate)) :
    ptr.toNat + written.1.length ≤ view.bytes.length := by
  rw [written.2]
  change ptr.toNat + (view.range ptr len).length ≤ _
  rwa [range_length h]

theorem withGuestBytesMut_valid
    (h : ValidRange ptr len align maxLen (memory.view store).bytes.length)
    (write : (guest : GuestBytes) → R × Written guest) :
    withGuestBytesMut (some memory) store ptr len align maxLen write =
      (.ok (write ((memory.view store).lend ptr len "memory.write")).1,
        store.set memory ((memory.view store).write ptr.toNat
          (write ((memory.view store).lend ptr len "memory.write")).2.1
          (LinearMemory.write_fits h.in_bounds _))) := by
  obtain ⟨start, stop, hi, hs, ht⟩ := rangeIndices_ok h.no_wrap
  have hv := validateRange_ok ((memory.view store).toNat_dataSize ▸ h)
  have hg := getRange_valid h.in_bounds
  rw [← ht, ← hs] at hg
  rw [withGuestBytesMut]
  simp only [hv, hi]
  split
  case h_1 he => rw [hg] at he; cases he
  case h_2 bytes he =>
    rw [hg] at he
    cases he
    simp only [hs]
    rfl

theorem withGuestBytesMut_refused
    (h : validateRange ptr len align (memory.view store).dataSize maxLen = .error e)
    (write : (guest : GuestBytes) → R × Written guest) :
    withGuestBytesMut (some memory) store ptr len align maxLen write = (.error e, store) := by
  rw [withGuestBytesMut]
  simp only [h]

end

/-- A guest is lent exactly the bytes it named, or it gets an error and no callback runs;
past validation no error branch can be taken. -/
theorem guest_memory_boundary [HostArch] (memory : Option Memory) (store : Store)
    (ptr len align maxLen : UInt32) :
    ((∃ m, memory = some m ∧
        ValidRange ptr len align maxLen (m.view store).bytes.length ∧
        ((m.view store).range ptr len).length = len.toNat ∧
        (∀ {R : Type} (read : GuestBytes → R),
          withGuestBytes memory store ptr len align maxLen read =
            .ok (read ((m.view store).lend ptr len "memory.read"))) ∧
        ∀ {R : Type} (write : (guest : GuestBytes) → R × Written guest), ∃ fits,
          withGuestBytesMut memory store ptr len align maxLen write =
            (.ok (write ((m.view store).lend ptr len "memory.write")).1,
              store.set m ((m.view store).write ptr.toNat
                (write ((m.view store).lend ptr len "memory.write")).2.1 fits))) ∨
      ∃ err,
        (∀ {R : Type} (read : GuestBytes → R),
          withGuestBytes memory store ptr len align maxLen read = .error err) ∧
        ∀ {R : Type} (write : (guest : GuestBytes) → R × Written guest),
          withGuestBytesMut memory store ptr len align maxLen write = (.error err, store)) ∧
    ∀ (view : LinearMemory) (range : GuestRange) (gates : List Gate),
      validateRange ptr len align view.dataSize maxLen = .ok (range, gates) →
        ∃ start stop, rangeIndices range = .ok (start, stop) ∧
          getRange view.bytes start.toNat stop.toNat = some (view.range ptr len) := by
  apply And.intro
  · cases memory with
    | none =>
      refine .inr ⟨(.missingMemory, none, [.fail "memory.export"]), ?_, ?_⟩
      · intro R read
        rfl
      · intro R write
        rfl
    | some m =>
      by_cases h : ValidRange ptr len align maxLen (m.view store).bytes.length
      · exact .inl ⟨m, rfl, h, LinearMemory.range_length h.in_bounds,
          fun read => withGuestBytes_valid h read,
          fun write => ⟨_, withGuestBytesMut_valid h write⟩⟩
      · obtain ⟨err, hc, he⟩ := validateRange_refused ((m.view store).toNat_dataSize ▸ h)
        exact .inr ⟨_, fun read => withGuestBytes_refused he read,
          fun write => withGuestBytesMut_refused he write⟩
  · intro view range gates hr
    have hv : ValidRange ptr len align maxLen view.bytes.length :=
      view.toNat_dataSize ▸ validateRange_ok_iff.1 ⟨_, hr⟩
    rw [validateRange_ok (view.toNat_dataSize ▸ hv)] at hr
    cases hr
    obtain ⟨start, stop, hi, hs, ht⟩ := rangeIndices_ok hv.no_wrap
    refine ⟨start, stop, hi, ?_⟩
    rw [hs, ht]
    exact getRange_valid hv.in_bounds

end WasmerSectest
