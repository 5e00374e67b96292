import WasmerSectest.MemoryBoundary

namespace WasmerSectest
set_option autoImplicit true

/-- What a list of gates says about one check is true. -/
def Tells (gates : List Gate) (name : String) (holds : Prop) : Prop :=
  (Gate.pass name ∈ gates → holds) ∧ (Gate.fail name ∈ gates → ¬holds)

/-- The gates that a range check leaves behind, whichever way it ends. -/
def rangeGates : Except GuestAccessErr (GuestRange × List Gate) → List Gate
  | .ok (_, gates) => gates
  | .error (_, _, gates) => gates

/-- Every gate of a range check tells the truth about the arguments. -/
structure RangeGatesTrue (ptr len align maxLen : UInt32) (size : UInt64) (gates : List Gate) :
    Prop where
  max_len : Tells gates "max_len" (len.toNat ≤ maxLen.toNat)
  alignment : Tells gates "alignment" (SupportedAlign align ∧ align.toNat ∣ ptr.toNat)
  checked_add : Tells gates "checked_add" (ptr.toNat + len.toNat < 2 ^ 32)
  bounds : Tells gates "bounds" (ptr.toNat + len.toNat ≤ size.toNat)

section
variable {gates : List Gate} {name name' : String} {holds : Prop}

@[simp] theorem pass_eq_pass : Gate.pass name = Gate.pass name' ↔ name = name' :=
  ⟨congrArg Gate.name, congrArg Gate.pass⟩

@[simp] theorem fail_eq_fail : Gate.fail name = Gate.fail name' ↔ name = name' :=
  ⟨congrArg Gate.name, congrArg Gate.fail⟩

@[simp] theorem pass_ne_fail : Gate.pass name ≠ Gate.fail name' := by
  intro h
  cases congrArg Gate.passed h

@[simp] theorem fail_ne_pass : Gate.fail name ≠ Gate.pass name' := pass_ne_fail.symm

@[simp] theorem tells_nil : Tells [] name holds := by
  simp [Tells]

@[simp] theorem tells_pass :
    Tells (.pass name' :: gates) name holds ↔ (name = name' → holds) ∧ Tells gates name holds := by
  simp [Tells, or_imp, and_assoc]

@[simp] theorem tells_fail :
    Tells (.fail name' :: gates) name holds ↔
      (name = name' → ¬holds) ∧ Tells gates name holds := by
  simp [Tells, or_imp, and_left_comm]

end

section
variable {ptr len align maxLen : UInt32} {size : UInt64}

theorem validatedGates_true (h : ValidRange ptr len align maxLen size.toNat) :
    RangeGatesTrue ptr len align maxLen size validatedGates := by
  rw [validatedGates]
  apply RangeGatesTrue.mk
  · simpa using h.len_le
  · simpa using ⟨h.align_supported, h.align_dvd⟩
  · simpa using h.no_wrap
  · simpa using h.in_bounds

/-- The alignment is looked at before the length, and its gate comes after. -/
theorem refusedGates_true_iff (h : RangeCheck ptr len align maxLen size (.error err)) :
    RangeGatesTrue ptr len align maxLen size (refusedGates err) ↔
      SupportedAlign align ∨ len.toNat ≤ maxLen.toNat := by
  cases h with
  | invalidAlignment ha =>
    change RangeGatesTrue _ _ _ _ _ [.pass "max_len", .fail "alignment"] ↔ _
    apply Iff.intro
    · intro h
      exact .inr (h.max_len.1 List.mem_cons_self)
    · intro hlen
      have hlen := hlen.resolve_left ha
      apply RangeGatesTrue.mk <;> simp [ha, hlen]
  | tooLarge ha hl =>
    change RangeGatesTrue _ _ _ _ _ [.fail "max_len"] ↔ _
    apply iff_of_true _ (.inl ha)
    apply RangeGatesTrue.mk <;> simp [hl]
  | misaligned ha hl hd =>
    change RangeGatesTrue _ _ _ _ _ [.pass "max_len", .fail "alignment"] ↔ _
    apply iff_of_true _ (.inl ha)
    apply RangeGatesTrue.mk <;> simp [hl, hd]
  | overflow ha hl hd hw =>
    change RangeGatesTrue _ _ _ _ _ [.pass "max_len", .pass "alignment", .fail "checked_add"] ↔ _
    apply iff_of_true _ (.inl ha)
    exact ⟨by simp [hl], by simp [ha, hd], by simpa using hw, by simp⟩
  | outOfBounds ha hl hd hw hb =>
    change RangeGatesTrue _ _ _ _ _
      [.pass "max_len", .pass "alignment", .pass "checked_add", .fail "bounds"] ↔ _
    apply iff_of_true _ (.inl ha)
    exact ⟨by simp [hl], by simp [ha, hd], by simpa using hw, by simp [hb]⟩

/-- The gates of a range check are true except for a length over the limit that comes with an
alignment the host does not support. -/
theorem range_gates_true_iff (ptr len align : UInt32) (size : UInt64) (maxLen : UInt32) :
    RangeGatesTrue ptr len align maxLen size
        (rangeGates (validateRange ptr len align size maxLen)) ↔
      SupportedAlign align ∨ len.toNat ≤ maxLen.toNat := by
  by_cases h : ValidRange ptr len align maxLen size.toNat
  · rw [validateRange_ok h]
    exact iff_of_true (validatedGates_true h) (.inl h.align_supported)
  · obtain ⟨err, hcheck, hrange⟩ := validateRange_refused h
    rw [hrange]
    exact refusedGates_true_iff hcheck

theorem long_range_passes_max_len :
    ¬RangeGatesTrue 0 8192 3 4096 65536 (rangeGates (validateRange 0 8192 3 65536 4096)) := by
  intro h
  have hpassed : Gate.pass "max_len" ∈ rangeGates (validateRange 0 8192 3 65536 4096) := by
    decide
  exact absurd (h.max_len.1 hpassed) (by decide)

/-- Below the end of the address space no range inside the memory is refused, and a range that
gets to this end always is. -/
theorem in_bounds_accepted (ptr len align : UInt32) (size : UInt64) (maxLen : UInt32)
    (ha : SupportedAlign align) (hd : align.toNat ∣ ptr.toNat)
    (hl : len.toNat ≤ maxLen.toNat) :
    (ptr.toNat + len.toNat ≤ size.toNat → ptr.toNat + len.toNat < 2 ^ 32 →
      ∃ range, checkedGuestRange ptr len align size maxLen = .ok range ∧ range.ptr = ptr ∧
        range.len = len ∧ range.offset.toNat = ptr.toNat) ∧
    (2 ^ 32 ≤ ptr.toNat + len.toNat →
      checkedGuestRange ptr len align size maxLen = .error (.ptrLenOverflow ptr len)) := by
  apply And.intro
  · intro hb hw
    have hvalid : ValidRange ptr len align maxLen size.toNat := ⟨ha, hl, hd, hw, hb⟩
    exact ⟨_, checkedGuestRange_valid hvalid, rfl, rfl, UInt32.toNat_toUInt64 ptr⟩
  · intro hw
    have hs := checkedGuestRange_spec ptr len align maxLen size
    generalize checkedGuestRange ptr len align size maxLen = r at hs ⊢
    cases hs with
    | invalidAlignment hn => exact absurd ha hn
    | tooLarge _ hn => exact absurd hl (Nat.not_le.2 hn)
    | misaligned _ _ hn => exact absurd hd hn
    | overflow => rfl
    | outOfBounds _ _ _ hn => exact absurd hw (Nat.not_le.2 hn)
    | accepted h => exact absurd hw (Nat.not_le.2 h.no_wrap)

theorem page_end_accepted :
    (∃ range, checkedGuestRange 65472 64 8 65536 4096 = .ok range ∧ range.ptr = 65472 ∧
      range.len = 64 ∧ range.offset.toNat = 65472) ∧
    checkedGuestRange 4294967280 16 16 4294967296 4096 =
      .error (.ptrLenOverflow 4294967280 16) :=
  ⟨(in_bounds_accepted 65472 64 8 65536 4096 (by decide) (by decide) (by decide)).1 (by decide)
      (by decide),
    (in_bounds_accepted 4294967280 16 16 4294967296 4096 (by decide) (by decide)
      (by decide)).2 (by decide)⟩

theorem last_bytes_refused :
    ¬∀ (ptr len align : UInt32) (size : UInt64) (maxLen : UInt32), size.toNat ≤ 2 ^ 32 →
      SupportedAlign align → align.toNat ∣ ptr.toNat → len.toNat ≤ maxLen.toNat →
      ptr.toNat + len.toNat ≤ size.toNat →
      ∃ range, checkedGuestRange ptr len align size maxLen = .ok range ∧ range.ptr = ptr ∧
        range.len = len ∧ range.offset.toNat = ptr.toNat := by
  intro h
  obtain ⟨range, hrange, -⟩ := h 4294967280 16 16 4294967296 4096 (by decide) (by decide)
    (by decide) (by decide) (by decide)
  cases hrange

end

end WasmerSectest
