import TilingConfig.Binding.Modifier

/-!
# Bits of modifier masks

A mask is a number, and any number is a mask. The masks of modifiers are those in which no bit
is set but the four of the protocol; they are the sixteen unions of the four keys. To take
masks together is to ask for each bit whether one of them has it.
-/

namespace TilingConfig.Binding.ModMask

variable {a b mask : ModMask} {i : Nat}

/-- Whether a bit is set. -/
def bit (mask : ModMask) (i : Nat) : Bool := mask.bits.toNat.testBit i

/-- Masks with the same bits are equal. -/
theorem ext_bit (h : ∀ i, a.bit i = b.bit i) : a = b := by
  obtain ⟨m⟩ := a
  obtain ⟨n⟩ := b
  exact congrArg mk (UInt16.toNat_inj.1 (Nat.eq_of_testBit_eq h))

@[simp] theorem bit_none : none.bit i = false := Nat.zero_testBit i

@[simp] theorem bit_union : (a ∪ b).bit i = (a.bit i || b.bit i) := by
  change (a.bits ||| b.bits).toNat.testBit i = _
  rw [UInt16.toNat_or, Nat.testBit_or]
  rfl

/-- A mask without modifiers adds nothing. -/
@[simp] theorem union_none (a : ModMask) : a ∪ .none = a := ext_bit fun i => by simp

/-- No bits are set but those of shift, control, alternate and super. -/
def HasProtocolBits (mask : ModMask) : Prop := ∀ i, mask.bit i = true → i ∈ [0, 2, 3, 6]

/-- These are the bits of the mask of every modifier. -/
theorem bit_all : all.bit i = true ↔ i ∈ [0, 2, 3, 6] := by
  by_cases hi : i < 7
  · have hlow : ∀ i < 7, all.bit i = true ↔ i ∈ [0, 2, 3, 6] := by decide
    exact hlow i hi
  · have hlt : all.bits.toNat < 2 ^ i :=
      Nat.lt_of_lt_of_le (by decide : all.bits.toNat < 2 ^ 7)
        (Nat.pow_le_pow_right (by decide) (by omega))
    have hbit : all.bit i = false := Nat.testBit_lt_two_pow hlt
    simp only [hbit, Bool.false_eq_true, List.mem_cons, List.not_mem_nil, or_false, false_iff]
    omega

/-- So a mask has no others if cutting it down to them leaves it as it is. -/
theorem hasProtocolBits_iff : mask.HasProtocolBits ↔ mask.bits &&& all.bits = mask.bits := by
  have hand (i : Nat) : (mask.bits &&& all.bits).toNat.testBit i = (mask.bit i && all.bit i) := by
    rw [UInt16.toNat_and, Nat.testBit_and]
    rfl
  rw [← UInt16.toNat_inj]
  constructor
  · intro h
    apply Nat.eq_of_testBit_eq
    intro i
    rw [hand]
    cases hbit : mask.bit i with
    | false => exact hbit.symm
    | true => exact (bit_all.2 (h i hbit)).trans hbit.symm
  · intro h i hbit
    have heq : (mask.bit i && all.bit i) = mask.bit i := by rw [← hand, h]; rfl
    rw [hbit, Bool.true_and] at heq
    exact bit_all.1 heq

instance (mask : ModMask) : Decidable mask.HasProtocolBits :=
  decidable_of_iff _ hasProtocolBits_iff.symm

theorem hasProtocolBits_none : none.HasProtocolBits := by decide

/-- Every entry of the registry is a modifier of the protocol. -/
theorem hasProtocolBits_of_mem_registry : ∀ entry ∈ registry, entry.2.HasProtocolBits := by decide

theorem HasProtocolBits.union (ha : a.HasProtocolBits) (hb : b.HasProtocolBits) :
    (a ∪ b).HasProtocolBits := by
  intro i h
  rw [bit_union, Bool.or_eq_true] at h
  exact h.elim (ha i) (hb i)

/-- The mask in which just the given keys are held. -/
def ofHeld (shift ctrl alt super : Bool) : ModMask :=
  (bif shift then shiftKey else none) ∪ (bif ctrl then ctrlKey else none) ∪
    (bif alt then altKey else none) ∪ (bif super then superKey else none)

/-- A mask of modifiers is one of the sixteen unions. -/
theorem HasProtocolBits.exists_ofHeld (h : mask.HasProtocolBits) :
    ∃ shift ctrl alt super, mask = ofHeld shift ctrl alt super := by
  have hmasks : ∀ n ≤ all.bits.toNat, n &&& all.bits.toNat = n →
      ∃ shift ctrl alt super, (⟨UInt16.ofNat n⟩ : ModMask) = ofHeld shift ctrl alt super := by
    decide
  have hcut := congrArg UInt16.toNat (hasProtocolBits_iff.1 h)
  rw [UInt16.toNat_and] at hcut
  have hle : mask.bits.toNat ≤ all.bits.toNat := hcut ▸ Nat.and_le_right
  simpa using hmasks _ hle hcut

end TilingConfig.Binding.ModMask
