import InfixCalc.Double.Basic
import Mathlib

/-!
# `InfixCalc.Proofs.Double.Bits`: doubles and their places on the scale

A double is given by its sign and its index, the place of its magnitude on the scale, and the two
are read off its bits. The bit patterns that are no number apart, every sign and index is that of
one double: `index_ofIndex`, `isNegative_ofIndex` and `ofIndex_index`.

The standard library keeps a double as its bits and reads them as sign, exponent and mantissa. That
bits come back from this reading is known for the bits of doubles, and so all there is to say here
is which bits are those of doubles (`valid_of_le`). Doubles are compared by this reading, too: all
that are numbers are equal to themselves (`beq_self`).
-/

set_option autoImplicit false

namespace InfixCalc.Double

/-! ### Bits of doubles -/

section Bits

open Float.Model Float.Model.UnpackedFloat

/-- The exponent bits of a pattern are its binade, once the sign is taken off. -/
theorem toNat_unpackExponent (bits : UInt64) :
    (@unpackExponent .binary64 bits.toBitVec).toNat = bits.toNat % signBit / binade := by
  simp [unpackExponent, Nat.shiftRight_eq_div_pow, signBit, binade]
  omega

/-- The mantissa bits of a pattern are its place within the binade. -/
theorem toNat_unpackMantissa (bits : UInt64) :
    (@unpackMantissa .binary64 bits.toBitVec).toNat = bits.toNat % signBit % binade := by
  simp [unpackMantissa, signBit, binade]

/-- Bits up to those of infinity, the sign left aside, have no mantissa where the exponent is the
greatest. -/
theorem unpackMantissa_eq_zero {bits : UInt64} (le : bits.toNat % signBit ≤ infinityIndex)
    (top : @unpackExponent .binary64 bits.toBitVec = -1#_) :
    @unpackMantissa .binary64 bits.toBitVec = 0#_ := by
  have exponent : bits.toNat % signBit / binade = 2047 := by
    rw [← toNat_unpackExponent, top]
    rfl
  refine BitVec.eq_of_toNat_eq ?_
  rw [toNat_unpackMantissa]
  show _ = 0
  simp only [infinityIndex, binade] at le exponent ⊢
  omega

/-- The standard library reads the sign that `isNegative` asks for. -/
theorem ofBitVec_unpackSign (v : Float) :
    Sign.ofBitVec (@unpackSign .binary64 v.toBits.toBitVec)
      = if isNegative v then .negative else .positive := by
  have bound : v.toBits.toNat < 2 ^ 64 := v.toBits.toNat_lt
  have bit : (@unpackSign .binary64 v.toBits.toBitVec).toNat = v.toBits.toNat / 2 ^ 63 := by
    show (v.toBits.toNat >>> 63) % 2 = _
    rw [Nat.shiftRight_eq_div_pow]
    omega
  have unsigned : @unpackSign .binary64 v.toBits.toBitVec = 0#1 ↔ ¬ isNegative v = true := by
    rw [← BitVec.toNat_inj, bit, isNegative, decide_eq_true_iff, signBit]
    show _ = 0 ↔ _
    omega
  simp only [Sign.ofBitVec, unsigned, ite_not]

/-- Such bits are valid: they are not among those that are no number. -/
theorem valid_of_le {bits : UInt64} (le : bits.toNat % signBit ≤ infinityIndex) :
    Format.binary64.Valid bits.toBitVec where
  eq_packedNaN top noNumber := absurd (unpackMantissa_eq_zero le top) noNumber

/-- Valid bits come back from the double that is made of them. -/
theorem toBits_ofBits {bits : UInt64} (le : bits.toNat % signBit ≤ infinityIndex) :
    (Float.ofBits bits).toBits = bits := by
  show UInt64.ofBitVec (pack .binary64 (unpack .binary64 bits.toBitVec)) = bits
  rw [pack_unpack_of_valid (valid_of_le le)]

/-- What is read off them is a number. -/
theorem unpack_ne_notANumber {bits : UInt64} (le : bits.toNat % signBit ≤ infinityIndex) :
    UnpackedFloat.unpack .binary64 bits.toBitVec ≠ .notANumber := by
  unfold UnpackedFloat.unpack
  dsimp only
  split
  · next top => simp [unpackMantissa_eq_zero le top]
  · split
    · split <;> simp
    · simp

/-- Whatever is read off a number compares as equal to itself. -/
theorem compare_self {u : UnpackedFloat} (number : u ≠ .notANumber) :
    u.compare u = some .eq := by
  cases u with
  | notANumber => exact absurd rfl number
  | infinity s => cases s <;> rfl
  | zero s => rfl
  | finite s m e pos => cases s <;> simp [UnpackedFloat.compare]

end Bits

/-! ### Signs and indices -/

/-- The finite doubles are those before infinity on the scale. -/
theorem isFinite_iff {v : Float} : isFinite v = true ↔ index v < infinityIndex :=
  decide_eq_true_iff

/-- A finite double is a number. -/
theorem isNotANumber_of_isFinite {v : Float} (finite : isFinite v = true) :
    isNotANumber v = false :=
  decide_eq_false (Nat.not_lt.mpr (isFinite_iff.mp finite).le)

/-- The bits of a double are its index, with the sign bit added if there is a sign. -/
theorem toNat_toBits_ofIndex (negative : Bool) {i : Nat} (le : i ≤ infinityIndex) :
    (ofIndex negative i).toBits.toNat = if negative then signBit + i else i := by
  simp only [infinityIndex, binade] at le
  have small : (if negative then signBit + i else i) < 2 ^ 64 := by
    simp only [signBit]
    split <;> omega
  have same : (UInt64.ofNat (if negative then signBit + i else i)).toNat
      = if negative then signBit + i else i := by
    rw [UInt64.toNat_ofNat', Nat.mod_eq_of_lt small]
  rw [ofIndex, toBits_ofBits, same]
  rw [same]
  simp only [signBit, infinityIndex, binade]
  split <;> omega

/-- The index of the double that is made for an index is this index. -/
theorem index_ofIndex (negative : Bool) {i : Nat} (le : i ≤ infinityIndex) :
    index (ofIndex negative i) = i := by
  rw [index, toNat_toBits_ofIndex negative le]
  simp only [infinityIndex, binade] at le
  simp only [signBit]
  split <;> omega

/-- The sign of the double that is made for a sign is this sign. -/
theorem isNegative_ofIndex (negative : Bool) {i : Nat} (le : i ≤ infinityIndex) :
    isNegative (ofIndex negative i) = negative := by
  rw [isNegative, toNat_toBits_ofIndex negative le]
  simp only [infinityIndex, binade] at le
  cases negative with
  | false => exact decide_eq_false (by simp [signBit]; omega)
  | true => exact decide_eq_true (by simp)

/-- A double is the one with its sign at its index. -/
theorem ofIndex_index (v : Float) : ofIndex (isNegative v) (index v) = v := by
  have bound : v.toBits.toNat < 2 ^ 64 := v.toBits.toNat_lt
  have bits : (if isNegative v then signBit + index v else index v) = v.toBits.toNat := by
    cases negative : isNegative v with
    | false =>
        have below : ¬ signBit ≤ v.toBits.toNat := of_decide_eq_false negative
        rw [if_neg Bool.false_ne_true, index, Nat.mod_eq_of_lt (by omega)]
    | true =>
        have above : signBit ≤ v.toBits.toNat := of_decide_eq_true negative
        rw [if_pos rfl, index]
        simp only [signBit] at above ⊢
        omega
  rw [ofIndex, bits, UInt64.ofNat_toNat, Float.ofBits_toBits]

/-! ### Equality -/

/-- A double that is a number is equal to itself. -/
theorem beq_self {v : Float} (number : isNotANumber v = false) : (v == v) = true := by
  have le : v.toBits.toNat % signBit ≤ infinityIndex :=
    Nat.not_lt.mp (of_decide_eq_false number)
  have same : v.toModel.unpack.compare v.toModel.unpack = some .eq :=
    compare_self (unpack_ne_notANumber le)
  show (v.toModel.unpack.compare v.toModel.unpack == some .eq) = true
  rw [same]
  rfl

/-- The two zeros are equal. -/
theorem zero_beq (negative : Bool) : (ofIndex false 0 == ofIndex negative 0) = true := by
  cases negative <;> decide +kernel

end InfixCalc.Double
