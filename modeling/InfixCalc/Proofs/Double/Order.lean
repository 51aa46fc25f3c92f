import InfixCalc.Proofs.Double.Bits

/-!
# `InfixCalc.Proofs.Double.Order`: the order of doubles, and their opposites

The index of a double is its place among the magnitudes. With the double's sign it becomes a whole
number (`signedIndex`), and doubles that are numbers are ordered as these whole numbers are
(`le_iff`). Both zeros are at the place zero and both infinities are at an end, so the order needs
no cases for them. The opposite of a double is the double with the other sign at the same index
(`neg_eq`).

The standard library compares doubles by sign, exponent and mantissa. So the places are first given
to such triples (`unpackedIndex`), and it is the triples read off doubles that are ordered as their
places (`unpacked_le_iff`): a greater exponent means a later binade, whatever the mantissas are.
-/

set_option autoImplicit false

namespace InfixCalc.Double

/-- The place of a double on both sides of zero. -/
def signedIndex (v : Float) : Int :=
  if isNegative v then -(index v : Int) else index v

section Unpacked

open Float.Model Float.Model.UnpackedFloat

/-- The place that is meant by a sign, a mantissa and an exponent. -/
def unpackedIndex : UnpackedFloat → Int
  | .zero _ | .notANumber => 0
  | .finite s m e _ => s.apply ((e + 1074) * binade + m)
  | .infinity s => s.apply infinityIndex

/-- What can be read off a double that is a number: a mantissa is in the upper half of its range
unless the exponent is the least one, and no finite double is at the place of infinity. -/
def IsReadOff : UnpackedFloat → Prop
  | .zero _ | .infinity _ => True
  | .finite _ m e _ => -1074 ≤ e ∧ (e = -1074 ∨ (binade : Int) ≤ m) ∧ m < 2 * binade ∧
      (e + 1074) * binade + m < infinityIndex
  | .notANumber => False

/-- Binades come one after the other, so exponents are compared before mantissas are. -/
theorem compare_then_isLE_iff {e e' : Int} {m m' : Nat}
    (upper : e = -1074 ∨ (binade : Int) ≤ m) (upper' : e' = -1074 ∨ (binade : Int) ≤ m')
    (le : -1074 ≤ e) (le' : -1074 ≤ e') (lt : m < 2 * binade) (lt' : m' < 2 * binade) :
    ((compare e e').then (compare m m')).isLE = true ↔
      (e + 1074) * binade + m ≤ (e' + 1074) * binade + (m' : Int) := by
  simp only [binade] at *
  -- With different exponents the mantissas do not matter, as both are in the upper halves of their
  -- ranges.
  rcases Int.lt_trichotomy e e' with less | rfl | greater
  · rw [Int.compare_eq_lt.mpr less]
    simp
    omega
  · rw [Int.compare_eq_eq.mpr rfl]
    simp [Nat.isLE_compare]
  · rw [Int.compare_eq_gt.mpr greater]
    simp
    omega

/-- A finite magnitude lies between zero and infinity. -/
theorem finite_bounds {s : Sign} {m : Nat} {e : Int} {pos : 0 < m}
    (readOff : IsReadOff (.finite s m e pos)) :
    0 < (e + 1074) * binade + (m : Int) ∧ (e + 1074) * binade + (m : Int) < infinityIndex := by
  obtain ⟨le, -, -, lt⟩ := readOff
  refine ⟨?_, lt⟩
  simp only [binade]
  omega

/-- What is read off doubles is ordered as the places are. -/
theorem unpacked_le_iff {a b : UnpackedFloat} (readOff : IsReadOff a) (readOff' : IsReadOff b) :
    a.le b = true ↔ unpackedIndex a ≤ unpackedIndex b := by
  have top : infinityIndex ≠ 0 := by decide
  cases a with
  | notANumber => exact readOff.elim
  | zero s =>
      cases b with
      | notANumber => exact readOff'.elim
      | zero s' => simp [UnpackedFloat.le, UnpackedFloat.compare, unpackedIndex]
      | infinity s' =>
          cases s' <;>
            simp [UnpackedFloat.le, UnpackedFloat.compare, unpackedIndex, Sign.apply, top]
      | finite s' m' e' _ =>
          obtain ⟨lower', upper'⟩ := finite_bounds readOff'
          cases s' <;> simp [UnpackedFloat.le, UnpackedFloat.compare, unpackedIndex, Sign.apply] <;>
            omega
  | infinity s =>
      cases b with
      | notANumber => exact readOff'.elim
      | zero s' =>
          cases s <;> simp [UnpackedFloat.le, UnpackedFloat.compare, unpackedIndex, Sign.apply, top]
      | infinity s' =>
          cases s <;> cases s' <;>
            simp [UnpackedFloat.le, UnpackedFloat.compare, unpackedIndex, Sign.apply, compare]
          omega
      | finite s' m' e' _ =>
          obtain ⟨lower', upper'⟩ := finite_bounds readOff'
          cases s <;> cases s' <;>
            simp [UnpackedFloat.le, UnpackedFloat.compare, unpackedIndex, Sign.apply] <;> omega
  | finite s m e _ =>
      obtain ⟨lower, upper⟩ := finite_bounds readOff
      cases b with
      | notANumber => exact readOff'.elim
      | zero s' =>
          cases s <;> simp [UnpackedFloat.le, UnpackedFloat.compare, unpackedIndex, Sign.apply] <;>
            omega
      | infinity s' =>
          cases s <;> cases s' <;>
            simp [UnpackedFloat.le, UnpackedFloat.compare, unpackedIndex, Sign.apply] <;> omega
      | finite s' m' e' _ =>
          obtain ⟨lower', upper'⟩ := finite_bounds readOff'
          obtain ⟨le, half, lt, -⟩ := readOff
          obtain ⟨le', half', lt', -⟩ := readOff'
          have ordered := compare_then_isLE_iff half half' le le' lt lt'
          have ordered' := compare_then_isLE_iff half' half le' le lt' lt
          cases s <;> cases s' <;>
            simp [UnpackedFloat.le, UnpackedFloat.compare, unpackedIndex, Sign.apply]
          · -- Of two negative numbers the one with the greater magnitude is less.
            rw [← Ordering.isLE_swap, Ordering.swap_then, Int.compare_swap, Nat.compare_swap,
              ordered']
            omega
          · omega
          · omega
          · exact ordered

/-- A mantissa is in the upper half of its range when its leading one is written out. -/
theorem toNat_leading (mantissa : BitVec 52) :
    (1#1 ++ mantissa).toNat = binade + mantissa.toNat := by
  rw [BitVec.toNat_append, ← Nat.shiftLeft_add_eq_or_of_lt mantissa.isLt]
  rfl

/-- A double that is a number is read as one, and its place is what is read. -/
theorem unpackedIndex_unpack {v : Float} (number : isNotANumber v = false) :
    IsReadOff v.toModel.unpack ∧ unpackedIndex v.toModel.unpack = signedIndex v := by
  have le : index v ≤ infinityIndex := Nat.not_lt.mp (of_decide_eq_false number)
  have exponent := toNat_unpackExponent v.toBits
  have mantissa := toNat_unpackMantissa v.toBits
  rw [← index] at exponent mantissa
  -- Exponent and mantissa are the quotient and the rest of the index by the width of a binade.
  have parts := Nat.div_add_mod (index v) binade
  have within : index v % binade < binade := Nat.mod_lt _ (by decide)
  rw [← exponent, ← mantissa] at parts
  rw [← mantissa] at within
  have signed {n : Int} (place : n = index v) :
      (Sign.ofBitVec (@unpackSign .binary64 v.toBits.toBitVec)).apply n = signedIndex v := by
    rw [ofBitVec_unpackSign, signedIndex, place]
    split <;> rfl
  have bias : (Format.binary64.exponentBias : Int) = 1023 := rfl
  show IsReadOff (UnpackedFloat.unpack .binary64 v.toBits.toBitVec) ∧
    unpackedIndex (UnpackedFloat.unpack .binary64 v.toBits.toBitVec) = _
  unfold UnpackedFloat.unpack
  dsimp only
  rw [bias]
  split
  · -- The greatest exponent is that of infinity.
    next top =>
      have noMantissa := unpackMantissa_eq_zero le top
      rw [if_pos noMantissa]
      rw [top, noMantissa] at parts
      exact ⟨trivial, signed (congrArg Nat.cast parts)⟩
  · next finite =>
      have below : (@unpackExponent .binary64 v.toBits.toBitVec).toNat < 2047 := by
        refine Nat.lt_of_le_of_ne (Nat.le_of_lt_succ (BitVec.isLt _)) fun same => finite ?_
        exact BitVec.eq_of_toNat_eq same
      have lt : index v < infinityIndex := by
        simp only [infinityIndex, binade] at parts within ⊢
        omega
      split
      · -- The least exponent is that of zero and of the mantissas without a leading one.
        next bottom =>
          rw [bottom] at parts ⊢
          split
          · next zero =>
              rw [zero] at parts
              have none : index v = 0 := parts.symm
              refine ⟨trivial, ?_⟩
              rw [signedIndex, none]
              split <;> rfl
          · have place : (((0#11).toNat : Int) - (1023 + (52 : Nat)) + 1 + 1074) * binade
                + (@unpackMantissa .binary64 v.toBits.toBitVec).toNat = index v := by
              rw [← parts]
              simp
            exact ⟨⟨by decide, .inl (by decide), by omega, place ▸ Int.ofNat_lt.mpr lt⟩,
              signed place⟩
      · -- With any other exponent the mantissa has a leading one that the bits leave out.
        next normal =>
          have later : (@unpackExponent .binary64 v.toBits.toBitVec).toNat ≠ 0 := fun none =>
            normal (BitVec.eq_of_toNat_eq none)
          have leading := toNat_leading (@unpackMantissa .binary64 v.toBits.toBitVec)
          have place : (((@unpackExponent .binary64 v.toBits.toBitVec).toNat : Int)
              - (1023 + (52 : Nat)) + 1074) * binade
              + (1#1 ++ @unpackMantissa .binary64 v.toBits.toBitVec).toNat = index v := by
            rw [leading]
            simp only [binade] at parts ⊢
            omega
          exact ⟨⟨by omega, .inr (by omega), by omega, place ▸ Int.ofNat_lt.mpr lt⟩, signed place⟩

/-- A double that is no number is read as none. -/
theorem unpack_of_isNotANumber {v : Float} (noNumber : isNotANumber v = true) :
    v.toModel.unpack = .notANumber := by
  have gt : infinityIndex < index v := of_decide_eq_true noNumber
  have exponent := toNat_unpackExponent v.toBits
  have mantissa := toNat_unpackMantissa v.toBits
  rw [← index] at exponent mantissa
  have bound : index v < signBit := Nat.mod_lt _ (by decide)
  simp only [infinityIndex, binade, signBit] at gt exponent mantissa bound
  have top : @unpackExponent .binary64 v.toBits.toBitVec = -1#_ := by
    refine BitVec.eq_of_toNat_eq (exponent.trans ?_)
    show _ = 2047
    omega
  -- The mantissa is what is beyond infinity, so there is some.
  have some : @unpackMantissa .binary64 v.toBits.toBitVec ≠ 0#_ := by
    intro zero
    rw [zero] at mantissa
    have none : 0 = index v % 0x10000000000000 := mantissa
    omega
  show UnpackedFloat.unpack .binary64 v.toBits.toBitVec = _
  unfold UnpackedFloat.unpack
  dsimp only
  rw [if_pos top, if_neg some]

/-- Doubles are compared by what is read off them. -/
theorem le_iff_unpack {v w : Float} : v ≤ w ↔ v.toModel.unpack.le w.toModel.unpack = true :=
  decide_eq_true_iff

/-- Nothing is at most what is no number. -/
theorem le_notANumber (a : UnpackedFloat) : a.le .notANumber = false := by
  cases a <;> rfl

/-- The reading of a double depends on its sign and its index, and the sign is read as such. -/
theorem unpack_eq_neg {v w : Float} (index_eq : index w = index v)
    (opposite : isNegative w = !isNegative v) : w.toModel.unpack = v.toModel.unpack.neg := by
  have exponent : @unpackExponent .binary64 w.toBits.toBitVec
      = @unpackExponent .binary64 v.toBits.toBitVec := by
    refine BitVec.eq_of_toNat_eq ?_
    rw [toNat_unpackExponent, toNat_unpackExponent, ← index, ← index, index_eq]
  have mantissa : @unpackMantissa .binary64 w.toBits.toBitVec
      = @unpackMantissa .binary64 v.toBits.toBitVec := by
    refine BitVec.eq_of_toNat_eq ?_
    rw [toNat_unpackMantissa, toNat_unpackMantissa, ← index, ← index, index_eq]
  have sign : Sign.ofBitVec (@unpackSign .binary64 w.toBits.toBitVec)
      = -Sign.ofBitVec (@unpackSign .binary64 v.toBits.toBitVec) := by
    rw [ofBitVec_unpackSign, ofBitVec_unpackSign, opposite]
    cases isNegative v <;> rfl
  show UnpackedFloat.unpack .binary64 w.toBits.toBitVec
    = (UnpackedFloat.unpack .binary64 v.toBits.toBitVec).neg
  unfold UnpackedFloat.unpack
  dsimp only
  simp only [exponent, mantissa, sign]
  -- Whatever kind of double it is, the sign is passed on as it is.
  split
  · split <;> rfl
  · split
    · split <;> rfl
    · rfl

end Unpacked

/-- Doubles that are numbers are ordered as their places. -/
theorem le_iff {v w : Float} (number : isNotANumber v = false) (number' : isNotANumber w = false) :
    v ≤ w ↔ signedIndex v ≤ signedIndex w := by
  obtain ⟨readOff, place⟩ := unpackedIndex_unpack number
  obtain ⟨readOff', place'⟩ := unpackedIndex_unpack number'
  rw [← place, ← place', le_iff_unpack]
  exact unpacked_le_iff readOff readOff'

/-- What is no number is in no order. -/
theorem isNotANumber_of_le {v w : Float} (le : v ≤ w) :
    isNotANumber v = false ∧ isNotANumber w = false := by
  rw [le_iff_unpack] at le
  -- The comparison answers no if either side is no number.
  constructor
  · cases none : isNotANumber v with
    | false => rfl
    | true =>
        rw [unpack_of_isNotANumber none] at le
        cases le
  · cases none : isNotANumber w with
    | false => rfl
    | true =>
        rw [unpack_of_isNotANumber none, le_notANumber] at le
        cases le

/-- The opposite of a number is at the same index, with the other sign. -/
theorem neg_eq {v : Float} (number : isNotANumber v = false) :
    -v = ofIndex (!isNegative v) (index v) := by
  have le : index v ≤ infinityIndex := Nat.not_lt.mp (of_decide_eq_false number)
  have opposite := unpack_eq_neg (index_ofIndex (!isNegative v) le) (isNegative_ofIndex _ le)
  generalize ofIndex (!isNegative v) (index v) = w at opposite ⊢
  show Float.ofModel (Float.Model.pack v.toModel.unpack.neg) = w
  rw [← opposite]
  exact Float.ofBits_toBits w

end InfixCalc.Double
