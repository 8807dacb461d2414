import Mathlib

/-! # Canonical numbers

    A finite number is a whole number of digits times a power of two.  Unless the
    exponent is the least one, the leading digit is one: then there is one way to
    write a number, and rounding it to the same format changes nothing.

    * `Canonical`: the digits and the exponents that a format has.
    * `canonical_of_unpack`: what is read from bits is canonical.
    * `unpack_pack_of_canonical`: what is written to bits is read again.
    * `roundWithAccuracy_of_canonical`, `roundWithAccuracy_of_carry`: what rounding
      makes of the digits that it has kept.
    * `one_mul_unpack`: a product with one. -/

namespace Planetarium.Numeral

open Float.Model
open Float.Model.UnpackedFloat

/-- **A canonical number.** The digits fit, and the leading one is a one unless the
    exponent is the least. -/
structure Canonical (spec : Format) (m : Nat) (e : Int) : Prop where
  lt : m < 2 ^ spec.mantissaBits
  minExponent_le : spec.minExponent ≤ e
  leading : 2 ^ spec.mantissaBitsWithoutImplicit ≤ m ∨ e = spec.minExponent

section rounding
variable {spec : Format} {m : Nat} {e : Int}

/-! ## Section 1: Bits -/

theorem minExponent_eq (spec : Format) :
    spec.minExponent = 1 - ((spec.exponentBias : Int) + spec.mantissaBitsWithoutImplicit) := by
  have hbias : (spec.exponentBias : Int) = 2 ^ (spec.exponentBits - 1) - 1 := by
    have hpow : 1 ≤ 2 ^ (spec.exponentBits - 1) := Nat.one_le_two_pow
    simp [Format.exponentBias, hpow]
  have hbits : (spec.mantissaBits : Int) = 1 + spec.mantissaBitsWithoutImplicit := by
    simp [Format.mantissaBits]
  rw [Format.minExponent, hbias, hbits]
  ring

theorem two_pow_mantissaBits (spec : Format) :
    2 ^ spec.mantissaBits = 2 * 2 ^ spec.mantissaBitsWithoutImplicit := by
  rw [Format.mantissaBits, Nat.pow_add, Nat.pow_one]

/-- Digits with a one in front of them. -/
theorem toNat_one_append {n : Nat} (b : BitVec n) : (1#1 ++ b).toNat = 2 ^ n + b.toNat := by
  have hor := Nat.two_pow_add_eq_or_of_lt b.isLt 1
  rw [Nat.mul_one] at hor
  rw [BitVec.toNat_append, Nat.shiftLeft_eq, hor]
  exact congrArg (· ||| b.toNat) (Nat.one_mul _)

theorem canonical_of_unpack {b : BitVec spec.numBits} {s : Sign} {hm : 0 < m}
    (h : UnpackedFloat.unpack spec b = .finite s m e hm) : Canonical spec m e := by
  have hmin := minExponent_eq spec
  have hwide := two_pow_mantissaBits spec
  have hdigits := (unpackMantissa b).isLt
  unfold UnpackedFloat.unpack at h
  dsimp only at h
  split at h
  · split at h <;> cases h
  · split at h
    · next hzero =>
      -- Without a leading one the exponent is the least.
      split at h
      · cases h
      · injection h with _ hm he
        subst hm he
        have hleast : ((unpackExponent b).toNat : Int) = 0 := by rw [hzero]; simp
        exact ⟨by omega, by omega, .inr (by omega)⟩
    · next hzero =>
      injection h with _ hm he
      rw [toNat_one_append] at hm
      have hpos : (unpackExponent b).toNat ≠ 0 := fun h => hzero (BitVec.eq_of_toNat_eq h)
      exact ⟨by omega, by omega, .inl (by omega)⟩

/-- **A number with a leading one survives in bits** if its exponent is not too great. -/
theorem unpack_pack_of_canonical (canonical : Canonical spec m e) (s : Sign) (hm : 0 < m)
    (hleading : 2 ^ spec.mantissaBitsWithoutImplicit ≤ m)
    (hhigh : e + spec.exponentBias + spec.mantissaBitsWithoutImplicit + 1 <
      (2 ^ spec.exponentBits : Nat)) :
    UnpackedFloat.unpack spec (UnpackedFloat.pack spec (.finite s m e hm)) = .finite s m e hm := by
  have hmin := minExponent_eq spec
  have hwide := two_pow_mantissaBits spec
  have hlow := canonical.minExponent_le
  have hfit := canonical.lt
  have hbits : m.log2 + 1 = spec.mantissaBits := by
    have hle := (Nat.le_log2 hm.ne').mpr hleading
    have hlt := (Nat.log2_lt hm.ne').mpr hfit
    have hmantissa : spec.mantissaBits = 1 + spec.mantissaBitsWithoutImplicit := rfl
    omega
  obtain ⟨k, hk⟩ : ∃ k : Nat, e + spec.exponentBias + spec.mantissaBitsWithoutImplicit = k :=
    Int.eq_ofNat_of_zero_le (by omega)
  have hpack : UnpackedFloat.pack spec (.finite s m e hm) =
      packComponents spec s (BitVec.ofNat _ k) (BitVec.ofNat _ m) := by
    unfold UnpackedFloat.pack
    dsimp only
    rw [hk, Int.toNat_natCast, if_neg (by omega), if_pos hbits]
  have hexponent : (BitVec.ofNat spec.exponentBits k).toNat = k := by
    rw [BitVec.toNat_ofNat, Nat.mod_eq_of_lt (by omega)]
  have hdigits : (1#1 ++ BitVec.ofNat spec.mantissaBitsWithoutImplicit m).toNat = m := by
    rw [toNat_one_append, BitVec.toNat_ofNat, Nat.mod_eq_sub_mod hleading,
      Nat.mod_eq_of_lt (by omega)]
    omega
  have htop : BitVec.ofNat spec.exponentBits k ≠ -BitVec.ofNat spec.exponentBits 1 := by
    intro h
    rw [h, BitVec.neg_one_eq_allOnes, BitVec.toNat_allOnes] at hexponent
    omega
  have hbottom : BitVec.ofNat spec.exponentBits k ≠ BitVec.ofNat spec.exponentBits 0 := by
    intro h
    rw [h] at hexponent
    simp at hexponent
    omega
  rw [hpack]
  unfold UnpackedFloat.unpack
  simp only [unpackExponent_packComponents, unpackMantissa_packComponents,
    unpackSign_packComponents, Sign.ofBitVec_toBitVec, htop, hbottom, if_false, hdigits, hexponent]
  have hback : (k : Int) - (spec.exponentBias + spec.mantissaBitsWithoutImplicit) = e := by omega
  simp only [hback]

/-! ## Section 2: Rounding -/

theorem Canonical.targetExponent (canonical : Canonical spec m e) (hm : 0 < m) :
    spec.targetExponent (totalExponent m e) = e := by
  obtain ⟨hlt, hle, hleading⟩ := canonical
  have hbits : m.log2 < spec.mantissaBits := (Nat.log2_lt hm.ne').mpr hlt
  have hmantissa : spec.mantissaBits = 1 + spec.mantissaBitsWithoutImplicit := rfl
  unfold Format.targetExponent totalExponent
  rcases hleading with hleading | hleading
  · have hlog := (Nat.le_log2 hm.ne').mpr hleading
    omega
  · omega

/-- Digits that are zeros can be shifted out. -/
theorem shiftRight_two_pow_mul (m n : Nat) :
    ExtendedMantissa.ofMantissaAndAccuracy (2 ^ n * m) .exact >>> n =
      .ofMantissaAndAccuracy m .exact := by
  induction n generalizing m with
  | zero => exact congrArg (ExtendedMantissa.ofMantissaAndAccuracy · .exact) (Nat.one_mul m)
  | succ n ih =>
    show ExtendedMantissa.shiftRightOne
      (ExtendedMantissa.ofMantissaAndAccuracy (2 ^ (n + 1) * m) .exact >>> n) = _
    rw [Nat.pow_succ, Nat.mul_assoc, ih]
    simp [ExtendedMantissa.shiftRightOne, ExtendedMantissa.ofMantissaAndAccuracy]

/-- Rounding changes the last digit by one at most. -/
theorem roundedMantissa_cases (em : ExtendedMantissa) :
    em.roundedMantissa = em.mantissa ∨ em.roundedMantissa = em.mantissa + 1 := by
  unfold ExtendedMantissa.roundedMantissa
  rcases em.accuracy with _ | ⟨⟨⟩⟩
  · exact .inl rfl
  · exact .inl rfl
  · -- A tie goes to the even one of two.
    show em.mantissa + em.mantissa % 2 = _ ∨ em.mantissa + em.mantissa % 2 = _
    omega
  · exact .inr rfl

/-- What fits is not shifted, whatever has been left out behind it. -/
theorem Canonical.shiftToTargetExponent (canonical : Canonical spec m e) (hm : 0 < m)
    (acc : Accuracy) :
    shiftToTargetExponent spec m e acc = (.ofMantissaAndAccuracy m acc, e) := by
  unfold UnpackedFloat.shiftToTargetExponent UnpackedFloat.shiftToExponent
  rw [canonical.targetExponent hm]
  dsimp only
  rw [Int.sub_self]
  exact Prod.ext rfl (Int.add_zero e)

/-- Zeros behind the digits do not make a number greater. -/
theorem totalExponent_two_pow_mul (hm : 0 < m) (n : Nat) :
    totalExponent (2 ^ n * m) (-n + e) = totalExponent m e := by
  have hlog : (2 ^ n * m).log2 = n + m.log2 := by
    have hpos : 2 ^ n * m ≠ 0 := (Nat.mul_pos (Nat.two_pow_pos n) hm).ne'
    obtain ⟨hle, hlt⟩ := (Nat.log2_eq_iff hm.ne').mp rfl
    rw [Nat.log2_eq_iff hpos, Nat.pow_add, Nat.add_assoc, Nat.pow_add]
    exact ⟨Nat.mul_le_mul_left _ hle, Nat.mul_lt_mul_of_pos_left hlt (Nat.two_pow_pos n)⟩
  unfold totalExponent
  rw [hlog]
  omega

/-- Digits that fit are what is left when the zeros behind them are shifted out. -/
theorem Canonical.shiftToTargetExponent_two_pow_mul (canonical : Canonical spec m e) (hm : 0 < m)
    (n : Nat) :
    UnpackedFloat.shiftToTargetExponent spec (2 ^ n * m) (-n + e) .exact =
      (.ofMantissaAndAccuracy m .exact, e) := by
  have hshift : (e - (-n + e)).toNat = n := by omega
  have hback : -(n : Int) + e + n = e := by omega
  unfold UnpackedFloat.shiftToTargetExponent UnpackedFloat.shiftToExponent
  rw [totalExponent_two_pow_mul hm, canonical.targetExponent hm]
  dsimp only
  rw [hshift, hback, shiftRight_two_pow_mul]

/-- One digit too many: the digits that a carry leaves are a power of two. -/
theorem shiftToTargetExponent_two_pow (he : spec.minExponent ≤ e) :
    shiftToTargetExponent spec (2 ^ spec.mantissaBits) e .exact =
      (.ofMantissaAndAccuracy (2 ^ spec.mantissaBitsWithoutImplicit) .exact, e + 1) := by
  have htarget : spec.targetExponent (totalExponent (2 ^ spec.mantissaBits) e) = e + 1 := by
    unfold Format.targetExponent totalExponent
    rw [Nat.log2_two_pow]
    omega
  have hshift : (e + 1 - e).toNat = 1 := by omega
  have hhalf := two_pow_mantissaBits spec
  unfold UnpackedFloat.shiftToTargetExponent UnpackedFloat.shiftToExponent
  rw [htarget]
  dsimp only
  rw [hshift, hhalf, ← Nat.pow_one 2, shiftRight_two_pow_mul]
  rfl

variable {acc : Accuracy} {em : ExtendedMantissa} {e' : Int} (s : Sign)

theorem roundWithAccuracy_of_canonical
    (h : UnpackedFloat.shiftToTargetExponent spec m e acc = (em, e'))
    (canonical : Canonical spec em.roundedMantissa e') (hpos : 0 < em.roundedMantissa) :
    roundWithAccuracy spec s m e acc = .finite s em.roundedMantissa e' hpos := by
  unfold roundWithAccuracy
  rw [h]
  dsimp only
  rw [canonical.shiftToTargetExponent hpos]
  exact dif_neg hpos.ne'

theorem roundWithAccuracy_of_carry
    (h : UnpackedFloat.shiftToTargetExponent spec m e acc = (em, e'))
    (hcarry : em.roundedMantissa = 2 ^ spec.mantissaBits) (he : spec.minExponent ≤ e') :
    roundWithAccuracy spec s m e acc =
      .finite s (2 ^ spec.mantissaBitsWithoutImplicit) (e' + 1) (Nat.two_pow_pos _) := by
  unfold roundWithAccuracy
  rw [h]
  dsimp only
  rw [hcarry, shiftToTargetExponent_two_pow he]
  exact dif_neg (Nat.two_pow_pos _).ne'

theorem mantissa_ofMantissaAndAccuracy (m : Nat) (acc : Accuracy) :
    (ExtendedMantissa.ofMantissaAndAccuracy m acc).mantissa = m := by
  rcases acc with _ | ⟨⟨⟩⟩ <;> rfl

/-- What fits exactly stays as it is. -/
theorem Canonical.roundWithAccuracy_exact (canonical : Canonical spec m e) (hm : 0 < m) :
    roundWithAccuracy spec s m e .exact = .finite s m e hm :=
  roundWithAccuracy_of_canonical s (canonical.shiftToTargetExponent hm .exact) canonical hm

/-- **Rounding digits that fit.** They stay or grow by one, and then they may carry. -/
theorem Canonical.roundWithAccuracy_cases (canonical : Canonical spec m e) (hm : 0 < m)
    (acc : Accuracy) :
    ∃ m', (m' = m ∨ m' = m + 1) ∧
      ((Canonical spec m' e ∧ ∃ hm', roundWithAccuracy spec s m e acc = .finite s m' e hm') ∨
        (m' = 2 ^ spec.mantissaBits ∧ roundWithAccuracy spec s m e acc =
          .finite s (2 ^ spec.mantissaBitsWithoutImplicit) (e + 1) (Nat.two_pow_pos _))) := by
  have hshift := canonical.shiftToTargetExponent hm acc
  have hrounded := roundedMantissa_cases (.ofMantissaAndAccuracy m acc)
  rw [mantissa_ofMantissaAndAccuracy] at hrounded
  obtain ⟨hlt, hle, hleading⟩ := canonical
  refine ⟨_, hrounded, ?_⟩
  by_cases hcarry : (ExtendedMantissa.ofMantissaAndAccuracy m acc).roundedMantissa =
      2 ^ spec.mantissaBits
  · exact .inr ⟨hcarry, roundWithAccuracy_of_carry s hshift hcarry hle⟩
  · have hfit : Canonical spec (ExtendedMantissa.ofMantissaAndAccuracy m acc).roundedMantissa e :=
      ⟨by omega, hle, hleading.imp_left (by omega)⟩
    exact .inl ⟨hfit, by omega, roundWithAccuracy_of_canonical s hshift hfit (by omega)⟩

/-! ## Section 3: Products -/

/-- The order of two factors does not matter. -/
theorem mul_comm (spec : Format) (a b : UnpackedFloat) :
    UnpackedFloat.mul spec a b = UnpackedFloat.mul spec b a := by
  have hsign : ∀ s t : Sign, s * t = t * s := by
    intro s t
    cases s <;> cases t <;> rfl
  cases a <;> cases b <;> simp [UnpackedFloat.mul, hsign, Nat.mul_comm, Int.add_comm]

/-- The number one. -/
def one (spec : Format) : UnpackedFloat :=
  .finite .positive (2 ^ spec.mantissaBitsWithoutImplicit) (-spec.mantissaBitsWithoutImplicit)
    (Nat.two_pow_pos _)

/-- **One times a number is that number.** -/
theorem one_mul_unpack (b : BitVec spec.numBits) :
    UnpackedFloat.mul spec (one spec) (UnpackedFloat.unpack spec b) =
      UnpackedFloat.unpack spec b := by
  cases hb : UnpackedFloat.unpack spec b with
  | infinity s => cases s <;> rfl
  | notANumber => rfl
  | zero s => cases s <;> rfl
  | finite s m e hm =>
    have canonical : Canonical spec m e := canonical_of_unpack hb
    have hshift := canonical.shiftToTargetExponent_two_pow_mul hm spec.mantissaBitsWithoutImplicit
    have hround := roundWithAccuracy_of_canonical s hshift canonical hm
    cases s <;> exact hround

end rounding

end Planetarium.Numeral
