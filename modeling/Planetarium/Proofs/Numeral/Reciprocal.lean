import Planetarium.Proofs.Numeral.Canonical
import Planetarium.Show.Clock

/-! # Reciprocals

    The reciprocal of a whole number in double precision is off by one unit in the last
    of its digits at most.

    * `unpack_ofNat`: a whole number is exact.
    * `unpack_reciprocal`: its reciprocal is nearly so.
    * `Clock.fraction_eq`: how the parts of a number are read from its bits. -/

namespace Planetarium

namespace Numeral

open Float.Model

theorem log2_le {n : Nat} (hpos : 0 < n) (hn : n < 2 ^ 53) : n.log2 ≤ 52 :=
  Nat.lt_succ_iff.mp ((Nat.log2_lt hpos.ne').mpr hn)

/-- A whole number has fewer digits than fit. -/
theorem canonical_ofNat {n : Nat} (hpos : 0 < n) (hn : n < 2 ^ 53) :
    Canonical .binary64 (2 ^ (52 - n.log2) * n) (-(52 - n.log2 : Nat)) ∧
    2 ^ 52 ≤ 2 ^ (52 - n.log2) * n := by
  obtain ⟨hle, hlt⟩ := (Nat.log2_eq_iff hpos.ne').mp rfl
  have hlog := log2_le hpos hn
  have hlow : 2 ^ 52 ≤ 2 ^ (52 - n.log2) * n := by
    calc 2 ^ 52 = 2 ^ (52 - n.log2) * 2 ^ n.log2 := by rw [← Nat.pow_add]; congr 1; omega
      _ ≤ 2 ^ (52 - n.log2) * n := Nat.mul_le_mul_left _ hle
  have hhigh : 2 ^ (52 - n.log2) * n < 2 ^ 53 := by
    calc 2 ^ (52 - n.log2) * n < 2 ^ (52 - n.log2) * 2 ^ (n.log2 + 1) :=
          Nat.mul_lt_mul_of_pos_left hlt (Nat.two_pow_pos _)
      _ = 2 ^ 53 := by rw [← Nat.pow_add]; congr 1; omega
  have hmin : Format.binary64.minExponent = -1074 := by decide
  exact ⟨⟨hhigh, by omega, .inl hlow⟩, hlow⟩

/-- Double precision has room for every number that is met here. -/
theorem unpack_pack_double {m : Nat} {k : Nat} (canonical : Canonical .binary64 m (-k))
    (hm : 0 < m) (hleading : 2 ^ 52 ≤ m) :
    (Float.Model.pack (.finite .positive m (-k) hm)).unpack = .finite .positive m (-k) hm := by
  refine unpack_pack_of_canonical canonical .positive hm hleading ?_
  show -(k : Int) + 1023 + 52 + 1 < (2048 : Nat)
  omega

/-- Rounding a whole number leaves it as it is. -/
theorem ofNat_eq {n : Nat} (hpos : 0 < n) (hn : n < 2 ^ 53) (hm : 0 < 2 ^ (52 - n.log2) * n) :
    UnpackedFloat.ofNat .binary64 n =
      .finite .positive (2 ^ (52 - n.log2) * n) (-(52 - n.log2 : Nat)) hm := by
  obtain ⟨canonical, -⟩ := canonical_ofNat hpos hn
  have hlog := log2_le hpos hn
  have htarget : Format.binary64.targetExponent (totalExponent n 0) = -(52 - n.log2 : Nat) := by
    have hmin : Format.binary64.minExponent = -1074 := by decide
    have hbits : Format.binary64.mantissaBits = 53 := rfl
    unfold Format.targetExponent totalExponent
    omega
  have hgreater : compare (n : Int) 0 = .gt := compare_gt_iff_gt.mpr (by omega)
  have hshift : (0 - -((52 - n.log2 : Nat) : Int)).toNat = 52 - n.log2 := by omega
  have hexponent : (0 : Int) - (52 - n.log2 : Nat) = -(52 - n.log2 : Nat) := by omega
  show UnpackedFloat.normalize .binary64 n 0 .positive = _
  unfold UnpackedFloat.normalize
  rw [hgreater]
  dsimp only
  rw [Int.toNat_natCast]
  unfold UnpackedFloat.round UnpackedFloat.decreaseExponent
  rw [htarget]
  dsimp only
  rw [hshift, hexponent, Nat.shiftLeft_eq, Nat.mul_comm]
  exact canonical.roundWithAccuracy_exact .positive hm

/-- **A whole number is exact.** -/
theorem unpack_ofNat {n : Nat} (hpos : 0 < n) (hn : n < 2 ^ 53) (hm : 0 < 2 ^ (52 - n.log2) * n) :
    (Float.ofNat n).toModel.unpack =
      .finite .positive (2 ^ (52 - n.log2) * n) (-(52 - n.log2 : Nat)) hm := by
  obtain ⟨canonical, hleading⟩ := canonical_ofNat hpos hn
  have hpack := unpack_pack_double canonical hm hleading
  have hcast : n.toUInt64.toNat = n := UInt64.toNat_ofNat_of_lt' (by
    show n < 2 ^ 64
    omega)
  have hfloat : n.toUInt64.toFloat.toModel.unpack =
      .finite .positive (2 ^ (52 - n.log2) * n) (-(52 - n.log2 : Nat)) hm := by
    show (Float.Model.pack (UnpackedFloat.ofNat .binary64 n.toUInt64.toNat)).unpack = _
    rw [hcast, ofNat_eq hpos hn hm, hpack]
  -- It is then multiplied by one.
  have hmul : Float.ofNat n = n.toUInt64.toFloat * .ofBits 4607182418800017408 := by
    show Float.ofScientific n false 0 = _
    unfold Float.ofScientific
    rw [dif_pos ⟨hn, by decide⟩]
    rfl
  have hone : (Float.ofBits 4607182418800017408).toModel.unpack = one .binary64 := rfl
  rw [hmul]
  show (Float.Model.pack (UnpackedFloat.mul .binary64 n.toUInt64.toFloat.toModel.unpack
    (Float.ofBits 4607182418800017408).toModel.unpack)).unpack = _
  have hsame : UnpackedFloat.mul .binary64 (one .binary64) n.toUInt64.toFloat.toModel.unpack =
      n.toUInt64.toFloat.toModel.unpack := @one_mul_unpack .binary64 _
  rw [hone, Numeral.mul_comm, hsame, hfloat, hpack]

/-- The quotient that the reciprocal is rounded from. -/
theorem divCore_one {n : Nat} (hpos : 0 < n) (hn : n < 2 ^ 53) :
    UnpackedFloat.divCore .binary64 (2 ^ 52) (-52) (2 ^ (52 - n.log2) * n)
        (-(52 - n.log2 : Nat)) =
      (2 ^ 105 / (2 ^ (52 - n.log2) * n), (-(n.log2 + 53 : Nat) : Int),
        UnpackedFloat.accuracyOfFraction (2 ^ 105 % (2 ^ (52 - n.log2) * n))
          (2 ^ (52 - n.log2) * n)) := by
  obtain ⟨canonical, hleading⟩ := canonical_ofNat hpos hn
  have hlog := log2_le hpos hn
  have hbits : (2 ^ (52 - n.log2) * n).log2 = 52 :=
    (Nat.log2_eq_iff (by omega)).mpr ⟨hleading, canonical.lt⟩
  have htarget : min ((-52 : Int) - -((52 - n.log2 : Nat) : Int))
      (Format.binary64.targetExponent (totalExponent (2 ^ 52) (-52) -
        totalExponent (2 ^ (52 - n.log2) * n) (-(52 - n.log2 : Nat)))) =
      -(n.log2 + 53 : Nat) := by
    have hmin : Format.binary64.minExponent = -1074 := by decide
    have hmantissa : Format.binary64.mantissaBits = 53 := rfl
    unfold Format.targetExponent totalExponent
    rw [hbits, Nat.log2_two_pow]
    omega
  have hshift : ((-52 : Int) - -((52 - n.log2 : Nat) : Int) - -((n.log2 + 53 : Nat) : Int)).toNat =
      53 := by omega
  unfold UnpackedFloat.divCore
  dsimp only
  rw [htarget, hshift, Nat.shiftLeft_eq, ← Nat.pow_add]

/-- A quotient that is rounded keeps its distance from what it stands for. -/
theorem exists_rounded {n q k : Nat} {acc : UnpackedFloat.Accuracy} (hk : 1 ≤ k) (hkmax : k ≤ 1074)
    (hlow : 2 ^ 52 ≤ q) (hle : q * n ≤ 2 ^ k) (hlt : 2 ^ k < (q + 1) * n)
    (hhigh : q < 2 ^ 53 ∨ (q = 2 ^ 53 ∧ acc = .exact)) :
    ∃ (m j : Nat) (hm : 0 < m),
      UnpackedFloat.roundWithAccuracy .binary64 .positive q (-k) acc =
        .finite .positive m (-j) hm ∧
      Canonical .binary64 m (-j) ∧ 2 ^ 52 ≤ m ∧ 2 ^ j ≤ m * n + n ∧ m * n ≤ 2 ^ j + n := by
  have hmin : Format.binary64.minExponent = -1074 := by decide
  have hmantissa : 2 ^ Format.binary64.mantissaBits = 2 ^ 53 := rfl
  have hhalf : 2 ^ k = 2 * 2 ^ (k - 1) := by
    rw [← Nat.pow_succ']
    congr 1
    omega
  have hexponent : -(k : Int) + 1 = -(k - 1 : Nat) := by omega
  -- One digit less, if there was a carry.
  have hcarried : Canonical .binary64 (2 ^ 52) (-(k - 1 : Nat)) :=
    ⟨by decide, by omega, .inl (Nat.le_refl _)⟩
  rw [Nat.succ_mul] at hlt
  rcases hhigh with hhigh | ⟨rfl, rfl⟩
  · have canonical : Canonical .binary64 q (-k) := ⟨hhigh, by omega, .inl hlow⟩
    obtain ⟨m, hm, ⟨hfit, hpos, hround⟩ | ⟨hcarry, hround⟩⟩ :=
      canonical.roundWithAccuracy_cases .positive (by omega) acc
    · refine ⟨m, k, hpos, hround, hfit, by omega, ?_⟩
      rcases hm with rfl | rfl
      · omega
      · rw [Nat.succ_mul]
        omega
    · rw [hexponent] at hround
      have hall : q * n + n = 2 ^ 53 * n := by
        rw [← Nat.succ_mul]
        congr 1
        omega
      exact ⟨2 ^ 52, k - 1, by decide, hround, hcarried, Nat.le_refl _, by omega, by omega⟩
  · have hshift := @shiftToTargetExponent_two_pow .binary64 (-k) (by omega)
    rw [hexponent] at hshift
    have hround := roundWithAccuracy_of_canonical .positive hshift hcarried (by decide)
    exact ⟨2 ^ 52, k - 1, by decide, hround, hcarried, Nat.le_refl _, by omega, by omega⟩

/-- The quotient by the digits of a number is the one by the number itself, with as many
    zeros behind it; it has the digits that double precision has, or is a power of two. -/
theorem quotient_bounds {n : Nat} (hpos : 0 < n) (hn : n < 2 ^ 53) {d q : Nat}
    (hd : d = 2 ^ (52 - n.log2) * n) (hq : q = 2 ^ 105 / d) :
    2 ^ 52 ≤ q ∧ q * n ≤ 2 ^ (n.log2 + 53) ∧ 2 ^ (n.log2 + 53) < (q + 1) * n ∧
    (q < 2 ^ 53 ∨ (q = 2 ^ 53 ∧ UnpackedFloat.accuracyOfFraction (2 ^ 105 % d) d = .exact)) := by
  obtain ⟨canonical, hleading⟩ := canonical_ofNat hpos hn
  have hlog := log2_le hpos hn
  have hwidth : d < 2 ^ 53 := hd ▸ canonical.lt
  rw [← hd] at hleading
  have hdigits : 0 < d := by omega
  have hpow : 2 ^ 105 = 2 ^ (52 - n.log2) * 2 ^ (n.log2 + 53) := by
    rw [← Nat.pow_add]
    congr 1
    omega
  have hscale : ∀ k, k * d = 2 ^ (52 - n.log2) * (k * n) := by
    intro k
    rw [hd, Nat.mul_left_comm]
  refine ⟨?_, ?_, ?_, ?_⟩
  · rw [hq, Nat.le_div_iff_mul_le hdigits]
    omega
  · refine Nat.le_of_mul_le_mul_left ?_ (Nat.two_pow_pos (52 - n.log2))
    rw [← hpow, ← hscale, hq]
    exact Nat.div_mul_le_self _ _
  · refine Nat.lt_of_mul_lt_mul_left (a := 2 ^ (52 - n.log2)) ?_
    rw [← hpow, ← hscale, hq, Nat.mul_comm]
    exact Nat.lt_mul_div_succ _ hdigits
  · rcases Nat.eq_or_lt_of_le hleading with rfl | hgt
    · exact .inr ⟨hq.trans (by decide), rfl⟩
    · rw [hq, Nat.div_lt_iff_lt_mul hdigits]
      exact .inl (by omega)

/-- **The reciprocal of a whole number** is off by one unit of its digits at most. -/
theorem unpack_reciprocal {n : Nat} (hpos : 0 < n) (hn : n < 2 ^ 53) :
    ∃ (m k : Nat) (hm : 0 < m),
      (1 / Float.ofNat n).toModel.unpack = .finite .positive m (-k) hm ∧
      2 ^ 52 ≤ m ∧ 2 ^ k ≤ m * n + n ∧ m * n ≤ 2 ^ k + n := by
  obtain ⟨hlow, hle, hlt, hhigh⟩ := quotient_bounds hpos hn rfl rfl
  have hlog := log2_le hpos hn
  have hdigits : 0 < 2 ^ (52 - n.log2) * n := Nat.mul_pos (Nat.two_pow_pos _) hpos
  obtain ⟨m, k, hm, hround, hfit, hleast, hbounds⟩ :=
    exists_rounded (by omega) (by omega) hlow hle hlt hhigh
  refine ⟨m, k, hm, ?_, hleast, hbounds⟩
  show (Float.Model.pack (UnpackedFloat.div .binary64 (one .binary64)
    (Float.ofNat n).toModel.unpack)).unpack = _
  rw [unpack_ofNat hpos hn hdigits]
  show (Float.Model.pack (match UnpackedFloat.divCore .binary64 (2 ^ 52) (-52)
      (2 ^ (52 - n.log2) * n) (-(52 - n.log2 : Nat)) with
    | (m, e, acc) => UnpackedFloat.roundWithAccuracy .binary64 .positive m e acc)).unpack = _
  rw [divCore_one hpos hn]
  dsimp only
  rw [hround]
  exact unpack_pack_double hfit hm hleast

theorem roundDiv_eq_zero_iff {num den : Nat} (hden : 0 < den) :
    roundDiv num den = 0 ↔ 2 * num ≤ den := by
  unfold roundDiv
  by_cases hlt : num < den
  · -- What is left over is the number itself.
    have hq : num / den = 0 := Nat.div_eq_of_lt hlt
    have hr : num % den = num := Nat.mod_eq_of_lt hlt
    rw [hq, hr]
    simp
  · have hq : 0 < num / den := Nat.div_pos (by omega) hden
    dsimp only
    split <;> omega

end Numeral

namespace Clock

open Float.Model

/-- The parts of a number that is not greater than its digits. -/
theorem fraction_eq {x : Float} {m k : Nat} {hm : 0 < m}
    (h : x.toModel.unpack = .finite .positive m (-k) hm) : fraction x = (m, k) := by
  obtain ⟨⟨⟨bits⟩, valid⟩⟩ := x
  have hexponent : (@UnpackedFloat.unpackExponent .binary64 bits).toNat =
      (bits.toNat >>> 52) % 2048 := by
    rw [UnpackedFloat.unpackExponent_def, BitVec.extractLsb'_toNat]
    rfl
  have hmantissa : (@UnpackedFloat.unpackMantissa .binary64 bits).toNat =
      bits.toNat % 0x10000000000000 := by
    rw [UnpackedFloat.unpackMantissa_def, BitVec.extractLsb'_toNat]
    rfl
  have hbits : fraction ⟨⟨⟨bits⟩, valid⟩⟩ =
      if (bits.toNat >>> 52) % 2048 = 0 then (bits.toNat % 0x10000000000000, 1074)
      else (bits.toNat % 0x10000000000000 + 0x10000000000000, 1075 - (bits.toNat >>> 52) % 2048) :=
    rfl
  have hunpack : UnpackedFloat.unpack .binary64 bits = .finite .positive m (-k) hm := h
  rw [hbits, ← hexponent, ← hmantissa]
  unfold UnpackedFloat.unpack at hunpack
  dsimp only at hunpack
  have hbias : Format.binary64.exponentBias = 1023 := by decide
  rw [hbias] at hunpack
  split at hunpack
  · split at hunpack <;> cases hunpack
  · split at hunpack
    · next hzero =>
      split at hunpack
      · cases hunpack
      · injection hunpack with _ hm he
        rw [hzero] at he ⊢
        simp at he ⊢
        omega
    · next hzero =>
      injection hunpack with _ hm he
      rw [Numeral.toNat_one_append] at hm
      have hone : 2 ^ Format.binary64.mantissaBitsWithoutImplicit = 0x10000000000000 := by decide
      have hpos : (@UnpackedFloat.unpackExponent .binary64 bits).toNat ≠ 0 :=
        fun h => hzero (BitVec.eq_of_toNat_eq h)
      rw [if_neg hpos, Prod.mk.injEq]
      omega

/-- **The period is zero exactly for rates above two thousand million.** -/
theorem period_eq_zero_iff {rate : Nat} (hpos : 1 ≤ rate) (hrate : rate < 2 ^ 52) :
    period rate = 0 ↔ 2000000000 < rate := by
  obtain ⟨m, k, hm, hparts, hleast, hlow, hhigh⟩ :=
    Numeral.unpack_reciprocal hpos (by omega : rate < 2 ^ 53)
  have hperiod : period rate = Numeral.roundDiv (m * second) (1 <<< k) := by
    unfold period
    rw [Nat.max_eq_left hpos, fraction_eq hparts]
  have hden : (1 <<< k : Nat) = 2 ^ k := by rw [Nat.shiftLeft_eq, Nat.one_mul]
  by_cases heven : rate = 2000000000
  · -- Half a nanosecond is rounded up, since the reciprocal is a little above it.
    subst heven
    have hone : period 2000000000 = 1 := by decide +kernel
    simp [hone]
  · rw [hperiod, hden, Numeral.roundDiv_eq_zero_iff (Nat.two_pow_pos k)]
    unfold second
    rcases Nat.lt_or_gt_of_ne heven with hless | hmore
    · have hproduct : m * rate ≤ m * 1999999999 := Nat.mul_le_mul_left m (by omega)
      omega
    · have hproduct : m * 2000000001 ≤ m * rate := Nat.mul_le_mul_left m (by omega)
      omega

end Clock

end Planetarium
