import Planetarium.Numeral.Single
import Planetarium.Proofs.Numeral.Canonical

/-! # Zeros, ones and undefined numbers

    A product with one and a sum with zero give back what they are made of, up to the
    sign of a zero.  A product with zero is a zero as long as the other factor is
    finite, and undefined if it is not.

    * `Agrees`: two numbers are equal as numbers, or both undefined.
    * `Agrees.add`: sums do not tell apart what agrees.
    * `one_mul`, `add_zero`, `zero_add`: what ones and zeros leave as it is.
    * `zero_mul`, `isNaN_zero_mul`: when a product with zero is a zero. -/

namespace Planetarium.Numeral.Single

open Float.Model
open Float.Model.UnpackedFloat (Sign)

/-! ## Section 1: Parts -/

/-- Two numbers by their parts, where the sign of a zero does not count. -/
def SameParts (a b : UnpackedFloat) : Prop := a = b ∨ ∃ s t, a = .zero s ∧ b = .zero t

namespace SameParts
variable {a b a' b' c : UnpackedFloat}

theorem refl (a : UnpackedFloat) : SameParts a a := .inl rfl

theorem trans (h : SameParts a b) (h' : SameParts b c) : SameParts a c := by
  rcases h with rfl | ⟨s, t, rfl, rfl⟩
  · exact h'
  · rcases h' with rfl | ⟨_, u, _, rfl⟩
    · exact .inr ⟨s, t, rfl, rfl⟩
    · exact .inr ⟨s, u, rfl, rfl⟩

theorem symm (h : SameParts a b) : SameParts b a := by
  rcases h with rfl | ⟨s, t, rfl, rfl⟩
  · exact .refl a
  · exact .inr ⟨t, s, rfl, rfl⟩

/-- A sum of zeros is a zero. -/
theorem zero_add_zero (spec : Format) (s t : Sign) :
    ∃ u, UnpackedFloat.add spec (.zero s) (.zero t) = .zero u := by
  cases s <;> cases t <;> exact ⟨_, rfl⟩

/-- A zero adds nothing. -/
theorem add_zero (spec : Format) (a : UnpackedFloat) (s : Sign) :
    SameParts (a.add spec (.zero s)) a := by
  cases a with
  | zero t =>
    obtain ⟨u, hu⟩ := zero_add_zero spec t s
    exact .inr ⟨u, t, hu, rfl⟩
  | infinity t => exact .refl _
  | notANumber => exact .refl _
  | finite t m e hm => exact .refl _

theorem zero_add (spec : Format) (a : UnpackedFloat) (s : Sign) :
    SameParts (UnpackedFloat.add spec (.zero s) a) a := by
  cases a with
  | zero t =>
    obtain ⟨u, hu⟩ := zero_add_zero spec s t
    exact .inr ⟨u, t, hu, rfl⟩
  | infinity t => exact .refl _
  | notANumber => exact .refl _
  | finite t m e hm => exact .refl _

theorem add (spec : Format) (h : SameParts a a') (h' : SameParts b b') :
    SameParts (a.add spec b) (a'.add spec b') := by
  rcases h with rfl | ⟨s, t, rfl, rfl⟩
  · rcases h' with rfl | ⟨s, t, rfl, rfl⟩
    · exact .refl _
    · exact (add_zero spec a s).trans (add_zero spec a t).symm
  · exact ((zero_add spec b s).trans h').trans (zero_add spec b' t).symm

end SameParts

/-! ## Section 2: Numbers that agree -/

/-- Two numbers are equal, or both undefined. -/
def Agrees (x y : Float32) : Prop := (x == y) = true ∨ (x.isNaN = true ∧ y.isNaN = true)

theorem isNaN_iff (x : Float32) : x.isNaN = true ↔ x.toModel.unpack = .notANumber :=
  UnpackedFloat.isNaN_iff

/-- A number is packed from the parts that it unpacks to. -/
theorem pack_unpack (x : Float32) : (⟨.pack x.toModel.unpack⟩ : Float32) = x := by
  obtain ⟨⟨⟨bits⟩, valid⟩⟩ := x
  have hbits : UnpackedFloat.pack .binary32 (UnpackedFloat.unpack .binary32 bits) = bits :=
    UnpackedFloat.pack_unpack_of_valid valid
  simp only [Float32.Model.pack, Float32.Model.unpack, hbits]

theorem unpack_pack_zero (s : Sign) : (Float32.Model.pack (.zero s)).unpack = .zero s :=
  UnpackedFloat.unpack_packedZero

theorem unpack_pack_notANumber : (Float32.Model.pack .notANumber).unpack = .notANumber :=
  UnpackedFloat.unpack_packedNaN

theorem agrees_iff (x y : Float32) :
    Agrees x y ↔ SameParts x.toModel.unpack y.toModel.unpack := by
  unfold Agrees
  rw [isNaN_iff, isNaN_iff]
  show (x.toModel.unpack.beq y.toModel.unpack) = true ∨ _ ↔ _
  rw [UnpackedFloat.beq_iff_ne_notANumber_and_eq]
  constructor
  · rintro (⟨-, -, h | ⟨h, h'⟩ | ⟨h, h'⟩⟩ | ⟨h, h'⟩)
    · exact .inl h
    · exact .inr ⟨_, _, h, h'⟩
    · exact .inr ⟨_, _, h, h'⟩
    · exact .inl (h.trans h'.symm)
  · rintro (h | ⟨s, t, h, h'⟩)
    · by_cases hnan : x.toModel.unpack = .notANumber
      · exact .inr ⟨hnan, h ▸ hnan⟩
      · exact .inl ⟨hnan, h ▸ hnan, .inl h⟩
    · refine .inl ⟨by simp [h], by simp [h'], ?_⟩
      cases s <;> cases t <;> simp [h, h']

/-- Numbers packed from parts that differ in the sign of a zero at most. -/
theorem agrees_pack {a b : UnpackedFloat} (h : SameParts a b) :
    Agrees ⟨.pack a⟩ ⟨.pack b⟩ := by
  rw [agrees_iff]
  rcases h with rfl | ⟨s, t, rfl, rfl⟩
  · exact .refl _
  · exact .inr ⟨s, t, unpack_pack_zero s, unpack_pack_zero t⟩

theorem agrees_of_sameParts {a : UnpackedFloat} {x : Float32} (h : SameParts a x.toModel.unpack) :
    Agrees ⟨.pack a⟩ x := by
  have hpack := agrees_pack h
  rwa [pack_unpack] at hpack

namespace Agrees
variable {x y z x' y' : Float32}

theorem refl (x : Float32) : Agrees x x := (agrees_iff x x).mpr (.refl _)

theorem symm (h : Agrees x y) : Agrees y x := (agrees_iff y x).mpr ((agrees_iff x y).mp h).symm

theorem trans (h : Agrees x y) (h' : Agrees y z) : Agrees x z :=
  (agrees_iff x z).mpr (((agrees_iff x y).mp h).trans ((agrees_iff y z).mp h'))

/-- **Sums of what agrees agree.** -/
theorem add (h : Agrees x x') (h' : Agrees y y') : Agrees (x + y) (x' + y') :=
  agrees_pack (((agrees_iff x x').mp h).add .binary32 ((agrees_iff y y').mp h'))

/-- Only one number is undefined. -/
theorem isNaN_iff (h : Agrees x y) : x.isNaN = true ↔ y.isNaN = true := by
  rw [Single.isNaN_iff, Single.isNaN_iff]
  rcases (agrees_iff x y).mp h with h | ⟨s, t, h, h'⟩
  · rw [h]
  · simp [h, h']

end Agrees

theorem agrees_of_isNaN {x y : Float32} (hx : x.isNaN = true) (hy : y.isNaN = true) :
    Agrees x y := .inr ⟨hx, hy⟩

/-! ## Section 3: Finite numbers -/

/-- A number is finite unless its parts say otherwise. -/
theorem isFinite_iff (x : Float32) :
    isFinite x = true ↔
      x.toModel.unpack ≠ .notANumber ∧ ∀ s, x.toModel.unpack ≠ .infinity s := by
  obtain ⟨⟨⟨bits⟩, valid⟩⟩ := x
  have hbits : isFinite ⟨⟨⟨bits⟩, valid⟩⟩ = true ↔
      @UnpackedFloat.unpackExponent .binary32 bits ≠ -1#8 := by
    have hexponent : (@UnpackedFloat.unpackExponent .binary32 bits).toNat =
        (bits.toNat >>> 23) % 256 := by
      rw [UnpackedFloat.unpackExponent_def, BitVec.extractLsb'_toNat]
      rfl
    show decide ((bits.toNat >>> 23) % 256 ≠ 255) = true ↔ _
    rw [decide_eq_true_iff, ← hexponent, ne_eq, ne_eq, ← BitVec.toNat_inj]
    rfl
  rw [hbits]
  show _ ↔ UnpackedFloat.unpack .binary32 bits ≠ _ ∧ ∀ s, UnpackedFloat.unpack .binary32 bits ≠ _
  unfold UnpackedFloat.unpack
  dsimp only
  constructor
  · intro h
    rw [if_neg h]
    split
    · split <;> simp
    · simp
  · rintro ⟨hnan, hinf⟩ h
    rw [if_pos h] at hnan hinf
    split at hnan
    · next hzero => exact hinf _ (if_pos hzero)
    · exact hnan rfl

theorem not_isFinite_of_isNaN {x : Float32} (h : x.isNaN = true) : ¬ isFinite x = true :=
  fun hfinite => ((isFinite_iff x).mp hfinite).1 ((isNaN_iff x).mp h)

theorem Agrees.isFinite_iff {x y : Float32} (h : Agrees x y) :
    isFinite x = true ↔ isFinite y = true := by
  rw [Single.isFinite_iff, Single.isFinite_iff]
  rcases (agrees_iff x y).mp h with h | ⟨s, t, h, h'⟩
  · rw [h]
  · simp [h, h']

/-! ## Section 4: Ones and zeros -/

section laws
variable (x y : Float32)

theorem unpack_zero : (0 : Float32).toModel.unpack = .zero .positive := rfl

/-- **One times a number is that number**, with the same sign. -/
theorem one_mul : 1 * x = x := by
  have hparts : UnpackedFloat.mul .binary32 (1 : Float32).toModel.unpack x.toModel.unpack =
      x.toModel.unpack := @one_mul_unpack .binary32 _
  calc 1 * x = ⟨.pack (UnpackedFloat.mul .binary32 (1 : Float32).toModel.unpack
          x.toModel.unpack)⟩ := rfl
    _ = ⟨.pack x.toModel.unpack⟩ := by rw [hparts]
    _ = x := pack_unpack x

theorem add_zero : Agrees (x + 0) x :=
  agrees_of_sameParts (.add_zero .binary32 x.toModel.unpack .positive)

theorem zero_add : Agrees (0 + x) x :=
  agrees_of_sameParts (.zero_add .binary32 x.toModel.unpack .positive)

variable {x y}

/-- What agrees with zero adds nothing. -/
theorem Agrees.add_right (h : Agrees y 0) : Agrees (x + y) x :=
  ((Agrees.refl x).add h).trans (add_zero x)

theorem Agrees.add_left (h : Agrees y 0) : Agrees (y + x) x :=
  (h.add (Agrees.refl x)).trans (zero_add x)

theorem zero_mul (h : isFinite x = true) : Agrees (0 * x) 0 := by
  obtain ⟨hnan, hinf⟩ := (isFinite_iff x).mp h
  refine agrees_of_sameParts ?_
  rw [unpack_zero]
  cases hx : x.toModel.unpack with
  | infinity s => exact absurd hx (hinf s)
  | notANumber => exact absurd hx hnan
  | zero s => exact .inr ⟨_, _, rfl, rfl⟩
  | finite s m e hm => exact .inr ⟨_, _, rfl, rfl⟩

/-- A product with zero is undefined if the other factor is not finite. -/
theorem isNaN_zero_mul (h : ¬ isFinite x = true) : (0 * x).isNaN = true := by
  have hmul : UnpackedFloat.mul .binary32 (0 : Float32).toModel.unpack x.toModel.unpack =
      .notANumber := by
    rw [isFinite_iff, not_and_or] at h
    rw [unpack_zero]
    cases hx : x.toModel.unpack with
    | infinity s => rfl
    | notANumber => rfl
    | zero s => simp [hx] at h
    | finite s m e hm => simp [hx] at h
  rw [isNaN_iff]
  show (Float32.Model.pack _).unpack = _
  rw [hmul, unpack_pack_notANumber]

/-- An undefined number makes a sum undefined. -/
theorem isNaN_add (h : x.isNaN = true ∨ y.isNaN = true) : (x + y).isNaN = true := by
  have hadd : UnpackedFloat.add .binary32 x.toModel.unpack y.toModel.unpack = .notANumber := by
    rw [isNaN_iff, isNaN_iff] at h
    rcases h with h | h <;> rw [h]
    · rfl
    · cases x.toModel.unpack <;> rfl
  rw [isNaN_iff]
  show (Float32.Model.pack _).unpack = _
  rw [hadd, unpack_pack_notANumber]

/-- The order of two factors does not matter. -/
theorem mul_comm (x y : Float32) : x * y = y * x :=
  congrArg (fun a => (⟨.pack a⟩ : Float32))
    (Numeral.mul_comm .binary32 x.toModel.unpack y.toModel.unpack)

end laws

end Planetarium.Numeral.Single
