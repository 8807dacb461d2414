import Planetarium.Geometry.Mat4
import Planetarium.Proofs.Numeral.Classes

/-! # Placements

    An object at the top is placed by its own matrix, after which the identity is
    applied, and its place in the world is the image of the origin.

    Nothing of this changes the last column as long as every entry is finite.  An entry
    that is not makes other coordinates undefined: zeros are multiplied, not left out.

    * `Mat4.identity_apply_agrees`, `Mat4.identity_apply_isNaN`: the image of a column.
    * `Mat4.originImage_agrees_iff`: when the image of the origin is the last column. -/

namespace Planetarium

open Numeral.Single

/-! ## Section 1: Columns -/

/-- All entries of a column are finite. -/
structure Vec4.Finite (v : Vec4) : Prop where
  x : isFinite v.x = true
  y : isFinite v.y = true
  z : isFinite v.z = true
  w : isFinite v.w = true

/-- Two vectors agree in every coordinate. -/
structure Vec3.Agrees (u v : Vec3) : Prop where
  x : Numeral.Single.Agrees u.x v.x
  y : Numeral.Single.Agrees u.y v.y
  z : Numeral.Single.Agrees u.z v.z

namespace Vec3.Agrees
variable {u v w : Vec3}

theorem symm (h : u.Agrees v) : v.Agrees u := ⟨h.x.symm, h.y.symm, h.z.symm⟩

theorem trans (h : u.Agrees v) (h' : v.Agrees w) : u.Agrees w :=
  ⟨h.x.trans h'.x, h.y.trans h'.y, h.z.trans h'.z⟩

end Vec3.Agrees

/-- Every coordinate is undefined. -/
structure Vec3.Undefined (v : Vec3) : Prop where
  x : v.x.isNaN = true
  y : v.y.isNaN = true
  z : v.z.isNaN = true

/-- The first three entries of a column. -/
def Vec4.toVec3 (v : Vec4) : Vec3 := ⟨v.x, v.y, v.z⟩

namespace Mat4

/-- All entries of a matrix are finite. -/
structure Finite (m : Mat4) : Prop where
  c0 : m.c0.Finite
  c1 : m.c1.Finite
  c2 : m.c2.Finite
  c3 : m.c3.Finite

section columns
variable {v : Vec4}

theorem identity_apply_x (v : Vec4) :
    (identity.apply v).x = ((v.x + 0 * v.y) + 0 * v.z) + 0 * v.w :=
  congrArg (fun x => ((x + 0 * v.y) + 0 * v.z) + 0 * v.w) (one_mul v.x)

theorem identity_apply_y (v : Vec4) :
    (identity.apply v).y = ((0 * v.x + v.y) + 0 * v.z) + 0 * v.w :=
  congrArg (fun y => ((0 * v.x + y) + 0 * v.z) + 0 * v.w) (one_mul v.y)

theorem identity_apply_z (v : Vec4) :
    (identity.apply v).z = ((0 * v.x + 0 * v.y) + v.z) + 0 * v.w :=
  congrArg (fun z => ((0 * v.x + 0 * v.y) + z) + 0 * v.w) (one_mul v.z)

theorem identity_apply_x_agrees (hy : isFinite v.y = true) (hz : isFinite v.z = true)
    (hw : isFinite v.w = true) : Agrees (identity.apply v).x v.x := by
  rw [identity_apply_x]
  exact (zero_mul hw).add_right.trans ((zero_mul hz).add_right.trans (zero_mul hy).add_right)

theorem identity_apply_y_agrees (hx : isFinite v.x = true) (hz : isFinite v.z = true)
    (hw : isFinite v.w = true) : Agrees (identity.apply v).y v.y := by
  rw [identity_apply_y]
  exact (zero_mul hw).add_right.trans ((zero_mul hz).add_right.trans (zero_mul hx).add_left)

theorem identity_apply_z_agrees (hx : isFinite v.x = true) (hy : isFinite v.y = true)
    (hw : isFinite v.w = true) : Agrees (identity.apply v).z v.z := by
  rw [identity_apply_z]
  exact (zero_mul hw).add_right.trans ((zero_mul hy).add_right.trans (zero_mul hx)).add_left

/-- The identity moves a finite column nowhere. -/
theorem identity_apply_agrees (finite : v.Finite) :
    (identity.apply v).toVec3.Agrees v.toVec3 where
  x := identity_apply_x_agrees finite.y finite.z finite.w
  y := identity_apply_y_agrees finite.x finite.z finite.w
  z := identity_apply_z_agrees finite.x finite.y finite.w

/-- An entry that is not finite makes every other coordinate undefined. -/
theorem identity_apply_isNaN (v : Vec4) :
    (¬ (isFinite v.y = true ∧ isFinite v.z = true ∧ isFinite v.w = true) →
      (identity.apply v).x.isNaN = true) ∧
    (¬ (isFinite v.x = true ∧ isFinite v.z = true ∧ isFinite v.w = true) →
      (identity.apply v).y.isNaN = true) ∧
    (¬ (isFinite v.x = true ∧ isFinite v.y = true ∧ isFinite v.w = true) →
      (identity.apply v).z.isNaN = true) := by
  rw [identity_apply_x, identity_apply_y, identity_apply_z]
  simp only [not_and_or]
  refine ⟨?_, ?_, ?_⟩ <;> rintro (h | h | h) <;> grind -ring -linarith [isNaN_add, isNaN_zero_mul h]

/-- So none of the coordinates is finite then. -/
theorem identity_apply_not_finite (h : ¬ v.Finite) :
    ¬ isFinite (identity.apply v).x = true ∧ ¬ isFinite (identity.apply v).y = true ∧
    ¬ isFinite (identity.apply v).z = true := by
  obtain ⟨hx, hy, hz⟩ := identity_apply_isNaN v
  refine ⟨fun hfinite => ?_, fun hfinite => ?_, fun hfinite => ?_⟩
  · obtain ⟨hfy, hfz, hfw⟩ := not_not.mp fun hnot => not_isFinite_of_isNaN (hx hnot) hfinite
    exact h ⟨(identity_apply_x_agrees hfy hfz hfw).isFinite_iff.mp hfinite, hfy, hfz, hfw⟩
  · obtain ⟨hfx, hfz, hfw⟩ := not_not.mp fun hnot => not_isFinite_of_isNaN (hy hnot) hfinite
    exact h ⟨hfx, (identity_apply_y_agrees hfx hfz hfw).isFinite_iff.mp hfinite, hfz, hfw⟩
  · obtain ⟨hfx, hfy, hfw⟩ := not_not.mp fun hnot => not_isFinite_of_isNaN (hz hnot) hfinite
    exact h ⟨hfx, hfy, (identity_apply_z_agrees hfx hfy hfw).isFinite_iff.mp hfinite, hfw⟩

/-- **What the identity makes of a column.** -/
theorem identity_apply_agrees_iff (hw : isFinite v.w = true) :
    (identity.apply v).toVec3.Agrees v.toVec3 ↔ v.Finite ∨ v.toVec3.Undefined := by
  obtain ⟨hx, hy, hz⟩ := identity_apply_isNaN v
  constructor
  · intro h
    by_cases finite : v.Finite
    · exact .inl finite
    · -- The first entry makes the other two undefined, and they do so to the first.
      have hx' := fun hnot => h.x.isNaN_iff.mp (hx hnot)
      have hnx : ¬ isFinite v.x = true := fun hfx =>
        not_isFinite_of_isNaN (hx' fun hall => finite ⟨hfx, hall.1, hall.2.1, hw⟩) hfx
      have hny : v.y.isNaN = true := h.y.isNaN_iff.mp (hy fun hall => hnx hall.1)
      have hnz : v.z.isNaN = true := h.z.isNaN_iff.mp (hz fun hall => hnx hall.1)
      exact .inr ⟨hx' fun hall => not_isFinite_of_isNaN hny hall.1, hny, hnz⟩
  · rintro (finite | ⟨hnx, hny, hnz⟩)
    · exact identity_apply_agrees finite
    · have hfx := not_isFinite_of_isNaN hnx
      exact ⟨agrees_of_isNaN (hx fun hall => not_isFinite_of_isNaN hny hall.1) hnx,
        agrees_of_isNaN (hy fun hall => hfx hall.1) hny,
        agrees_of_isNaN (hz fun hall => hfx hall.1) hnz⟩

end columns

/-! ## Section 2: The origin -/

section origin
variable {a b c d : Float32}

/-- Finite columns do not count for the image of the origin. -/
theorem sum_agrees (hb : isFinite b = true) (hc : isFinite c = true) (hd : isFinite d = true) :
    Agrees (a + (b * 0 + (c * 0 + d * 0))) a := by
  rw [mul_comm b, mul_comm c, mul_comm d]
  have hsum : Agrees (0 * c + 0 * d) 0 := (zero_mul hd).add_right.trans (zero_mul hc)
  exact Agrees.add_right (hsum.add_right.trans (zero_mul hb))

theorem isNaN_sum (h : ¬ isFinite b = true ∨ ¬ isFinite c = true ∨ ¬ isFinite d = true) :
    (a + (b * 0 + (c * 0 + d * 0))).isNaN = true := by
  rw [mul_comm b, mul_comm c, mul_comm d]
  rcases h with h | h | h <;> grind -ring -linarith [isNaN_add, isNaN_zero_mul h]

end origin

variable {m : Mat4}

/-- **Where an object at the top is.**  Its place in the world is the last column of
    its matrix if all entries are finite, or if the place is undefined anyway. -/
theorem originImage_agrees_iff (hw : isFinite m.c3.w = true) :
    (originImage (identity * m)).Agrees m.c3.toVec3 ↔ m.Finite ∨ m.c3.toVec3.Undefined := by
  by_cases hcolumns : m.c0.Finite ∧ m.c1.Finite ∧ m.c2.Finite
  · -- Finite columns do not count, so all depends on the last one.
    obtain ⟨hc0, hc1, hc2⟩ := hcolumns
    have hm : m.Finite ↔ m.c3.Finite := ⟨fun h => h.c3, fun h => ⟨hc0, hc1, hc2, h⟩⟩
    have h0 := identity_apply_agrees hc0
    have h1 := identity_apply_agrees hc1
    have h2 := identity_apply_agrees hc2
    have hlast : (originImage (identity * m)).Agrees (identity.apply m.c3).toVec3 := by
      constructor
      · exact sum_agrees (h2.x.isFinite_iff.mpr hc2.x) (h1.x.isFinite_iff.mpr hc1.x)
          (h0.x.isFinite_iff.mpr hc0.x)
      · exact sum_agrees (h2.y.isFinite_iff.mpr hc2.y) (h1.y.isFinite_iff.mpr hc1.y)
          (h0.y.isFinite_iff.mpr hc0.y)
      · exact sum_agrees (h2.z.isFinite_iff.mpr hc2.z) (h1.z.isFinite_iff.mpr hc1.z)
          (h0.z.isFinite_iff.mpr hc0.z)
    rw [hm, ← identity_apply_agrees_iff hw]
    exact ⟨hlast.symm.trans, hlast.trans⟩
  · -- Any other column makes every coordinate undefined.
    have hm : ¬ m.Finite := fun h => hcolumns ⟨h.c0, h.c1, h.c2⟩
    have hnan : (originImage (identity * m)).Undefined := by
      rw [not_and_or, not_and_or] at hcolumns
      rcases hcolumns with h | h | h
      · obtain ⟨hx, hy, hz⟩ := identity_apply_not_finite h
        exact ⟨isNaN_sum (.inr (.inr hx)), isNaN_sum (.inr (.inr hy)), isNaN_sum (.inr (.inr hz))⟩
      · obtain ⟨hx, hy, hz⟩ := identity_apply_not_finite h
        exact ⟨isNaN_sum (.inr (.inl hx)), isNaN_sum (.inr (.inl hy)), isNaN_sum (.inr (.inl hz))⟩
      · obtain ⟨hx, hy, hz⟩ := identity_apply_not_finite h
        exact ⟨isNaN_sum (.inl hx), isNaN_sum (.inl hy), isNaN_sum (.inl hz)⟩
    constructor
    · intro h
      exact .inr ⟨h.x.isNaN_iff.mp hnan.x, h.y.isNaN_iff.mp hnan.y, h.z.isNaN_iff.mp hnan.z⟩
    · rintro (h | ⟨hx, hy, hz⟩)
      · exact absurd h hm
      · exact ⟨agrees_of_isNaN hnan.x hx, agrees_of_isNaN hnan.y hy, agrees_of_isNaN hnan.z hz⟩

end Mat4

end Planetarium
