import Mathlib
import Planetarium.Numeral.Single

/-! # The order of numbers in single precision

    Two numbers are compared unless one of them is undefined.  So not to be
    less than a number is one thing, and to be at least that number another:
    they agree as long as neither number is undefined.

    * `compare_eq_none_iff`, `compare_swap`: the comparison of two numbers.
    * `not_lt_iff`: what is left when one number is not less than another.
    * `le_iff_of_not_lt`: when that means to be at least as great. -/

namespace Planetarium.Numeral.Single

open Float.Model

/-! ## Section 1: Comparing -/

/-- How two numbers compare, if they do. -/
def compare (x y : Float32) : Option Ordering := x.toModel.unpack.compare y.toModel.unpack

/-- **Two numbers do not compare exactly if one of them is undefined.** -/
theorem compare_eq_none_iff (x y : Float32) :
    compare x y = none ↔ x.isNaN = true ∨ y.isNaN = true := by
  have hmodel : ∀ a b : UnpackedFloat, a.compare b = none ↔ a.isNaN = true ∨ b.isNaN = true := by
    intro a b
    rcases a with ⟨⟨⟩⟩ | _ | ⟨⟨⟩⟩ | ⟨⟨⟩, m, e, hm⟩ <;>
      rcases b with ⟨⟨⟩⟩ | _ | ⟨⟨⟩⟩ | ⟨⟨⟩, m', e', hm'⟩ <;>
      simp [UnpackedFloat.compare, UnpackedFloat.isNaN]
  exact hmodel _ _

/-- The other way around, the comparison gives the opposite. -/
theorem compare_swap (x y : Float32) : (compare x y).map Ordering.swap = compare y x := by
  -- Finite numbers of one sign compare by their exponents and then by their digits.
  have hfinite : ∀ (e e' : Int) (m m' : Nat),
      ((Ord.compare e e').then (Ord.compare m m')).swap =
        (Ord.compare e' e).then (Ord.compare m' m) := by
    intro e e' m m'
    rw [Ordering.swap_then, Int.compare_swap, Nat.compare_swap]
  have hmodel : ∀ a b : UnpackedFloat, (a.compare b).map Ordering.swap = b.compare a := by
    intro a b
    rcases a with ⟨⟨⟩⟩ | _ | ⟨⟨⟩⟩ | ⟨⟨⟩, m, e, hm⟩ <;>
      rcases b with ⟨⟨⟩⟩ | _ | ⟨⟨⟩⟩ | ⟨⟨⟩, m', e', hm'⟩ <;>
      simp [UnpackedFloat.compare, hfinite] <;> rfl
  exact hmodel _ _

theorem lt_iff_compare {x y : Float32} : x < y ↔ compare x y = some .lt := by
  show x.lt y = true ↔ _
  unfold Float32.lt
  simp only [decide_eq_true_eq]
  show Float32.Model.lt _ _ = true ↔ _
  unfold Float32.Model.lt UnpackedFloat.lt compare
  simp

theorem le_iff_compare {x y : Float32} :
    x ≤ y ↔ compare x y = some .lt ∨ compare x y = some .eq := by
  show x.le y = true ↔ _
  unfold Float32.le
  simp only [decide_eq_true_eq]
  show Float32.Model.le _ _ = true ↔ _
  unfold Float32.Model.le UnpackedFloat.le compare
  rcases UnpackedFloat.compare _ _ with _ | ⟨⟨⟩⟩ <;> simp

/-! ## Section 2: Not less -/

/-- **Not to be less.**  A number that is not less than another one is at least
    as great, or one of the two is undefined. -/
theorem not_lt_iff (x y : Float32) : ¬ x < y ↔ y ≤ x ∨ x.isNaN = true ∨ y.isNaN = true := by
  rw [← compare_eq_none_iff, lt_iff_compare, le_iff_compare, ← compare_swap x y]
  rcases compare x y with _ | ⟨⟨⟩⟩ <;> simp [Ordering.swap]

/-- Only numbers that are defined are in order. -/
theorem isNaN_of_le {x y : Float32} (h : x ≤ y) : x.isNaN = false ∧ y.isNaN = false := by
  have hsome : compare x y ≠ none := by
    rcases le_iff_compare.mp h with h | h <;> rw [h] <;> simp
  rw [ne_eq, compare_eq_none_iff] at hsome
  simpa using hsome

/-- **When not to be less is to be at least as great.** -/
theorem le_iff_of_not_lt {x y : Float32} (h : ¬ x < y) :
    y ≤ x ↔ y.isNaN = false ∧ x.isNaN = false := by
  constructor
  · exact isNaN_of_le
  · rintro ⟨hy, hx⟩
    rcases (not_lt_iff x y).mp h with hle | hnan | hnan
    · exact hle
    · rw [hx] at hnan
      cases hnan
    · rw [hy] at hnan
      cases hnan

end Planetarium.Numeral.Single
