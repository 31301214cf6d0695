import Mathlib.Analysis.InnerProductSpace.PiL2

/-!
# Distances between lattice points

A program that compares distances exactly compares their squares, which are natural numbers for
points with integer coordinates. Here is what such a comparison says about the distance in space,
and why one axis that is far enough already decides it.
-/

namespace Lib

/-- A point with integer coordinates, in space. -/
noncomputable def point (p : Int × Int × Int) : EuclideanSpace ℝ (Fin 3) :=
  !₂[(p.1 : ℝ), (p.2.1 : ℝ), (p.2.2 : ℝ)]

/-- The square of the distance. -/
def distSq (p q : Int × Int × Int) : Nat :=
  (p.1 - q.1).natAbs * (p.1 - q.1).natAbs + (p.2.1 - q.2.1).natAbs * (p.2.1 - q.2.1).natAbs
    + (p.2.2 - q.2.2).natAbs * (p.2.2 - q.2.2).natAbs

variable {p q : Int × Int × Int} {r : Nat}

theorem dist_point_sq : dist (point p) (point q) ^ 2 = (distSq p q : ℝ) := by
  have hsquare : ∀ n : Int, ((n.natAbs * n.natAbs : Nat) : ℝ) = (n : ℝ) ^ 2 := by
    intro n
    rw [Nat.cast_mul, ← pow_two, Nat.cast_natAbs, Int.cast_abs, sq_abs]
  rw [EuclideanSpace.dist_sq_eq, Fin.sum_univ_three]
  simp only [point, Real.dist_eq, sq_abs, distSq, Nat.cast_add, hsquare, Int.cast_sub]
  rfl

theorem le_dist_point : (r : ℝ) ≤ dist (point p) (point q) ↔ r * r ≤ distSq p q := by
  rw [← sq_le_sq₀ (Nat.cast_nonneg r) dist_nonneg, dist_point_sq, ← Nat.cast_pow, Nat.cast_le,
    pow_two]

theorem dist_point_le : dist (point p) (point q) ≤ r ↔ distSq p q ≤ r * r := by
  rw [← sq_le_sq₀ dist_nonneg (Nat.cast_nonneg r), dist_point_sq, ← Nat.cast_pow, Nat.cast_le,
    pow_two]

/-- One axis that is far enough decides it. -/
theorem mul_self_le_distSq (h : r ≤ (p.1 - q.1).natAbs ∨ r ≤ (p.2.1 - q.2.1).natAbs
    ∨ r ≤ (p.2.2 - q.2.2).natAbs) : r * r ≤ distSq p q := by
  unfold distSq
  rcases h with h | h | h
  · have := Nat.mul_le_mul h h
    omega
  · have := Nat.mul_le_mul h h
    omega
  · have := Nat.mul_le_mul h h
    omega

end Lib
