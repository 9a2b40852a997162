import HitchOpen.Common.Reals
import HitchOpen.GpsToEnu.ConvertCsv
import Mathlib.LinearAlgebra.Matrix.Determinant.Basic
import Mathlib.Tactic.LinearCombination

/-!
# The conversion is a rigid motion

From geocentric coordinates to east, north and up the script subtracts the origin and turns the axes.
The nine coefficients form a matrix whose columns are orthonormal, with determinant one: distances are
kept, and nothing is mirrored.
-/

namespace HitchOpen.GpsToEnu

open HitchOpen.Runtime Matrix

section Rigid

variable {R : Type*} [Field R] [Trig R]

/-- A point as a column. -/
def column (v : R × R × R) : Fin 3 → R := ![v.1, v.2.1, v.2.2]

/-- The coefficients of the conversion at `origin`. -/
def frame (origin : GpsRow R) : Matrix (Fin 3) (Fin 3) R :=
  let sinLat := Trig.sin (radians origin.latitude)
  let cosLat := Trig.cos (radians origin.latitude)
  let sinLon := Trig.sin (radians origin.longitude)
  let cosLon := Trig.cos (radians origin.longitude)
  !![-sinLon, cosLon, 0;
    -sinLat * cosLon, -sinLat * sinLon, cosLat;
    cosLat * cosLon, cosLat * sinLon, sinLat]

/-- The sum of the squares of the coordinates. -/
def normSq (v : R × R × R) : R := v.1 ^ 2 + v.2.1 ^ 2 + v.2.2 ^ 2

def euclideanDistance [Sqrt R] (v w : R × R × R) : R := sqrt (normSq (v - w))

theorem rotateAt_eq_mulVec (origin : GpsRow R) (d : R × R × R) :
    column (rotateAt origin d) = frame origin *ᵥ column d := by
  funext i
  fin_cases i <;> simp [column, rotateAt, frame, Matrix.mulVec, dotProduct, Fin.sum_univ_three]
  ring

theorem rotateAt_sub (origin : GpsRow R) (d d' : R × R × R) :
    rotateAt origin (d - d') = rotateAt origin d - rotateAt origin d' := by
  simp only [rotateAt, Prod.fst_sub, Prod.snd_sub]
  refine Prod.ext ?_ (Prod.ext ?_ ?_) <;> simp only [Prod.fst_sub, Prod.snd_sub] <;> ring

/-! ### The axes -/

variable (hcircle : ∀ x : R, Trig.sin x ^ 2 + Trig.cos x ^ 2 = 1)
include hcircle

theorem frame_det (origin : GpsRow R) : (frame origin).det = 1 := by
  have hlat := hcircle (radians origin.latitude)
  have hlon := hcircle (radians origin.longitude)
  simp only [frame, Matrix.det_fin_three, Matrix.of_apply, Matrix.cons_val]
  linear_combination hlat + (Trig.sin (radians origin.latitude) ^ 2 +
    Trig.cos (radians origin.latitude) ^ 2) * hlon

/-- The columns are at right angles and have length one. -/
theorem frame_orthonormal (origin : GpsRow R) : (frame origin)ᵀ * frame origin = 1 := by
  have hlat := hcircle (radians origin.latitude)
  have hlon := hcircle (radians origin.longitude)
  simp only [frame]
  generalize Trig.sin (radians origin.latitude) = sφ at *
  generalize Trig.cos (radians origin.latitude) = cφ at *
  generalize Trig.sin (radians origin.longitude) = sl at *
  generalize Trig.cos (radians origin.longitude) = cl at *
  funext i j
  rw [Matrix.mul_apply, Fin.sum_univ_three]
  -- the nine products of two columns, row by row
  fin_cases i <;> fin_cases j <;> simp
  · linear_combination cl ^ 2 * hlat + hlon
  · linear_combination cl * sl * hlat
  · ring
  · linear_combination cl * sl * hlat
  · linear_combination sl ^ 2 * hlat + hlon
  · ring
  · ring
  · ring
  · linear_combination hlat

theorem normSq_rotateAt (origin : GpsRow R) (d : R × R × R) :
    normSq (rotateAt origin d) = normSq d := by
  have hdot : ∀ v : R × R × R, normSq v = column v ⬝ᵥ column v := by
    intro v
    simp [normSq, column, dotProduct, Fin.sum_univ_three, sq]
  rw [hdot, hdot, rotateAt_eq_mulVec, Matrix.dotProduct_mulVec, Matrix.vecMul_mulVec,
    frame_orthonormal hcircle, Matrix.vecMul_one]

variable [Sqrt R]

/-- **A rigid motion.**  Distances are those between the geocentric coordinates, the origin is mapped to
zero, and the linear part has determinant one. -/
theorem enuFrom_rigid (origin : GpsRow R) :
    (∀ p q, euclideanDistance (enuFrom origin p) (enuFrom origin q) =
      euclideanDistance (geodeticToEcef p) (geodeticToEcef q)) ∧
    enuFrom origin origin = (0, 0, 0) ∧
    (∀ p, column (enuFrom origin p) =
      frame origin *ᵥ column (geodeticToEcef p - geodeticToEcef origin)) ∧
    (frame origin).det = 1 := by
  refine ⟨?_, ?_, ?_, frame_det hcircle origin⟩
  · intro p q
    have hdiff : enuFrom origin p - enuFrom origin q =
        rotateAt origin (geodeticToEcef p - geodeticToEcef q) := by
      rw [enuFrom, enuFrom, ← rotateAt_sub, sub_sub_sub_cancel_right]
    rw [euclideanDistance, euclideanDistance, hdiff, normSq_rotateAt hcircle]
  · rw [enuFrom, sub_self]
    simp [rotateAt]
  · intro p
    exact rotateAt_eq_mulVec origin _

end Rigid

/-- At the origin of the script. -/
theorem gpsToEnu_rigid :
    (∀ p q : GpsRow ℝ, euclideanDistance (enuFrom ORIGIN p) (enuFrom ORIGIN q) =
      euclideanDistance (geodeticToEcef p) (geodeticToEcef q)) ∧
    gpsToEnu (ORIGIN : GpsRow ℝ) = (0, 0, 0) ∧ (frame (ORIGIN : GpsRow ℝ)).det = 1 := by
  obtain ⟨hdistance, horigin, -, hdet⟩ :=
    enuFrom_rigid (fun x => Real.sin_sq_add_cos_sq x) (ORIGIN : GpsRow ℝ)
  exact ⟨hdistance, horigin, hdet⟩

end HitchOpen.GpsToEnu
