import HitchOpen.Common.Reals
import HitchOpen.GpsToEnu.ConvertCsv
import Mathlib.Analysis.SpecialFunctions.Complex.Arg
import Mathlib.Topology.Order.IntermediateValue

/-!
# Every point has coordinates

In exact real arithmetic the conversion from latitude, longitude and altitude to east, north and up
reaches every point of space.  The longitude is the angle in the plane of the equator; in the meridian
plane the normal of the ellipse through the point is found by the intermediate value theorem.
-/

namespace HitchOpen.GpsToEnu

open HitchOpen.Runtime

/-- The angle as it is measured in degrees. -/
noncomputable def degrees (φ : ℝ) : ℝ := φ / radians 1

theorem radians_degrees (φ : ℝ) : radians (degrees φ) = φ := by
  show φ / (1 * (Real.pi / 180)) * (Real.pi / 180) = φ
  have hpi := Real.pi_ne_zero
  field_simp

/-! ### Turning the axes -/

theorem exists_rotateAt (origin : GpsRow ℝ) (enu : ℝ × ℝ × ℝ) : ∃ d, rotateAt origin d = enu := by
  obtain ⟨e, n, u⟩ := enu
  have hlat := Real.sin_sq_add_cos_sq (radians origin.latitude)
  have hlon := Real.sin_sq_add_cos_sq (radians origin.longitude)
  refine ⟨(-Real.sin (radians origin.longitude) * e
      - Real.sin (radians origin.latitude) * Real.cos (radians origin.longitude) * n
      + Real.cos (radians origin.latitude) * Real.cos (radians origin.longitude) * u,
    Real.cos (radians origin.longitude) * e
      - Real.sin (radians origin.latitude) * Real.sin (radians origin.longitude) * n
      + Real.cos (radians origin.latitude) * Real.sin (radians origin.longitude) * u,
    Real.cos (radians origin.latitude) * n + Real.sin (radians origin.latitude) * u), ?_⟩
  simp only [rotateAt, Trig.sin, Trig.cos]
  generalize Real.sin (radians origin.latitude) = sφ at *
  generalize Real.cos (radians origin.latitude) = cφ at *
  generalize Real.sin (radians origin.longitude) = sl at *
  generalize Real.cos (radians origin.longitude) = cl at *
  refine Prod.ext ?_ (Prod.ext ?_ ?_)
  · show -sl * _ + cl * _ = e
    linear_combination e * hlon
  · linear_combination (sφ ^ 2 * n - sφ * cφ * u) * hlon + n * hlat
  · linear_combination (cφ ^ 2 * u - sφ * cφ * n) * hlon + u * hlat

/-! ### The meridian -/

/-- The length of the normal, from the ellipse to the axis. -/
noncomputable def normalLength (φ : ℝ) : ℝ := a / Real.sqrt (1 - e2 * Real.sin φ ^ 2)

theorem eccentricity_pos (φ : ℝ) : 0 < 1 - e2 * Real.sin φ ^ 2 := by
  have hpos : (0 : ℝ) ≤ e2 := by norm_num [e2, f]
  have hlt : (e2 : ℝ) < 1 := by norm_num [e2, f]
  have hsin := mul_le_mul_of_nonneg_left (Real.sin_sq_le_one φ) hpos
  linarith

theorem continuous_normalLength : Continuous normalLength := by
  have hroot : Continuous fun φ => Real.sqrt (1 - e2 * Real.sin φ ^ 2) := by fun_prop
  exact continuous_const.div hroot fun φ => (Real.sqrt_pos.mpr (eccentricity_pos φ)).ne'

/-- Some normal of the ellipse goes through a given point of the meridian plane. -/
theorem exists_latitude {ρ : ℝ} (hρ : 0 ≤ ρ) (z : ℝ) :
    ∃ φ, ρ * Real.sin φ - z * Real.cos φ =
      normalLength φ * e2 * Real.sin φ * Real.cos φ := by
  have hcont : Continuous fun φ => ρ * Real.sin φ - z * Real.cos φ -
      normalLength φ * e2 * Real.sin φ * Real.cos φ := by
    have := continuous_normalLength
    fun_prop
  have hpi : -(Real.pi / 2) ≤ Real.pi / 2 := by linarith [Real.pi_pos]
  have hmem := intermediate_value_Icc hpi hcont.continuousOn
  have hzero : (0 : ℝ) ∈ Set.Icc (ρ * Real.sin (-(Real.pi / 2)) - z * Real.cos (-(Real.pi / 2)) -
        normalLength (-(Real.pi / 2)) * e2 * Real.sin (-(Real.pi / 2)) *
          Real.cos (-(Real.pi / 2)))
      (ρ * Real.sin (Real.pi / 2) - z * Real.cos (Real.pi / 2) -
        normalLength (Real.pi / 2) * e2 * Real.sin (Real.pi / 2) *
          Real.cos (Real.pi / 2)) := by
    simp [hρ]
  obtain ⟨φ, -, hφ⟩ := hmem hzero
  exact ⟨φ, sub_eq_zero.mp hφ⟩

/-- The latitude and the altitude of a point of the meridian plane. -/
theorem exists_meridian {ρ : ℝ} (hρ : 0 ≤ ρ) (z : ℝ) :
    ∃ φ h, (normalLength φ + h) * Real.cos φ = ρ ∧
      (normalLength φ * (1 - e2) + h) * Real.sin φ = z := by
  obtain ⟨φ, hφ⟩ := exists_latitude hρ z
  have hsq := Real.sin_sq_add_cos_sq φ
  refine ⟨φ, (ρ - normalLength φ * Real.cos φ) * Real.cos φ +
    (z - normalLength φ * (1 - e2) * Real.sin φ) * Real.sin φ, ?_, ?_⟩
  · linear_combination (ρ - normalLength φ * Real.cos φ) * hsq - Real.sin φ * hφ
  · linear_combination
      (z - normalLength φ * (1 - e2) * Real.sin φ) * hsq + Real.cos φ * hφ

/-! ### Space -/

theorem exists_geodeticToEcef (x y z : ℝ) : ∃ p : GpsRow ℝ, geodeticToEcef p = (x, y, z) := by
  obtain ⟨φ, h, hρ, hz⟩ := exists_meridian (norm_nonneg (⟨x, y⟩ : ℂ)) z
  refine ⟨⟨degrees φ, degrees (Complex.arg ⟨x, y⟩), h⟩, ?_⟩
  have hx : ‖(⟨x, y⟩ : ℂ)‖ * Real.cos (Complex.arg ⟨x, y⟩) = x := Complex.norm_mul_cos_arg _
  have hy : ‖(⟨x, y⟩ : ℂ)‖ * Real.sin (Complex.arg ⟨x, y⟩) = y := Complex.norm_mul_sin_arg _
  simp only [geodeticToEcef, radians_degrees, Trig.sin, Trig.cos, sqrt_real]
  refine Prod.ext ?_ (Prod.ext ?_ ?_)
  · show (normalLength φ + h) * Real.cos φ * Real.cos _ = x
    rw [hρ, hx]
  · show (normalLength φ + h) * Real.cos φ * Real.sin _ = y
    rw [hρ, hy]
  · exact hz

/-- **Every point of the tangent frame is the image of a position.** -/
theorem exists_enuFrom (origin : GpsRow ℝ) (enu : ℝ × ℝ × ℝ) : ∃ p, enuFrom origin p = enu := by
  obtain ⟨d, hd⟩ := exists_rotateAt origin enu
  obtain ⟨p, hp⟩ := exists_geodeticToEcef (geodeticToEcef origin + d).1
    (geodeticToEcef origin + d).2.1 (geodeticToEcef origin + d).2.2
  refine ⟨p, ?_⟩
  rw [enuFrom, hp]
  show rotateAt origin (geodeticToEcef origin + d - geodeticToEcef origin) = enu
  rw [add_sub_cancel_left, hd]

end HitchOpen.GpsToEnu
