import Aspl.Volume.Control
import Mathlib.Analysis.SpecialFunctions.Pow.Real

/-! The conversions of a volume control, whose curve has one range: what they compute when its
parameters fit the arithmetic.
-/

namespace Aspl.Volume

open Arithmetic

variable {K : Type} [Field K] [LinearOrder K]

/-- A control that differs in its current volume only. -/
def VolumeControl.withRaw (control : VolumeControl K) (raw : SInt32) : VolumeControl K :=
  { control with rawVolume := raw }

/-- A power of a number from the unit interval is one, and a power of one is one. -/
structure PowerLaws (float : FloatArithmetic K) : Prop where
  unit
    : ∀ x exponent, 0 ≤ x → x ≤ 1 → 0 ≤ exponent
      → 0 ≤ float.powf x exponent ∧ float.powf x exponent ≤ 1
  one : ∀ exponent, float.powf 1 exponent = 1

/-- The power function of the real numbers is one such. -/
theorem powerLaws_rpow : PowerLaws (FloatArithmetic.exact Real.rpow) where
  unit _ _ low high nonneg := ⟨Real.rpow_nonneg low _, Real.rpow_le_one low high nonneg⟩
  one exponent := Real.one_rpow exponent

/-- Any increasing bijections of the unit interval may take the place of the powers. -/
theorem powerLaws_of_bijections [IsStrictOrderedRing K] {curve : K → K → K}
    (increasing : ∀ exponent, MonotoneOn (curve · exponent) (Set.Icc 0 1))
    (bijection : ∀ exponent, Set.BijOn (curve · exponent) (Set.Icc 0 1) (Set.Icc 0 1))
    : PowerLaws (FloatArithmetic.exact curve) where
  unit _ exponent low high _ := (bijection exponent).mapsTo ⟨low, high⟩
  one exponent := by
    have top : (1 : K) ∈ Set.Icc 0 1 := ⟨zero_le_one, le_rfl⟩
    obtain ⟨x, inside, image⟩ := (bijection exponent).surjOn top
    have below := ((bijection exponent).mapsTo top).2
    have above := increasing exponent inside top inside.2
    rw [image] at above
    exact le_antisymm below above

namespace VolumeControlParameters

/-- The raw range as the curve divides by it. -/
def floatRange (float : FloatArithmetic K) (params : VolumeControlParameters K) : K :=
  float.round ((params.maxRawVolume.val - params.minRawVolume.val : Int) : K)

/-- The decibels of one raw step. -/
def decibelStep (float : FloatArithmetic K) (params : VolumeControlParameters K) : K :=
  float.round
    (float.sub params.maxDecibelVolume params.minDecibelVolume / params.floatRange float)

/-- The decibels of a raw value. -/
def decibelsAt (float : FloatArithmetic K) (params : VolumeControlParameters K) (raw : SInt32)
    : K :=
  if raw ≤ params.minRawVolume then params.minDecibelVolume
  else
    float.add params.minDecibelVolume
      (float.mul (float.round ((raw.val - params.minRawVolume.val : Int) : K))
        (params.decibelStep float))

variable [FloorRing K]

/-- The raw steps from the minimum to a number of decibels. -/
def decibelSteps (float : FloatArithmetic K) (params : VolumeControlParameters K) (x : K) : Int :=
  roundAway (float.round (float.sub x params.minDecibelVolume / params.decibelStep float))

/-- The raw steps from the minimum to a share of the raw range. -/
def scalarSteps (float : FloatArithmetic K) (params : VolumeControlParameters K) (x : K) : Int :=
  roundAway (float.round (x * params.floatRange float))

/-- The parameters fit the arithmetic: both ranges are proper, the raw range and the step of one
raw unit can be represented, and so can the raw values that the largest arguments stand for.
-/
structure Fits (float : FloatArithmetic K) (params : VolumeControlParameters K) : Prop where
  raw : params.minRawVolume < params.maxRawVolume
  decibels : params.minDecibelVolume < params.maxDecibelVolume
  range : params.maxRawVolume.val - params.minRawVolume.val ≤ 2 ^ 31 - 1
  step : params.decibelStep float ≠ 0
  topDecibel
    : params.decibelSteps float params.maxDecibelVolume ≤ 2 ^ 31 - 1
      ∧ params.minRawVolume.val + params.decibelSteps float params.maxDecibelVolume ≤ 2 ^ 31 - 1
  topScalar
    : params.scalarSteps float 1 ≤ 2 ^ 31 - 1
      ∧ params.minRawVolume.val + params.scalarSteps float 1 ≤ 2 ^ 31 - 1

end VolumeControlParameters

namespace VolumeControl

section Bounds

variable (params : VolumeControlParameters K)

omit [LinearOrder K]

@[simp] theorem getMinimumRaw_new
    : (new params).volumeCurve.getMinimumRaw = params.minRawVolume := rfl

@[simp] theorem getMaximumRaw_new
    : (new params).volumeCurve.getMaximumRaw = params.maxRawVolume := rfl

@[simp] theorem getMinimumDB_new
    : (new params).volumeCurve.getMinimumDB = params.minDecibelVolume := rfl

@[simp] theorem getMaximumDB_new
    : (new params).volumeCurve.getMaximumDB = params.maxDecibelVolume := rfl

end Bounds

variable {params : VolumeControlParameters K}

omit [LinearOrder K] in
/-- A raw value in range is not moved. -/
theorem clampRaw_new {raw : SInt32} (low : params.minRawVolume ≤ raw)
    (high : raw ≤ params.maxRawVolume)
    : (new params).volumeCurve.clampRaw raw = raw := by
  simp [VolumeCurve.clampRaw, not_lt.mpr low, not_lt.mpr high]

variable {float : FloatArithmetic K}

/-- `ConvertRawToDB()` of a value in range, with one range in the curve. -/
theorem convertRawToDB_new {raw : SInt32} (low : params.minRawVolume ≤ raw)
    (high : raw ≤ params.maxRawVolume)
    : (new params).volumeCurve.convertRawToDB float raw
      = (do
          let steps ← raw.sub params.minRawVolume
          VolumeCurve.addDecibels float
            [(⟨params.minRawVolume, params.maxRawVolume⟩,
              ⟨params.minDecibelVolume, params.maxDecibelVolume⟩)]
            steps params.minDecibelVolume) := by
  rw [VolumeCurve.convertRawToDB, clampRaw_new low high]
  rfl

variable [FloorRing K]

/-- `ConvertDBToRaw()` of a number in range, with one range in the curve. -/
theorem convertDBToRaw_new {x : K} (low : params.minDecibelVolume ≤ x)
    (high : x ≤ params.maxDecibelVolume)
    : (new params).volumeCurve.convertDBToRaw float x
      = (do
          let theRawRange ← params.maxRawVolume.sub params.minRawVolume
          let theDBPerRaw ←
            float.div (float.sub params.maxDecibelVolume params.minDecibelVolume)
              (float.ofSInt32 theRawRange)
          let steps ← float.div (float.sub x params.minDecibelVolume) theDBPerRaw
          let wholeSteps ← FloatArithmetic.toSInt32 (roundAway steps : K)
          params.minRawVolume.add wholeSteps) := by
  simp only [VolumeCurve.convertDBToRaw, getMinimumDB_new, getMaximumDB_new, not_lt.mpr low,
    not_lt.mpr high, if_false]
  change VolumeCurve.addRawSteps float x [(⟨_, _⟩, ⟨_, _⟩)] params.minRawVolume = _
  simp only [VolumeCurve.addRawSteps, not_lt.mpr high, if_false]

end VolumeControl

/-- A curve with a positive exponent leads from the unit interval to itself, and keeps its upper
end.
-/
theorem VolumeCurve.applyCurve_unit [IsStrictOrderedRing K] {float : FloatArithmetic K}
    (lawful : float.Lawful) (powers : PowerLaws float) (curve : VolumeCurve K)
    {numerator denominator scalar : K} (nonneg : 0 ≤ numerator) (positive : 0 < denominator)
    (low : 0 ≤ scalar) (high : scalar ≤ 1)
    : ∃ result : K,
        curve.applyCurve float numerator denominator scalar = .ok result
        ∧ 0 ≤ result ∧ result ≤ 1 ∧ (scalar = 1 → result = 1) := by
  simp only [VolumeCurve.applyCurve]
  split
  · have exponent : 0 ≤ float.round (numerator / denominator) := by
      rw [← lawful.zero]
      exact lawful.monotone (div_nonneg nonneg positive.le)
    obtain ⟨lower, upper⟩ := powers.unit scalar _ low high exponent
    refine ⟨float.powf scalar (float.round (numerator / denominator)), ?_, lower, upper, ?_⟩
    · rw [float.div_ok _ positive.ne', ok_bind]
      rfl
    · rintro rfl
      exact powers.one _
  · exact ⟨scalar, rfl, low, high, id⟩

namespace VolumeControlParameters.Fits

variable [FloorRing K] {float : FloatArithmetic K} {params : VolumeControlParameters K}

/-- The raw range can be represented. -/
theorem rawRange_eq (fits : params.Fits float)
    : ∃ range : SInt32,
        params.maxRawVolume.sub params.minRawVolume = .ok range
        ∧ range.val = params.maxRawVolume.val - params.minRawVolume.val := by
  have proper : params.minRawVolume.val < params.maxRawVolume.val := fits.raw
  have bound := fits.range
  have inside : -2 ^ 31 ≤ params.maxRawVolume.val - params.minRawVolume.val
      ∧ params.maxRawVolume.val - params.minRawVolume.val ≤ 2 ^ 31 - 1 := by omega
  exact ⟨⟨_, inside⟩, SInt32.ofValue_ok inside, rfl⟩

/-- The distance of a raw value from the minimum can be represented. -/
theorem distance_eq (fits : params.Fits float) {raw : SInt32}
    (low : params.minRawVolume ≤ raw) (high : raw ≤ params.maxRawVolume)
    : ∃ distance : SInt32,
        raw.sub params.minRawVolume = .ok distance
        ∧ distance.val = raw.val - params.minRawVolume.val := by
  have below : params.minRawVolume.val ≤ raw.val := low
  have above : raw.val ≤ params.maxRawVolume.val := high
  have bound := fits.range
  have inside : -2 ^ 31 ≤ raw.val - params.minRawVolume.val
      ∧ raw.val - params.minRawVolume.val ≤ 2 ^ 31 - 1 := by omega
  exact ⟨⟨_, inside⟩, SInt32.ofValue_ok inside, rfl⟩

omit [LinearOrder K] [FloorRing K] in
/-- The raw range as a divisor. -/
theorem ofSInt32_range {range : SInt32}
    (value : range.val = params.maxRawVolume.val - params.minRawVolume.val)
    : float.ofSInt32 range = params.floatRange float := by
  rw [FloatArithmetic.ofSInt32, value, floatRange]

variable [IsStrictOrderedRing K]

theorem one_le_floatRange (lawful : float.Lawful) (fits : params.Fits float)
    : 1 ≤ params.floatRange float := by
  have proper : params.minRawVolume.val < params.maxRawVolume.val := fits.raw
  have atLeastOne : (1 : Int) ≤ params.maxRawVolume.val - params.minRawVolume.val := by omega
  rw [floatRange, ← lawful.one]
  refine lawful.monotone ?_
  exact_mod_cast atLeastOne

theorem decibelStep_pos (lawful : float.Lawful) (fits : params.Fits float)
    : 0 < params.decibelStep float := by
  have range := one_le_floatRange lawful fits
  have span : 0 ≤ float.sub params.maxDecibelVolume params.minDecibelVolume := by
    rw [FloatArithmetic.sub, ← lawful.zero]
    exact lawful.monotone (sub_nonneg.mpr fits.decibels.le)
  refine lt_of_le_of_ne ?_ fits.step.symm
  rw [decibelStep, ← lawful.zero]
  exact lawful.monotone (div_nonneg span (by linarith))

/-- More decibels are not fewer steps. -/
theorem decibelSteps_mono (lawful : float.Lawful) (fits : params.Fits float) {x y : K}
    (below : x ≤ y)
    : params.decibelSteps float x ≤ params.decibelSteps float y := by
  have step := decibelStep_pos lawful fits
  refine roundAway_mono (lawful.monotone ?_)
  refine div_le_div_of_nonneg_right (lawful.monotone ?_) step.le
  linarith

theorem decibelSteps_min (lawful : float.Lawful)
    : params.decibelSteps float params.minDecibelVolume = 0 := by
  rw [decibelSteps, FloatArithmetic.sub, sub_self, lawful.zero, zero_div, lawful.zero]
  exact_mod_cast roundAway_intCast (K := K) 0

/-- A larger share of the raw range is not fewer steps. -/
theorem scalarSteps_mono (lawful : float.Lawful) (fits : params.Fits float) {x y : K}
    (below : x ≤ y)
    : params.scalarSteps float x ≤ params.scalarSteps float y := by
  have range := one_le_floatRange lawful fits
  refine roundAway_mono (lawful.monotone ?_)
  exact mul_le_mul_of_nonneg_right below (by linarith)

theorem scalarSteps_zero (lawful : float.Lawful) : params.scalarSteps float 0 = 0 := by
  rw [scalarSteps, zero_mul, lawful.zero]
  exact_mod_cast roundAway_intCast (K := K) 0

/-- So many steps up from the minimum is a raw value. -/
theorem addSteps (params : VolumeControlParameters K) {steps : Int} (nonneg : 0 ≤ steps)
    (bound : steps ≤ 2 ^ 31 - 1 ∧ params.minRawVolume.val + steps ≤ 2 ^ 31 - 1)
    : ∃ raw : SInt32,
        (do
          let wholeSteps ← FloatArithmetic.toSInt32 (steps : K)
          params.minRawVolume.add wholeSteps) = .ok raw
        ∧ raw.val = params.minRawVolume.val + steps := by
  have least := params.minRawVolume.property.1
  have first : -2 ^ 31 ≤ steps ∧ steps ≤ 2 ^ 31 - 1 := by omega
  have second : -2 ^ 31 ≤ params.minRawVolume.val + steps
      ∧ params.minRawVolume.val + steps ≤ 2 ^ 31 - 1 := by omega
  refine ⟨⟨_, second⟩, ?_, rfl⟩
  rw [FloatArithmetic.toSInt32, truncate_intCast, SInt32.ofValue_ok first]
  exact SInt32.ofValue_ok second

theorem floatRange_ne_zero (lawful : float.Lawful) (fits : params.Fits float)
    : params.floatRange float ≠ 0 := by
  have positive := one_le_floatRange lawful fits
  intro zero
  linarith

/-- The division by the raw range computes the decibels of one step. -/
theorem div_floatRange (lawful : float.Lawful) (fits : params.Fits float)
    : float.div (float.sub params.maxDecibelVolume params.minDecibelVolume)
          (params.floatRange float)
        = .ok (params.decibelStep float) :=
  float.div_ok _ (floatRange_ne_zero lawful fits)

/-- `ConvertDBToRaw()` goes up by the steps of its argument. -/
theorem convertDBToRaw (lawful : float.Lawful) (fits : params.Fits float) {x : K}
    (low : params.minDecibelVolume ≤ x) (high : x ≤ params.maxDecibelVolume)
    : ∃ raw : SInt32,
        (VolumeControl.new params).volumeCurve.convertDBToRaw float x = .ok raw
        ∧ raw.val = params.minRawVolume.val + params.decibelSteps float x := by
  obtain ⟨range, rangeEq, rangeVal⟩ := fits.rawRange_eq
  have atLeast := decibelSteps_mono lawful fits low
  have atMost := decibelSteps_mono lawful fits high
  have bound := fits.topDecibel
  rw [decibelSteps_min lawful] at atLeast
  obtain ⟨raw, rawEq, rawVal⟩ := addSteps params atLeast (by omega)
  refine ⟨raw, ?_, rawVal⟩
  rw [VolumeControl.convertDBToRaw_new low high, rangeEq, ok_bind, ofSInt32_range rangeVal,
    div_floatRange lawful fits, ok_bind, float.div_ok _ fits.step, ok_bind]
  exact rawEq

/-- `ConvertRawToDB()` of a value in range. -/
theorem convertRawToDB (lawful : float.Lawful) (fits : params.Fits float) {raw : SInt32}
    (low : params.minRawVolume ≤ raw) (high : raw ≤ params.maxRawVolume)
    : (VolumeControl.new params).volumeCurve.convertRawToDB float raw
      = .ok (params.decibelsAt float raw) := by
  obtain ⟨range, rangeEq, rangeVal⟩ := fits.rawRange_eq
  obtain ⟨distance, distanceEq, distanceVal⟩ := fits.distance_eq low high
  rw [VolumeControl.convertRawToDB_new low high, distanceEq, ok_bind, decibelsAt]
  by_cases atMinimum : raw ≤ params.minRawVolume
  · have none : ¬0 < distance.val := by
      have ordered : raw.val ≤ params.minRawVolume.val := atMinimum
      omega
    rw [VolumeCurve.addDecibels, if_neg none, if_pos atMinimum]
  · have some : 0 < distance.val := by
      have ordered : params.minRawVolume.val < raw.val := not_le.mp atMinimum
      omega
    have whole : min range distance = distance := by
      refine min_eq_right ?_
      have above : raw.val ≤ params.maxRawVolume.val := high
      exact (show distance.val ≤ range.val by omega)
    have zero : -2 ^ 31 ≤ distance.val - distance.val
        ∧ distance.val - distance.val ≤ 2 ^ 31 - 1 := by omega
    have nothingLeft : distance.sub distance = .ok ⟨distance.val - distance.val, zero⟩ :=
      SInt32.ofValue_ok zero
    have distanceFloat : float.ofSInt32 distance
        = float.round ((raw.val - params.minRawVolume.val : Int) : K) := by
      rw [FloatArithmetic.ofSInt32, distanceVal]
    simp only [VolumeCurve.addDecibels, if_pos some, if_neg atMinimum, rangeEq, ok_bind,
      ofSInt32_range rangeVal, div_floatRange lawful fits, whole, nothingLeft, distanceFloat]

/-- `ConvertScalarToRaw()` goes up by the steps of a share of the raw range. -/
theorem convertScalarToRaw (lawful : float.Lawful) (powers : PowerLaws float)
    (fits : params.Fits float) {x : K} (low : 0 ≤ x) (high : x ≤ 1)
    : ∃ (raw : SInt32) (share : K),
        (VolumeControl.new params).volumeCurve.convertScalarToRaw float x = .ok raw
        ∧ 0 ≤ share ∧ share ≤ 1
        ∧ raw.val = params.minRawVolume.val + params.scalarSteps float share := by
  obtain ⟨range, rangeEq, rangeVal⟩ := fits.rawRange_eq
  obtain ⟨share, shareEq, shareLow, shareHigh, -⟩ :=
    (VolumeControl.new params).volumeCurve.applyCurve_unit lawful powers
      zero_le_one two_pos low high
  have atLeast := scalarSteps_mono lawful fits shareLow
  have atMost := scalarSteps_mono lawful fits shareHigh
  have bound := fits.topScalar
  rw [scalarSteps_zero lawful] at atLeast
  obtain ⟨raw, rawEq, rawVal⟩ := addSteps params atLeast (by omega)
  refine ⟨raw, share, ?_, shareLow, shareHigh, rawVal⟩
  have same : min 1 (max 0 x) = x := by rw [max_eq_right low, min_eq_right high]
  rw [VolumeCurve.convertScalarToRaw, VolumeControl.getMaximumRaw_new,
    VolumeControl.getMinimumRaw_new, rangeEq, ok_bind, same]
  refine bind_eq_ok_iff.mpr ⟨share, shareEq, ?_⟩
  rw [ofSInt32_range rangeVal]
  exact rawEq

/-- `ConvertRawToScalar()` of a value in range is in the unit interval. -/
theorem convertRawToScalar (lawful : float.Lawful) (powers : PowerLaws float)
    (fits : params.Fits float) {raw : SInt32} (low : params.minRawVolume ≤ raw)
    (high : raw ≤ params.maxRawVolume)
    : ∃ scalar : K,
        (VolumeControl.new params).volumeCurve.convertRawToScalar float raw = .ok scalar
        ∧ 0 ≤ scalar ∧ scalar ≤ 1 := by
  obtain ⟨range, rangeEq, rangeVal⟩ := fits.rawRange_eq
  obtain ⟨distance, distanceEq, distanceVal⟩ := fits.distance_eq low high
  have rangePositive := one_le_floatRange lawful fits
  have distanceLow : 0 ≤ float.ofSInt32 distance := by
    rw [FloatArithmetic.ofSInt32, ← lawful.zero]
    refine lawful.monotone ?_
    have ordered : params.minRawVolume.val ≤ raw.val := low
    exact_mod_cast (show (0 : Int) ≤ distance.val by omega)
  have distanceHigh : float.ofSInt32 distance ≤ params.floatRange float := by
    refine lawful.monotone ?_
    have ordered : raw.val ≤ params.maxRawVolume.val := high
    exact_mod_cast (show distance.val ≤ params.maxRawVolume.val - params.minRawVolume.val by omega)
  have quotientLow : 0 ≤ float.round (float.ofSInt32 distance / params.floatRange float) := by
    rw [← lawful.zero]
    exact lawful.monotone (div_nonneg distanceLow (by linarith))
  have quotientHigh : float.round (float.ofSInt32 distance / params.floatRange float) ≤ 1 := by
    rw [← lawful.one]
    exact lawful.monotone ((div_le_one (by linarith)).mpr distanceHigh)
  obtain ⟨scalar, scalarEq, scalarLow, scalarHigh, -⟩ :=
    (VolumeControl.new params).volumeCurve.applyCurve_unit lawful powers
      zero_le_two one_pos quotientLow quotientHigh
  refine ⟨scalar, ?_, scalarLow, scalarHigh⟩
  rw [VolumeCurve.convertRawToScalar, VolumeControl.clampRaw_new low high,
    VolumeControl.getMaximumRaw_new, VolumeControl.getMinimumRaw_new, rangeEq, ok_bind,
    distanceEq, ok_bind, ofSInt32_range rangeVal,
    float.div_ok _ (floatRange_ne_zero lawful fits), ok_bind]
  exact scalarEq

end VolumeControlParameters.Fits

namespace VolumeControlParameters

variable [IsStrictOrderedRing K] [FloorRing K] {params : VolumeControlParameters K}
  {powf : K → K → K}

/-- Without rounding, the largest number of decibels is the whole raw range away. -/
theorem decibelSteps_exact_max
    (decibels : params.minDecibelVolume < params.maxDecibelVolume)
    : params.decibelSteps (.exact powf) params.maxDecibelVolume
      = params.maxRawVolume.val - params.minRawVolume.val := by
  have span : params.maxDecibelVolume - params.minDecibelVolume ≠ 0 :=
    (sub_pos.mpr decibels).ne'
  change roundAway ((params.maxDecibelVolume - params.minDecibelVolume)
    / ((params.maxDecibelVolume - params.minDecibelVolume)
      / ((params.maxRawVolume.val - params.minRawVolume.val : Int) : K))) = _
  rw [div_div_cancel₀ span]
  exact roundAway_intCast _

/-- Without rounding, the whole share of the raw range is the raw range. -/
theorem scalarSteps_exact_one
    : params.scalarSteps (.exact powf) 1
      = params.maxRawVolume.val - params.minRawVolume.val := by
  change roundAway (1 * ((params.maxRawVolume.val - params.minRawVolume.val : Int) : K)) = _
  rw [one_mul]
  exact roundAway_intCast _

/-- Without rounding, parameters fit exactly if both ranges are proper and the raw one can be
represented.
-/
theorem fits_exact_iff
    : params.Fits (.exact powf)
      ↔ params.minRawVolume < params.maxRawVolume
        ∧ params.minDecibelVolume < params.maxDecibelVolume
        ∧ params.maxRawVolume.val - params.minRawVolume.val ≤ 2 ^ 31 - 1 := by
  constructor
  · exact fun fits => ⟨fits.raw, fits.decibels, fits.range⟩
  · rintro ⟨raw, decibels, range⟩
    have proper : params.minRawVolume.val < params.maxRawVolume.val := raw
    have largest := params.maxRawVolume.property.2
    refine ⟨raw, decibels, range, ?_, ?_, ?_⟩
    · change (params.maxDecibelVolume - params.minDecibelVolume)
        / ((params.maxRawVolume.val - params.minRawVolume.val : Int) : K) ≠ 0
      refine div_ne_zero (sub_pos.mpr decibels).ne' (Int.cast_ne_zero.mpr ?_)
      omega
    · rw [decibelSteps_exact_max decibels]
      omega
    · rw [scalarSteps_exact_one]
      omega

end VolumeControlParameters

end Aspl.Volume
