import Aspl.Volume.Setters
import Mathlib.Data.Rat.Floor

/-! Reading decibels back: without rounding, setting the number of decibels that a raw value stands
for keeps this value, and setting any number selects a nearest value.
-/

namespace Aspl.Volume

open Arithmetic

variable {K : Type} [Field K] {params : VolumeControlParameters K} {powf : K → K → K}

namespace VolumeControlParameters

/-- The decibels of a raw value are on a line through the minimum. -/
theorem decibelsAt_exact {raw : SInt32} (low : params.minRawVolume ≤ raw)
    : params.decibelsAt (.exact powf) raw
      = params.minDecibelVolume
        + ((raw.val - params.minRawVolume.val : Int) : K) * params.decibelStep (.exact powf) := by
  rw [decibelsAt]
  split
  · rename_i atMinimum
    rw [le_antisymm atMinimum low, sub_self, Int.cast_zero, zero_mul, add_zero]
  · rfl

variable [LinearOrder K] [FloorRing K]

/-- The steps to a number of decibels are counted on the same line. -/
theorem decibelSteps_exact (x : K)
    : params.decibelSteps (.exact powf) x
      = roundAway ((x - params.minDecibelVolume) / params.decibelStep (.exact powf)) := rfl

variable [IsStrictOrderedRing K]

/-- The decibels of a raw value are as many steps from the minimum as the value is. -/
theorem decibelSteps_decibelsAt (fits : params.Fits (.exact powf)) {raw : SInt32}
    (low : params.minRawVolume ≤ raw)
    : params.decibelSteps (.exact powf) (params.decibelsAt (.exact powf) raw)
      = raw.val - params.minRawVolume.val := by
  rw [decibelSteps_exact, decibelsAt_exact low, add_sub_cancel_left,
    mul_div_cancel_right₀ _ fits.step]
  exact roundAway_intCast _

/-- The decibels of a raw value in range are in range. -/
theorem decibelsAt_mem (fits : params.Fits (.exact powf)) {raw : SInt32}
    (inRange : params.Holds raw)
    : params.minDecibelVolume ≤ params.decibelsAt (.exact powf) raw
      ∧ params.decibelsAt (.exact powf) raw ≤ params.maxDecibelVolume := by
  have step := fits.decibelStep_pos (FloatArithmetic.lawful_exact powf)
  have proper := fits.floatRange_ne_zero (FloatArithmetic.lawful_exact powf)
  have below : params.minRawVolume.val ≤ raw.val := inRange.low
  have above : raw.val ≤ params.maxRawVolume.val := inRange.high
  have distanceLow : (0 : K) ≤ ((raw.val - params.minRawVolume.val : Int) : K) := by
    exact_mod_cast (show (0 : Int) ≤ raw.val - params.minRawVolume.val by omega)
  have distanceHigh : ((raw.val - params.minRawVolume.val : Int) : K)
      ≤ ((params.maxRawVolume.val - params.minRawVolume.val : Int) : K) := by
    exact_mod_cast (show raw.val - params.minRawVolume.val
      ≤ params.maxRawVolume.val - params.minRawVolume.val by omega)
  have wholeSpan : ((params.maxRawVolume.val - params.minRawVolume.val : Int) : K)
      * params.decibelStep (.exact powf)
        = params.maxDecibelVolume - params.minDecibelVolume :=
    mul_div_cancel₀ _ proper
  have low := mul_nonneg distanceLow step.le
  have high := mul_le_mul_of_nonneg_right distanceHigh step.le
  rw [decibelsAt_exact inRange.low]
  constructor <;> linarith

/-- The raw value that is a rounded number of steps away is a nearest one. -/
theorem abs_decibelsAt_sub_le (fits : params.Fits (.exact powf)) {raw : SInt32} {x : K}
    (low : params.minRawVolume ≤ raw)
    (steps : raw.val = params.minRawVolume.val + params.decibelSteps (.exact powf) x)
    : |params.decibelsAt (.exact powf) raw - x| ≤ params.decibelStep (.exact powf) / 2 := by
  have step := fits.decibelStep_pos (FloatArithmetic.lawful_exact powf)
  let exactSteps := (x - params.minDecibelVolume) / params.decibelStep (.exact powf)
  have offset : params.decibelsAt (.exact powf) raw - x
      = ((roundAway exactSteps : K) - exactSteps) * params.decibelStep (.exact powf) := by
    have whole : exactSteps * params.decibelStep (.exact powf) = x - params.minDecibelVolume :=
      div_mul_cancel₀ _ step.ne'
    rw [decibelsAt_exact low, steps, add_sub_cancel_left, decibelSteps_exact, sub_mul, whole]
    ring
  calc
    |params.decibelsAt (.exact powf) raw - x|
        = |(roundAway exactSteps : K) - exactSteps| * params.decibelStep (.exact powf) := by
          rw [offset, abs_mul, abs_of_pos step]
    _ ≤ 1 / 2 * params.decibelStep (.exact powf) :=
          mul_le_mul_of_nonneg_right (abs_roundAway_sub_le exactSteps) step.le
    _ = params.decibelStep (.exact powf) / 2 := by ring

/-- The least number of decibels stands for the least raw value, and the largest for the largest.
-/
theorem ends_of_decibelSteps (fits : params.Fits (.exact powf)) {raw : SInt32} {x : K}
    (steps
      : raw.val = params.minRawVolume.val
        + params.decibelSteps (.exact powf)
            (max (min x params.maxDecibelVolume) params.minDecibelVolume))
    : (x < params.minDecibelVolume → raw = params.minRawVolume)
      ∧ (params.maxDecibelVolume < x → raw = params.maxRawVolume) := by
  constructor
  · intro below
    rw [max_eq_right ((min_le_left _ _).trans below.le),
      Fits.decibelSteps_min (FloatArithmetic.lawful_exact powf)] at steps
    exact SInt32.ext (by omega)
  · intro above
    rw [min_eq_right above.le, max_eq_left fits.decibels.le,
      decibelSteps_exact_max fits.decibels] at steps
    exact SInt32.ext (by omega)

end VolumeControlParameters

namespace VolumeControl

variable [LinearOrder K] [FloorRing K] [IsStrictOrderedRing K]

/-- `SetDecibelValue()` selects the raw value that is so many steps from the minimum. -/
theorem setDecibelValue_eq (fits : params.Fits (.exact powf)) (x : K)
    : ∃ value : SInt32,
        value.val = params.minRawVolume.val
          + params.decibelSteps (.exact powf)
              (max (min x params.maxDecibelVolume) params.minDecibelVolume)
        ∧ params.Holds value
        ∧ ∀ raw, params.Holds raw
            → ∃ outcome,
                ((new params).withRaw raw).setDecibelValue (.exact powf) x = .ok outcome
                ∧ outcome.control.getRawValue = value := by
  obtain ⟨value, converted, valueVal, holds⟩ := convertDBToRaw_holds fits x
  refine ⟨value, valueVal, holds, fun raw inRange => ?_⟩
  refine ⟨((new params).withRaw raw).setRawValue value, ?_, ?_⟩
  · exact bind_eq_ok_iff.mpr ⟨value, converted, rfl⟩
  · rw [setRawValue_control inRange, holds.clamp_eq]
    rfl

/-- Decibels are read back as they were set: setting the number of decibels of a raw value keeps
it. Setting any number selects a raw value that does not depend on the current one, that grows
with the number, that is nearest to it, and that is the bound where the number is out of range.
-/
theorem setDecibelValue_nearest (raw : params.minRawVolume < params.maxRawVolume)
    (range : params.maxRawVolume.val - params.minRawVolume.val < 2 ^ 31)
    (decibels : params.minDecibelVolume < params.maxDecibelVolume)
    : (∀ r, params.Holds r
        → ∃ x outcome,
            ((new params).withRaw r).getDecibelValue (.exact powf) = .ok x
            ∧ ((new params).withRaw r).setDecibelValue (.exact powf) x = .ok outcome
            ∧ outcome.control.getRawValue = r)
      ∧ ∃ chosen : K → SInt32,
          (∀ r x, params.Holds r
            → ∃ outcome,
                ((new params).withRaw r).setDecibelValue (.exact powf) x = .ok outcome
                ∧ outcome.control.getRawValue = chosen x)
          ∧ (∀ x y, x ≤ y → chosen x ≤ chosen y)
          ∧ (∀ x, ∃ decoded,
              ((new params).withRaw (chosen x)).getDecibelValue (.exact powf) = .ok decoded
              ∧ |decoded - max (min x params.maxDecibelVolume) params.minDecibelVolume|
                ≤ (params.maxDecibelVolume - params.minDecibelVolume)
                    / ((params.maxRawVolume.val - params.minRawVolume.val : Int) : K) / 2)
          ∧ (∀ x, x < params.minDecibelVolume → chosen x = params.minRawVolume)
          ∧ ∀ x, params.maxDecibelVolume < x → chosen x = params.maxRawVolume := by
  have fits : params.Fits (.exact powf) :=
    VolumeControlParameters.fits_exact_iff.mpr ⟨raw, decibels, by omega⟩
  have lawful := FloatArithmetic.lawful_exact powf
  choose chosen steps holds sets using setDecibelValue_eq fits
  refine ⟨?_, chosen, fun r x inRange => sets x r inRange, ?_, ?_, ?_, ?_⟩
  · intro r inRange
    obtain ⟨low, high⟩ := VolumeControlParameters.decibelsAt_mem fits inRange
    obtain ⟨outcome, set, left⟩ := sets (params.decibelsAt (.exact powf) r) r inRange
    have value := steps (params.decibelsAt (.exact powf) r)
    rw [min_eq_left high, max_eq_left low,
      VolumeControlParameters.decibelSteps_decibelsAt fits inRange.low] at value
    refine ⟨_, outcome, fits.convertRawToDB lawful inRange.low inRange.high, set, ?_⟩
    rw [left]
    exact SInt32.ext (by omega)
  · intro x y below
    have ordered := fits.decibelSteps_mono lawful
      (max_le_max_right params.minDecibelVolume (min_le_min_right params.maxDecibelVolume below))
    have first := steps x
    have second := steps y
    exact (show (chosen x).val ≤ (chosen y).val by omega)
  · intro x
    refine ⟨_, fits.convertRawToDB lawful (holds x).low (holds x).high, ?_⟩
    exact VolumeControlParameters.abs_decibelsAt_sub_le fits (holds x).low (steps x)
  · exact fun x => (VolumeControlParameters.ends_of_decibelSteps fits (steps x)).1
  · exact fun x => (VolumeControlParameters.ends_of_decibelSteps fits (steps x)).2

/-- With the default parameters, 17 raw units are read and set back. -/
theorem setDecibelValue_nearest_default
    : ∃ x outcome,
        ((new ({} : VolumeControlParameters ℚ)).withRaw ⟨17, by decide⟩).getDecibelValue
          (.exact fun x _ => x) = .ok x
        ∧ ((new ({} : VolumeControlParameters ℚ)).withRaw ⟨17, by decide⟩).setDecibelValue
          (.exact fun x _ => x) x = .ok outcome
        ∧ outcome.control.getRawValue = ⟨17, by decide⟩ :=
  (setDecibelValue_nearest (by decide) (by decide) (by norm_num)).1 ⟨17, by decide⟩
    ⟨by decide, by decide⟩

end VolumeControl

end Aspl.Volume
