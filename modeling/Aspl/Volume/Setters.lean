import Aspl.Volume.Conversions

/-! The setters of a volume control: what they store and whether they notify, and the raw values
that decibels and scalars are converted to without rounding.
-/

namespace Aspl.Volume

open Arithmetic

variable {K : Type} [Field K]

/-- A raw value in the range of the parameters. -/
structure VolumeControlParameters.Holds (params : VolumeControlParameters K) (raw : SInt32)
    : Prop where
  low : params.minRawVolume ≤ raw
  high : raw ≤ params.maxRawVolume

/-- A raw value moved into the range of the parameters. -/
def VolumeControlParameters.clamp (params : VolumeControlParameters K) (value : SInt32)
    : SInt32 :=
  max (min value params.maxRawVolume) params.minRawVolume

namespace VolumeControlParameters

variable {params : VolumeControlParameters K}

theorem holds_clamp (raw : params.minRawVolume ≤ params.maxRawVolume) (value : SInt32)
    : params.Holds (params.clamp value) :=
  ⟨le_max_right _ _, max_le (min_le_right _ _) raw⟩

theorem Holds.clamp_eq {value : SInt32} (inRange : params.Holds value)
    : params.clamp value = value := by
  rw [clamp, min_eq_left inRange.high, max_eq_left inRange.low]

end VolumeControlParameters

namespace VolumeControl

variable {params : VolumeControlParameters K} {raw : SInt32}

/-- The curve moves every raw value into the range. -/
theorem holds_clampRaw (raw : params.minRawVolume ≤ params.maxRawVolume) (value : SInt32)
    : params.Holds ((new params).volumeCurve.clampRaw value) := by
  rw [VolumeCurve.clampRaw, getMinimumRaw_new, getMaximumRaw_new]
  by_cases below : value < params.minRawVolume
  · simpa [below, not_lt.mpr raw] using ⟨le_rfl, raw⟩
  · by_cases above : params.maxRawVolume < value
    · simpa [below, above] using ⟨raw, le_rfl⟩
    · simpa [below, above] using ⟨not_lt.mp below, not_lt.mp above⟩

/-- `SetRawValue()` notifies unless its argument is the current volume. -/
theorem setRawValue_notification (control : VolumeControl K) (value : SInt32)
    : (control.setRawValue value).notification.isSome ↔ value ≠ control.rawVolume := by
  rw [setRawValue, getRawValue]
  split
  · rename_i same
    simp [same]
  · rename_i other
    simp [setRawValueImpl, other]

/-- `SetRawValue()` leaves its argument moved into the range. -/
theorem setRawValue_control (inRange : params.Holds raw) (value : SInt32)
    : (((new params).withRaw raw).setRawValue value).control
      = (new params).withRaw (params.clamp value) := by
  rw [setRawValue]
  split
  · rename_i same
    have current : value = raw := same
    rw [current, inRange.clamp_eq]
  · rfl

variable [LinearOrder K] [FloorRing K]

/-- A setter that succeeds has passed some raw value to `SetRawValue()`. -/
theorem exists_setRawValue {float : FloatArithmetic K} {control : VolumeControl K}
    {call : SetterCall K} {outcome : Outcome K}
    (performed : control.perform float call = .ok outcome)
    : ∃ value, outcome = control.setRawValue value := by
  cases call with
  | setRawValue value => exact ⟨value, (Except.ok.inj performed).symm⟩
  | setDecibelValue x =>
      obtain ⟨value, -, set⟩ := bind_eq_ok_iff.mp performed
      exact ⟨value, (Except.ok.inj set).symm⟩
  | setScalarValue x =>
      obtain ⟨value, -, set⟩ := bind_eq_ok_iff.mp performed
      exact ⟨value, (Except.ok.inj set).symm⟩

variable [IsStrictOrderedRing K] {powf : K → K → K}

/-- A number of decibels that was moved into the range is converted to a raw value in range. -/
theorem convertDBToRaw_holds (fits : params.Fits (.exact powf)) (x : K)
    : ∃ value : SInt32,
        (new params).volumeCurve.convertDBToRaw (.exact powf)
            (max (min x params.maxDecibelVolume) params.minDecibelVolume)
          = .ok value
        ∧ value.val = params.minRawVolume.val
          + params.decibelSteps (.exact powf)
              (max (min x params.maxDecibelVolume) params.minDecibelVolume)
        ∧ params.Holds value := by
  have lawful := FloatArithmetic.lawful_exact powf
  have low : params.minDecibelVolume
      ≤ max (min x params.maxDecibelVolume) params.minDecibelVolume := le_max_right _ _
  have high : max (min x params.maxDecibelVolume) params.minDecibelVolume
      ≤ params.maxDecibelVolume := max_le (min_le_right _ _) fits.decibels.le
  obtain ⟨value, valueEq, valueVal⟩ := fits.convertDBToRaw lawful low high
  have atLeast := fits.decibelSteps_mono lawful low
  have atMost := fits.decibelSteps_mono lawful high
  rw [VolumeControlParameters.Fits.decibelSteps_min lawful] at atLeast
  rw [VolumeControlParameters.decibelSteps_exact_max fits.decibels] at atMost
  refine ⟨value, valueEq, valueVal, ?_, ?_⟩
  · exact (show params.minRawVolume.val ≤ value.val by omega)
  · exact (show value.val ≤ params.maxRawVolume.val by omega)

/-- A scalar that was moved into the unit interval is converted to a raw value in range. -/
theorem convertScalarToRaw_holds (powers : PowerLaws (.exact powf))
    (fits : params.Fits (.exact powf)) (x : K)
    : ∃ value : SInt32,
        (new params).volumeCurve.convertScalarToRaw (.exact powf) (clampScalar x) = .ok value
        ∧ params.Holds value := by
  have lawful := FloatArithmetic.lawful_exact powf
  have low : 0 ≤ clampScalar x := le_max_right _ _
  have high : clampScalar x ≤ 1 := max_le (min_le_right _ _) zero_le_one
  obtain ⟨value, share, valueEq, shareLow, shareHigh, valueVal⟩ :=
    fits.convertScalarToRaw lawful powers low high
  have atLeast := fits.scalarSteps_mono lawful shareLow
  have atMost := fits.scalarSteps_mono lawful shareHigh
  rw [VolumeControlParameters.Fits.scalarSteps_zero lawful] at atLeast
  rw [VolumeControlParameters.scalarSteps_exact_one] at atMost
  refine ⟨value, valueEq, ?_, ?_⟩
  · exact (show params.minRawVolume.val ≤ value.val by omega)
  · exact (show value.val ≤ params.maxRawVolume.val by omega)

/-- The argument that a setter passes to `SetRawValue()`: for decibels and scalars it is in range.
-/
theorem perform_eq (powers : PowerLaws (.exact powf)) (fits : params.Fits (.exact powf))
    (raw : SInt32) (call : SetterCall K)
    : ∃ value : SInt32,
        ((new params).withRaw raw).perform (.exact powf) call
          = .ok (((new params).withRaw raw).setRawValue value)
        ∧ (call = .setRawValue value
          ∨ params.Holds value ∧ ∀ other, call ≠ .setRawValue other) := by
  cases call with
  | setRawValue value => exact ⟨value, rfl, Or.inl rfl⟩
  | setDecibelValue x =>
      obtain ⟨value, converted, -, holds⟩ := convertDBToRaw_holds fits x
      refine ⟨value, ?_, Or.inr ⟨holds, fun _ other => nomatch other⟩⟩
      exact bind_eq_ok_iff.mpr ⟨value, converted, rfl⟩
  | setScalarValue x =>
      obtain ⟨value, converted, holds⟩ := convertScalarToRaw_holds powers fits x
      refine ⟨value, ?_, Or.inr ⟨holds, fun _ other => nomatch other⟩⟩
      exact bind_eq_ok_iff.mpr ⟨value, converted, rfl⟩

end VolumeControl

end Aspl.Volume
