import Aspl.Base.System
import Aspl.Volume.FloatingPoint
import Mathlib.Data.Rat.Floor

/-! Faults of a volume control: the constructor checks no parameter, and exactly the parameters
that fit the arithmetic keep every operation of every reachable control from dividing by zero and
from overflowing an integer.
-/

namespace Aspl.Volume

open Arithmetic

variable {K : Type} [Field K] [LinearOrder K] [FloorRing K]

/-- The parameters fit a floating-point format: they fit its arithmetic, and the difference of the
bounds of decibels is finite.
-/
structure VolumeControlParameters.FitsFormat (format : Format K)
    (params : VolumeControlParameters K)
    : Prop
    extends params.Fits format.toFloatArithmetic where
  span
    : format.isFinite
        (format.toFloatArithmetic.sub params.maxDecibelVolume params.minDecibelVolume) = true

namespace VolumeControl

/-- The controls that setter calls lead to, where these calls succeed. -/
def setters (format : Format K) (params : VolumeControlParameters K)
    : System (VolumeControl K) (SetterCall K) :=
  .ofFunction (fun control => control = new params) (fun control call =>
    match FloatingPoint.perform format control call with
    | .ok outcome => some outcome.control
    | .error _ => none)

/-- No operation of a control has a fault, whatever its argument, and samples are multiplied by a
gain from the unit interval.
-/
structure FaultFree (format : Format K) (control : VolumeControl K) : Prop where
  getDecibelValue : ∃ result, FloatingPoint.getDecibelValue format control = .ok result
  getScalarValue
    : ∃ gain : K,
        FloatingPoint.getScalarValue format control = .ok (.finite gain) ∧ 0 ≤ gain ∧ gain ≤ 1
  setDecibelValue
    : ∀ value, ∃ result, FloatingPoint.setDecibelValue format control value = .ok result
  setScalarValue
    : ∀ value, ∃ result, FloatingPoint.setScalarValue format control value = .ok result
  convertScalarToDecibels
    : ∀ value, ∃ result, FloatingPoint.convertScalarToDecibels format control value = .ok result
  convertDecibelsToScalar
    : ∀ value, ∃ result, FloatingPoint.convertDecibelsToScalar format control value = .ok result
  applyProcessing
    : ∀ frames frameCount channelCount,
        ∃ gain : K, 0 ≤ gain ∧ gain ≤ 1
          ∧ FloatingPoint.applyProcessing format control frames frameCount channelCount
            = .ok ((frames.take (frameCount * channelCount).toNat).map
                (FloatingPoint.processSample format (.finite gain))
              ++ frames.drop (frameCount * channelCount).toNat)

variable {format : Format K} {float : FloatArithmetic K} {params : VolumeControlParameters K}

/-- A setter that succeeds has passed some raw value to `SetRawValue()`. -/
theorem perform_setRawValue {control : VolumeControl K} {call : SetterCall K}
    {outcome : Outcome K} (performed : FloatingPoint.perform format control call = .ok outcome)
    : ∃ value, outcome = control.setRawValue value := by
  cases call with
  | setRawValue value => exact ⟨value, (Except.ok.inj performed).symm⟩
  | setDecibelValue x =>
      obtain ⟨value, -, set⟩ := bind_eq_ok_iff.mp performed
      exact ⟨value, (Except.ok.inj set).symm⟩
  | setScalarValue x =>
      obtain ⟨value, -, set⟩ := bind_eq_ok_iff.mp performed
      exact ⟨value, (Except.ok.inj set).symm⟩

/-- Whatever the parameters, only the volume changes, and it stays in range. -/
theorem setters_invariant (raw : params.minRawVolume ≤ params.maxRawVolume)
    : (setters format params).Invariant (fun control =>
        ∃ value, control = (new params).withRaw value ∧ params.Holds value) where
  initial := by
    rintro control rfl
    exact ⟨params.maxRawVolume, rfl, raw, le_rfl⟩
  step := by
    rintro control call next ⟨current, rfl, inRange⟩ taken
    simp only [setters, System.ofFunction] at taken
    split at taken
    · rename_i outcome performed
      obtain ⟨value, rfl⟩ := perform_setRawValue performed
      obtain rfl := Option.some.inj taken
      exact ⟨_, setRawValue_control inRange value,
        VolumeControlParameters.holds_clamp raw value⟩
    · exact absurd taken (by simp)

variable [IsStrictOrderedRing K]

-----------------------------------------------------------------------------------------
-- Parameters that fit
-----------------------------------------------------------------------------------------

/-- A raw value is converted to a scalar like the value that it is moved to. -/
theorem convertRawToScalar_total (lawful : float.Lawful) (powers : PowerLaws float)
    (fits : params.Fits float) (value : SInt32)
    : ∃ scalar : K,
        (new params).volumeCurve.convertRawToScalar float value = .ok scalar
        ∧ 0 ≤ scalar ∧ scalar ≤ 1 := by
  have inRange := holds_clampRaw fits.raw.le value
  obtain ⟨scalar, converted, unit⟩ :=
    fits.convertRawToScalar lawful powers inRange.low inRange.high
  refine ⟨scalar, ?_, unit⟩
  rw [VolumeCurve.convertRawToScalar, clampRaw_new inRange.low inRange.high] at converted
  rw [VolumeCurve.convertRawToScalar]
  exact converted

/-- A raw value has a number of decibels. -/
theorem convertRawToDB_total (lawful : format.Lawful)
    (fits : params.Fits format.toFloatArithmetic) (value : SInt32)
    : ∃ decibels,
        FloatingPoint.convertRawToDB format (new params).volumeCurve value = .ok decibels := by
  obtain ⟨range, rangeEq, -⟩ := fits.rawRange_eq
  have nonzero :=
    VolumeControlParameters.Fits.floatRange_ne_zero lawful.toLawful fits
  exact FloatingPoint.exists_convertRawToDB lawful fits.raw.le rangeEq nonzero value

/-- With parameters that fit, no operation has a fault at any volume. -/
theorem faultFree_of_fits (lawful : format.Lawful)
    (powers : PowerLaws format.toFloatArithmetic) (fits : params.FitsFormat format)
    (value : SInt32)
    : ((new params).withRaw value).FaultFree format := by
  have toScalar (raw : SInt32) : ∃ gain : K,
      FloatingPoint.convertRawToScalar format (new params).volumeCurve raw
        = .ok (.finite gain) ∧ 0 ≤ gain ∧ gain ≤ 1 := by
    obtain ⟨gain, scalar, unit⟩ :=
      convertRawToScalar_total lawful.toLawful powers fits.toFits raw
    refine ⟨gain, ?_, unit⟩
    rw [FloatingPoint.convertRawToScalar_eq lawful powers fits.raw.le fits.decibels.le, scalar]
    rfl
  have decibelsToRaw : ∀ x, ∃ raw,
      FloatingPoint.convertDBToRaw format (new params).volumeCurve
        ((new params).clampDecibels x) = .ok raw := by
    intro x
    have low := le_max_right (min x params.maxDecibelVolume) params.minDecibelVolume
    have high : max (min x params.maxDecibelVolume) params.minDecibelVolume
        ≤ params.maxDecibelVolume :=
      max_le (min_le_right x params.maxDecibelVolume) fits.decibels.le
    obtain ⟨raw, converted, -⟩ := fits.toFits.convertDBToRaw lawful.toLawful low high
    refine ⟨raw, ?_⟩
    exact (FloatingPoint.convertDBToRaw_eq lawful fits.raw.le fits.span low high).trans converted
  have scalarToRaw : ∀ x, ∃ raw,
      FloatingPoint.convertScalarToRaw format (new params).volumeCurve (clampScalar x)
        = .ok raw := by
    intro x
    obtain ⟨raw, -, converted, -⟩ := fits.toFits.convertScalarToRaw lawful.toLawful powers
      (le_max_right (min x 1) 0) (max_le (min_le_right x 1) zero_le_one)
    refine ⟨raw, ?_⟩
    rw [FloatingPoint.convertScalarToRaw_eq lawful powers fits.raw.le fits.decibels.le]
    exact converted
  obtain ⟨gain, scalar, gainLow, gainHigh⟩ := toScalar value
  refine {
    getDecibelValue := convertRawToDB_total lawful fits.toFits value
    getScalarValue := ⟨gain, scalar, gainLow, gainHigh⟩
    setDecibelValue := ?_
    setScalarValue := ?_
    convertScalarToDecibels := ?_
    convertDecibelsToScalar := ?_
    applyProcessing := ?_
  }
  · intro x
    obtain ⟨raw, converted⟩ := decibelsToRaw x
    exact ⟨_, bind_eq_ok_iff.mpr ⟨raw, converted, rfl⟩⟩
  · intro x
    obtain ⟨raw, converted⟩ := scalarToRaw x
    exact ⟨_, bind_eq_ok_iff.mpr ⟨raw, converted, rfl⟩⟩
  · intro x
    obtain ⟨raw, converted⟩ := scalarToRaw x
    obtain ⟨decibels, back⟩ := convertRawToDB_total lawful fits.toFits raw
    exact ⟨decibels, bind_eq_ok_iff.mpr ⟨raw, converted, back⟩⟩
  · intro x
    obtain ⟨raw, converted⟩ := decibelsToRaw x
    obtain ⟨share, back, -⟩ := toScalar raw
    exact ⟨_, bind_eq_ok_iff.mpr ⟨raw, converted, back⟩⟩
  · intro frames frameCount channelCount
    exact ⟨gain, gainLow, gainHigh, bind_eq_ok_iff.mpr ⟨_, scalar, rfl⟩⟩

-----------------------------------------------------------------------------------------
-- Parameters that do not fit
-----------------------------------------------------------------------------------------

omit [FloorRing K] [IsStrictOrderedRing K] in
/-- The conversion to a scalar subtracts the raw bounds and divides by their difference. -/
theorem range_of_convertRawToScalar {value : SInt32} {gain : K}
    (scalar : (new params).volumeCurve.convertRawToScalar float value = .ok gain)
    : ∃ range : SInt32,
        params.maxRawVolume.sub params.minRawVolume = .ok range
        ∧ range.val = params.maxRawVolume.val - params.minRawVolume.val
        ∧ params.floatRange float ≠ 0 := by
  obtain ⟨range, rangeEq, scalar⟩ := bind_eq_ok_iff.mp scalar
  obtain ⟨distance, -, scalar⟩ := bind_eq_ok_iff.mp scalar
  obtain ⟨quotient, divided, -⟩ := bind_eq_ok_iff.mp scalar
  have rangeVal := SInt32.ofValue_eq_ok_iff.mp rangeEq
  have nonzero := (FloatArithmetic.div_eq_ok_iff.mp divided).1
  rw [VolumeControlParameters.Fits.ofSInt32_range rangeVal] at nonzero
  exact ⟨range, rangeEq, rangeVal, nonzero⟩

/-- A number of steps that is cast and added to the minimum without a fault is not too large. -/
theorem bound_of_addSteps {steps : Int} {value : SInt32}
    (added
      : (FloatArithmetic.toSInt32 (steps : K) >>= params.minRawVolume.add) = .ok value)
    : steps ≤ 2 ^ 31 - 1 ∧ params.minRawVolume.val + steps ≤ 2 ^ 31 - 1 := by
  obtain ⟨whole, cast, sum⟩ := bind_eq_ok_iff.mp added
  rw [FloatArithmetic.toSInt32, truncate_intCast] at cast
  have wholeVal := SInt32.ofValue_eq_ok_iff.mp cast
  have sumVal := SInt32.ofValue_eq_ok_iff.mp sum
  have wholeBound := whole.property.2
  have valueBound := value.property.2
  omega

/-- The conversion of the largest number of decibels divides by the step and adds the steps to the
minimum.
-/
theorem top_of_convertDBToRaw {range value : SInt32}
    (decibels : params.minDecibelVolume ≤ params.maxDecibelVolume)
    (rangeEq : params.maxRawVolume.sub params.minRawVolume = .ok range)
    (rangeFloat : float.ofSInt32 range = params.floatRange float)
    (rangeNonzero : params.floatRange float ≠ 0)
    (converted
      : (new params).volumeCurve.convertDBToRaw float params.maxDecibelVolume = .ok value)
    : params.decibelStep float ≠ 0
      ∧ params.decibelSteps float params.maxDecibelVolume ≤ 2 ^ 31 - 1
      ∧ params.minRawVolume.val + params.decibelSteps float params.maxDecibelVolume
        ≤ 2 ^ 31 - 1 := by
  rw [convertDBToRaw_new decibels le_rfl, rangeEq, ok_bind, rangeFloat,
    float.div_ok _ rangeNonzero, ok_bind] at converted
  obtain ⟨steps, divided, added⟩ := bind_eq_ok_iff.mp converted
  obtain ⟨nonzero, rfl⟩ := FloatArithmetic.div_eq_ok_iff.mp divided
  exact ⟨nonzero, bound_of_addSteps added⟩

/-- The conversion of one adds the steps of the whole range to the minimum. -/
theorem top_of_convertScalarToRaw (lawful : float.Lawful) (powers : PowerLaws float)
    {range value : SInt32}
    (rangeEq : params.maxRawVolume.sub params.minRawVolume = .ok range)
    (rangeFloat : float.ofSInt32 range = params.floatRange float)
    (converted : (new params).volumeCurve.convertScalarToRaw float 1 = .ok value)
    : params.scalarSteps float 1 ≤ 2 ^ 31 - 1
      ∧ params.minRawVolume.val + params.scalarSteps float 1 ≤ 2 ^ 31 - 1 := by
  obtain ⟨share, undone, -, -, whole⟩ :=
    (new params).volumeCurve.applyCurve_unit lawful powers zero_le_one two_pos
      zero_le_one le_rfl
  obtain rfl := whole rfl
  have ranged : min (1 : K) (max 0 1) = 1 := by
    rw [max_eq_right zero_le_one, min_self]
  rw [VolumeCurve.convertScalarToRaw, getMaximumRaw_new, getMinimumRaw_new, rangeEq,
    ok_bind, ranged] at converted
  obtain ⟨scalar, applied, added⟩ := bind_eq_ok_iff.mp converted
  obtain rfl := Except.ok.inj (undone.symm.trans applied)
  rw [rangeFloat] at added
  exact bound_of_addSteps added

/-- A control whose operations have no fault has parameters that fit: each condition is read off
an operation that would have a fault otherwise.
-/
theorem fits_of_faultFree (lawful : format.Lawful)
    (powers : PowerLaws format.toFloatArithmetic)
    (raw : params.minRawVolume ≤ params.maxRawVolume)
    (decibels : params.minDecibelVolume ≤ params.maxDecibelVolume)
    (faultFree : (new params).FaultFree format)
    : params.FitsFormat format := by
  have top : (new params).clampDecibels params.maxDecibelVolume = params.maxDecibelVolume := by
    rw [clampDecibels, getMaximumDB_new, getMinimumDB_new, min_self, max_eq_left decibels]
  have one : clampScalar (1 : K) = 1 := by
    rw [clampScalar, min_self, max_eq_left zero_le_one]
  obtain ⟨_, setDecibels⟩ := faultFree.setDecibelValue params.maxDecibelVolume
  obtain ⟨topRaw, topConverted, -⟩ := bind_eq_ok_iff.mp setDecibels
  rw [top] at topConverted
  have span : format.isFinite
      (format.toFloatArithmetic.sub params.maxDecibelVolume params.minDecibelVolume) = true :=
    by_contra fun infinite =>
      FloatingPoint.convertDBToRaw_of_infinite lawful decibels infinite topRaw topConverted
  obtain ⟨gain, scalar, -⟩ := faultFree.getScalarValue
  obtain ⟨exactGain, exactScalar⟩ : ∃ exactGain : K,
      (new params).volumeCurve.convertRawToScalar format.toFloatArithmetic params.maxRawVolume
        = .ok exactGain := by
    change FloatingPoint.convertRawToScalar format (new params).volumeCurve
      params.maxRawVolume = _ at scalar
    rw [FloatingPoint.convertRawToScalar_eq lawful powers raw decibels] at scalar
    cases exactly : (new params).volumeCurve.convertRawToScalar format.toFloatArithmetic
        params.maxRawVolume with
    | error fault =>
        rw [exactly] at scalar
        cases scalar
    | ok value => exact ⟨value, rfl⟩
  obtain ⟨range, rangeEq, rangeVal, rangeNonzero⟩ := range_of_convertRawToScalar exactScalar
  have rangeFloat : format.toFloatArithmetic.ofSInt32 range
      = params.floatRange format.toFloatArithmetic :=
    VolumeControlParameters.Fits.ofSInt32_range rangeVal
  rw [FloatingPoint.convertDBToRaw_eq lawful raw span decibels le_rfl] at topConverted
  obtain ⟨stepNonzero, topDecibel⟩ :=
    top_of_convertDBToRaw decibels rangeEq rangeFloat rangeNonzero topConverted
  obtain ⟨_, setScalar⟩ := faultFree.setScalarValue 1
  obtain ⟨wholeRaw, wholeConverted, -⟩ := bind_eq_ok_iff.mp setScalar
  rw [one] at wholeConverted
  change FloatingPoint.convertScalarToRaw format (new params).volumeCurve 1 = _
    at wholeConverted
  rw [FloatingPoint.convertScalarToRaw_eq lawful powers raw decibels] at wholeConverted
  have topScalar :=
    top_of_convertScalarToRaw lawful.toLawful powers rangeEq rangeFloat wholeConverted
  refine {
    raw := lt_of_le_of_ne raw ?_
    decibels := lt_of_le_of_ne decibels ?_
    range := rangeVal ▸ range.property.2
    step := stepNonzero
    topDecibel := topDecibel
    topScalar := topScalar
    span := span
  }
  · -- Equal raw bounds leave a range of zero to divide by.
    intro same
    refine rangeNonzero ?_
    rw [VolumeControlParameters.floatRange, same, sub_self, Int.cast_zero, lawful.zero]
  · -- Equal decibel bounds leave a step of zero to divide by.
    intro same
    refine stepNonzero ?_
    rw [VolumeControlParameters.decibelStep, FloatArithmetic.sub, same, sub_self, lawful.zero,
      zero_div, lawful.zero]

-----------------------------------------------------------------------------------------
-- Runs
-----------------------------------------------------------------------------------------

/-- The parameters of a control that keep every reachable control from faults. -/
def Safe (format : Format K) (params : VolumeControlParameters K) : Prop :=
  ∀ control, (setters format params).Reachable control → control.FaultFree format

/-- Exactly the parameters that fit the format are safe. -/
theorem safe_iff_fits (lawful : format.Lawful) (powers : PowerLaws format.toFloatArithmetic)
    (raw : params.minRawVolume ≤ params.maxRawVolume)
    (decibels : params.minDecibelVolume ≤ params.maxDecibelVolume)
    : Safe format params ↔ params.FitsFormat format := by
  constructor
  · intro safe
    exact fits_of_faultFree lawful powers raw decibels (safe _ (.initial rfl))
  · intro fits control reached
    obtain ⟨value, rfl, -⟩ := (setters_invariant raw).reachable reached
    exact faultFree_of_fits lawful powers fits value

/-- Exactly the parameters that fit the format are safe. Without rounding and limits these are the
ones with proper ranges whose raw range can be represented.
-/
theorem faultFree_iff (lawful : format.Lawful) (powers : PowerLaws format.toFloatArithmetic)
    (raw : params.minRawVolume ≤ params.maxRawVolume)
    (decibels : params.minDecibelVolume ≤ params.maxDecibelVolume)
    : (Safe format params ↔ params.FitsFormat format)
      ∧ (Safe (.exact format.powf) params
          ↔ params.minRawVolume < params.maxRawVolume
            ∧ params.minDecibelVolume < params.maxDecibelVolume
            ∧ params.maxRawVolume.val - params.minRawVolume.val < 2 ^ 31) := by
  refine ⟨safe_iff_fits lawful powers raw decibels, ?_⟩
  have exactPowers : PowerLaws (Format.exact format.powf).toFloatArithmetic :=
    ⟨powers.unit, powers.one⟩
  rw [safe_iff_fits (Format.lawful_exact format.powf) exactPowers raw decibels]
  have limitless : params.FitsFormat (.exact format.powf)
      ↔ params.Fits (.exact format.powf) :=
    ⟨fun fits => fits.toFits, fun fits => ⟨fits, rfl⟩⟩
  rw [limitless, VolumeControlParameters.fits_exact_iff]
  refine and_congr_right (fun _ => and_congr_right (fun _ => ?_))
  omega

/-- The default parameters are safe. -/
theorem faultFree_iff_default : Safe (.exact Real.rpow) ({} : VolumeControlParameters ℝ) :=
  (faultFree_iff (Format.lawful_exact Real.rpow) powerLaws_rpow (by decide)
    (by norm_num)).2.mpr ⟨by decide, by norm_num, by decide⟩

/-- Finite bounds of decibels are not safe where their difference overflows. -/
example
    : ¬Safe (.upTo (34 * 10 ^ 37) fun x _ => x)
        ({ minDecibelVolume := -3 * 10 ^ 38, maxDecibelVolume := 3 * 10 ^ 38 } :
          VolumeControlParameters ℚ) := by
  intro safe
  have powers : PowerLaws (Format.upTo (34 * 10 ^ 37) fun x _ => x : Format ℚ).toFloatArithmetic :=
    ⟨fun _ _ low high _ => ⟨low, high⟩, fun _ => rfl⟩
  have fits :=
    (safe_iff_fits (Format.lawful_upTo (by norm_num) _) powers (by decide) (by norm_num)).mp safe
  have tooLarge : ¬|(3 * 10 ^ 38 - -3 * 10 ^ 38 : ℚ)| ≤ 34 * 10 ^ 37 := by norm_num
  exact tooLarge (of_decide_eq_true fits.span)

/-- With equal raw bounds, the first `GetScalarValue()` divides by zero. -/
theorem not_safe_of_equal_raw_bounds
    : let params : VolumeControlParameters ℚ := { maxRawVolume := ⟨0, by decide⟩ }
      params.minRawVolume ≤ params.maxRawVolume
      ∧ params.minDecibelVolume ≤ params.maxDecibelVolume
      ∧ FloatingPoint.getScalarValue (.exact fun x _ => x) (new params)
        = .error .divisionByZero
      ∧ ¬Safe (.exact fun x _ => x) params := by
  refine ⟨by decide, by norm_num, rfl, ?_⟩
  intro safe
  obtain ⟨gain, scalar, -⟩ := (safe _ (.initial rfl)).getScalarValue
  cases scalar

end VolumeControl

end Aspl.Volume
