import Aspl.Base.FloatingPoint
import Aspl.Volume.Setters

/-! The conversions of `VolumeCurve` and the operations of `VolumeControl` in a floating-point
format, where results may become infinite or no numbers. They are the operations of the curve and
of the control but for this, and agree with them as long as the range of decibels is finite.
-/

namespace Aspl.Volume.FloatingPoint

open Arithmetic CoreAudio

variable {K : Type} [Field K] [LinearOrder K]

-----------------------------------------------------------------------------------------
-- The conversions
-----------------------------------------------------------------------------------------

section Conversions

variable (format : Format K)

/-- A scalar raised to a power, but only where the decibels range over more than 30. -/
def applyCurve (curve : VolumeCurve K) (numerator denominator : K) (scalar : Number K)
    : Except Fault (Number K) :=
  let theDBRange := format.sub (.finite curve.getMaximumDB) (.finite curve.getMinimumDB)
  if curve.mIsApplyingTransferFunction && Number.less (.finite ((30 : Nat) : K)) theDBRange then do
    let exponent ← format.div (.finite numerator) (.finite denominator)
    return format.pow scalar exponent
  else return scalar

/-- The loop of `ConvertRawToDB()` over the entries that are left. -/
def addDecibels : CurveMap K → SInt32 → Number K → Except Fault (Number K)
  | [], _, theAnswer => .ok theAnswer
  | (raw, db) :: rest, theNumberRawSteps, theAnswer =>
      if 0 < theNumberRawSteps.val then do
        let theRawRange ← raw.mMaximum.sub raw.mMinimum
        let theDBRange := format.sub (.finite db.mMaximum) (.finite db.mMinimum)
        let theDBPerRaw ← format.div theDBRange (format.ofSInt32 theRawRange)
        let theRawStepsToAdd := min theRawRange theNumberRawSteps
        let theAnswer :=
          format.add theAnswer (format.mul (format.ofSInt32 theRawStepsToAdd) theDBPerRaw)
        let theNumberRawSteps ← theNumberRawSteps.sub theRawStepsToAdd
        addDecibels rest theNumberRawSteps theAnswer
      else .ok theAnswer

/-- `VolumeCurve::ConvertRawToDB()`. -/
def convertRawToDB (curve : VolumeCurve K) (inRaw : SInt32) : Except Fault (Number K) := do
  let theNumberRawSteps ← (curve.clampRaw inRaw).sub curve.getMinimumRaw
  match curve.mCurveMap with
  | [] => .error .endIterator
  | (raw, db) :: rest =>
      addDecibels format ((raw, db) :: rest) theNumberRawSteps (.finite db.mMinimum)

/-- `VolumeCurve::ConvertRawToScalar()`. -/
def convertRawToScalar (curve : VolumeCurve K) (inRaw : SInt32) : Except Fault (Number K) := do
  let theRawRange ← curve.getMaximumRaw.sub curve.getMinimumRaw
  let distance ← (curve.clampRaw inRaw).sub curve.getMinimumRaw
  let theAnswer ← format.div (format.ofSInt32 distance) (format.ofSInt32 theRawRange)
  applyCurve format curve curve.mRawToScalarExponentNumerator
    curve.mRawToScalarExponentDenominator theAnswer

variable [FloorRing K]

/-- The loop of `ConvertDBToRaw()` over the entries that are left. -/
def addRawSteps (inDB : K) : CurveMap K → SInt32 → Except Fault SInt32
  | [], theAnswer => .ok theAnswer
  | (raw, db) :: rest, theAnswer => do
      let theRawRange ← raw.mMaximum.sub raw.mMinimum
      let theDBRange := format.sub (.finite db.mMaximum) (.finite db.mMinimum)
      let theDBPerRaw ← format.div theDBRange (format.ofSInt32 theRawRange)
      if db.mMaximum < inDB then
        -- Past the end of this entry: its whole range is added.
        let theAnswer ← theAnswer.add theRawRange
        addRawSteps inDB rest theAnswer
      else
        let theNumberRawSteps ←
          format.div (format.sub (.finite inDB) (.finite db.mMinimum)) theDBPerRaw
        let wholeSteps ← theNumberRawSteps.roundAway.toSInt32
        theAnswer.add wholeSteps

/-- `VolumeCurve::ConvertDBToRaw()`. -/
def convertDBToRaw (curve : VolumeCurve K) (inDB : K) : Except Fault SInt32 :=
  let inDB := if inDB < curve.getMinimumDB then curve.getMinimumDB else inDB
  let inDB := if curve.getMaximumDB < inDB then curve.getMaximumDB else inDB
  match curve.mCurveMap with
  | [] => .error .endIterator
  | (raw, db) :: rest => addRawSteps format inDB ((raw, db) :: rest) raw.mMinimum

/-- `VolumeCurve::ConvertDBToScalar()`. -/
def convertDBToScalar (curve : VolumeCurve K) (inDB : K) : Except Fault (Number K) := do
  let theRawValue ← convertDBToRaw format curve inDB
  convertRawToScalar format curve theRawValue

/-- `VolumeCurve::ConvertScalarToRaw()`. -/
def convertScalarToRaw (curve : VolumeCurve K) (inScalar : K) : Except Fault SInt32 := do
  let inScalar := min 1 (max 0 inScalar)
  let theRawRange ← curve.getMaximumRaw.sub curve.getMinimumRaw
  -- The exponent is inverted here, to undo the curve.
  let inScalar ← applyCurve format curve curve.mRawToScalarExponentDenominator
    curve.mRawToScalarExponentNumerator (.finite inScalar)
  let theNumberRawSteps := format.mul inScalar (format.ofSInt32 theRawRange)
  let wholeSteps ← theNumberRawSteps.roundAway.toSInt32
  curve.getMinimumRaw.add wholeSteps

/-- `VolumeCurve::ConvertScalarToDB()`. -/
def convertScalarToDB (curve : VolumeCurve K) (inScalar : K) : Except Fault (Number K) := do
  let theRawValue ← convertScalarToRaw format curve inScalar
  convertRawToDB format curve theRawValue

/-- `VolumeControl::GetDecibelValue()`. -/
def getDecibelValue (control : VolumeControl K) : Except Fault (Number K) :=
  convertRawToDB format control.volumeCurve control.rawVolume

/-- `VolumeControl::SetDecibelValue()`. -/
def setDecibelValue (control : VolumeControl K) (value : K) : Except Fault (Outcome K) := do
  let raw ← convertDBToRaw format control.volumeCurve (control.clampDecibels value)
  return control.setRawValue raw

/-- `VolumeControl::GetScalarValue()`. -/
def getScalarValue (control : VolumeControl K) : Except Fault (Number K) :=
  convertRawToScalar format control.volumeCurve control.rawVolume

/-- `VolumeControl::SetScalarValue()`. -/
def setScalarValue (control : VolumeControl K) (value : K) : Except Fault (Outcome K) := do
  let raw ← convertScalarToRaw format control.volumeCurve (VolumeControl.clampScalar value)
  return control.setRawValue raw

/-- `VolumeControl::ConvertScalarToDecibels()`. -/
def convertScalarToDecibels (control : VolumeControl K) (value : K) : Except Fault (Number K) :=
  convertScalarToDB format control.volumeCurve (VolumeControl.clampScalar value)

/-- `VolumeControl::ConvertDecibelsToScalar()`. -/
def convertDecibelsToScalar (control : VolumeControl K) (value : K) : Except Fault (Number K) :=
  convertDBToScalar format control.volumeCurve (control.clampDecibels value)

/-- A sample multiplied by the volume, and clipped. -/
def processSample (volume sample : Number K) : Number K :=
  let s := format.mul sample volume
  let s := if Number.less (.finite 1) s then .finite 1 else s
  if Number.less s (.finite (-1)) then .finite (-1) else s

/-- `VolumeControl::ApplyProcessing()`. The number of samples is a product of 32-bit numbers. -/
def applyProcessing (control : VolumeControl K) (frames : List (Number K))
    (frameCount channelCount : UInt32)
    : Except Fault (List (Number K)) := do
  let volume ← getScalarValue format control
  let count := (frameCount * channelCount).toNat
  return (frames.take count).map (processSample format volume) ++ frames.drop count

/-- A call of a setter. -/
def perform (control : VolumeControl K) : SetterCall K → Except Fault (Outcome K)
  | .setRawValue value => .ok (control.setRawValue value)
  | .setDecibelValue value => setDecibelValue format control value
  | .setScalarValue value => setScalarValue format control value

end Conversions

-----------------------------------------------------------------------------------------
-- A control, whose curve has one range
-----------------------------------------------------------------------------------------

variable [IsStrictOrderedRing K] {format : Format K} {params : VolumeControlParameters K}

/-- An infinite range of decibels is one over more than 30. -/
theorem less_range (lawful : format.Lawful) {low high : K} (ordered : low ≤ high)
    : Number.less (.finite ((30 : Nat) : K)) (format.sub (.finite high) (.finite low))
      = decide (30 < format.toFloatArithmetic.sub high low) := by
  rw [Nat.cast_ofNat]
  change Number.less (.finite 30) (format.limit (format.toFloatArithmetic.sub high low)) = _
  have nonneg : 0 ≤ format.toFloatArithmetic.sub high low := by
    rw [FloatArithmetic.sub, ← lawful.zero]
    exact lawful.monotone (sub_nonneg.mpr ordered)
  by_cases finite : format.isFinite (format.toFloatArithmetic.sub high low) = true
  · rw [Format.limit_of_finite finite]
    rfl
  · rw [Format.limit_of_not_finite finite]
    have large := lawful.large_of_not_finite finite
    rw [abs_of_nonneg nonneg] at large
    have wide : 30 < format.toFloatArithmetic.sub high low := by linarith
    simp [Number.less, not_lt.mpr nonneg, wide]

/-- On the unit interval, the curve is that of exact numbers. -/
theorem applyCurve_eq (lawful : format.Lawful) (powers : PowerLaws format.toFloatArithmetic)
    {curve : VolumeCurve K} (decibels : curve.getMinimumDB ≤ curve.getMaximumDB)
    {numerator denominator scalar : K} (nonneg : 0 ≤ numerator) (positive : 0 < denominator)
    (small : numerator / denominator ≤ 2 ^ 31) (low : 0 ≤ scalar) (high : scalar ≤ 1)
    : applyCurve format curve numerator denominator (.finite scalar)
      = (curve.applyCurve format.toFloatArithmetic numerator denominator scalar).map .finite := by
  have quotient : 0 ≤ numerator / denominator := div_nonneg nonneg positive.le
  have exponent : 0 ≤ format.round (numerator / denominator) := by
    rw [← lawful.zero]
    exact lawful.monotone quotient
  have finite := lawful.abs_round_le (abs_le.mpr ⟨by linarith, small⟩)
  obtain ⟨powerLow, powerHigh⟩ :=
    powers.unit scalar (format.round (numerator / denominator)) low high exponent
  have power : |format.powf scalar (format.round (numerator / denominator))| ≤ 2 ^ 31 :=
    abs_le.mpr ⟨by linarith, by linarith⟩
  simp only [applyCurve, VolumeCurve.applyCurve, less_range lawful decibels, Format.div_finite,
    FloatArithmetic.div_ok _ _ positive.ne', Except.map, ok_bind,
    Format.limit_of_finite (lawful.small _ finite)]
  split
  · exact congrArg Except.ok (Format.limit_of_finite (lawful.small _ power))
  · rfl

/-- The conversion to a scalar is that of exact numbers. -/
theorem convertRawToScalar_eq (lawful : format.Lawful)
    (powers : PowerLaws format.toFloatArithmetic)
    (raw : params.minRawVolume ≤ params.maxRawVolume)
    (decibels : params.minDecibelVolume ≤ params.maxDecibelVolume) (value : SInt32)
    : convertRawToScalar format (VolumeControl.new params).volumeCurve value
      = ((VolumeControl.new params).volumeCurve.convertRawToScalar format.toFloatArithmetic
          value).map .finite := by
  have inRange := VolumeControl.holds_clampRaw raw value
  rw [convertRawToScalar, VolumeCurve.convertRawToScalar, VolumeControl.getMaximumRaw_new,
    VolumeControl.getMinimumRaw_new]
  cases rangeEq : params.maxRawVolume.sub params.minRawVolume with
  | error fault => rfl
  | ok range =>
      cases distanceEq : ((VolumeControl.new params).volumeCurve.clampRaw value).sub
          params.minRawVolume with
      | error fault => rfl
      | ok distance =>
          simp only [ok_bind, lawful.ofSInt32_eq, Format.div_finite]
          have rangeVal := SInt32.ofValue_eq_ok_iff.mp rangeEq
          have distanceVal := SInt32.ofValue_eq_ok_iff.mp distanceEq
          have nonneg : 0 ≤ format.toFloatArithmetic.ofSInt32 distance := by
            rw [FloatArithmetic.ofSInt32, ← lawful.zero]
            refine lawful.monotone ?_
            have ordered : params.minRawVolume.val ≤ _ := inRange.low
            exact_mod_cast (show (0 : Int) ≤ distance.val by omega)
          have ordered : format.toFloatArithmetic.ofSInt32 distance
              ≤ format.toFloatArithmetic.ofSInt32 range := by
            refine lawful.monotone ?_
            have above : _ ≤ params.maxRawVolume.val := inRange.high
            exact_mod_cast (show distance.val ≤ range.val by omega)
          rw [FloatArithmetic.div]
          split
          · rfl
          · rename_i nonzero
            have positive : 0 < format.toFloatArithmetic.ofSInt32 range :=
              lt_of_le_of_ne (nonneg.trans ordered) (Ne.symm nonzero)
            have low : 0 ≤ format.round (format.toFloatArithmetic.ofSInt32 distance
                / format.toFloatArithmetic.ofSInt32 range) := by
              rw [← lawful.zero]
              exact lawful.monotone (div_nonneg nonneg positive.le)
            have high : format.round (format.toFloatArithmetic.ofSInt32 distance
                / format.toFloatArithmetic.ofSInt32 range) ≤ 1 := by
              rw [← lawful.one]
              exact lawful.monotone ((div_le_one positive).mpr ordered)
            simp only [Except.map, ok_bind]
            rw [Format.limit_of_finite
              (lawful.small _ (abs_le.mpr ⟨by linarith, by linarith⟩))]
            have exponent : (2 : K) / 1 ≤ 2 ^ 31 := by norm_num
            have proper : (VolumeControl.new params).volumeCurve.getMinimumDB
                ≤ (VolumeControl.new params).volumeCurve.getMaximumDB := decibels
            exact applyCurve_eq lawful powers proper zero_le_two one_pos exponent low high

variable [FloorRing K]

/-- The conversion of a scalar is that of exact numbers. -/
theorem convertScalarToRaw_eq (lawful : format.Lawful)
    (powers : PowerLaws format.toFloatArithmetic)
    (raw : params.minRawVolume ≤ params.maxRawVolume)
    (decibels : params.minDecibelVolume ≤ params.maxDecibelVolume) (x : K)
    : convertScalarToRaw format (VolumeControl.new params).volumeCurve x
      = (VolumeControl.new params).volumeCurve.convertScalarToRaw format.toFloatArithmetic x := by
  rw [convertScalarToRaw, VolumeCurve.convertScalarToRaw, VolumeControl.getMaximumRaw_new,
    VolumeControl.getMinimumRaw_new]
  cases rangeEq : params.maxRawVolume.sub params.minRawVolume with
  | error fault => rfl
  | ok range =>
      have low : 0 ≤ min 1 (max 0 x) := le_min zero_le_one (le_max_left 0 x)
      have high : min 1 (max 0 x) ≤ 1 := min_le_left _ _
      obtain ⟨share, shareEq, shareLow, shareHigh, -⟩ :=
        (VolumeControl.new params).volumeCurve.applyCurve_unit lawful.toLawful powers
          zero_le_one two_pos low high
      have proper : (VolumeControl.new params).volumeCurve.getMinimumDB
          ≤ (VolumeControl.new params).volumeCurve.getMaximumDB := decibels
      have applied := applyCurve_eq lawful powers proper zero_le_one two_pos
        (by norm_num) low high
      rw [shareEq] at applied
      simp only [ok_bind]
      rw [show (VolumeControl.new params).volumeCurve.mRawToScalarExponentDenominator = 1 from rfl,
        show (VolumeControl.new params).volumeCurve.mRawToScalarExponentNumerator = 2 from rfl,
        applied, shareEq]
      simp only [Except.map, ok_bind, lawful.ofSInt32_eq]
      have rangeVal := SInt32.ofValue_eq_ok_iff.mp rangeEq
      have rangeLow : 0 ≤ format.toFloatArithmetic.ofSInt32 range := by
        rw [FloatArithmetic.ofSInt32, ← lawful.zero]
        refine lawful.monotone ?_
        have ordered : params.minRawVolume.val ≤ params.maxRawVolume.val := raw
        exact_mod_cast (show (0 : Int) ≤ range.val by omega)
      have steps : 0 ≤ format.toFloatArithmetic.mul share
          (format.toFloatArithmetic.ofSInt32 range) := by
        rw [FloatArithmetic.mul, ← lawful.zero]
        exact lawful.monotone (mul_nonneg shareLow rangeLow)
      change ((format.limit (format.toFloatArithmetic.mul share
        (format.toFloatArithmetic.ofSInt32 range))).roundAway.toSInt32 >>= _) = _
      rw [lawful.toSInt32_limit steps]

omit [FloorRing K] in
/-- The decibels of one step are no more than those of the whole range. -/
theorem isFinite_decibelStep (lawful : format.Lawful)
    (decibels : params.minDecibelVolume ≤ params.maxDecibelVolume)
    (finite
      : format.isFinite (format.toFloatArithmetic.sub params.maxDecibelVolume
          params.minDecibelVolume) = true)
    (range : 1 ≤ params.floatRange format.toFloatArithmetic)
    : 0 ≤ params.decibelStep format.toFloatArithmetic
      ∧ format.isFinite (params.decibelStep format.toFloatArithmetic) = true := by
  have span : 0 ≤ format.toFloatArithmetic.sub params.maxDecibelVolume
      params.minDecibelVolume := by
    rw [FloatArithmetic.sub, ← lawful.zero]
    exact lawful.monotone (sub_nonneg.mpr decibels)
  have nonneg : 0 ≤ params.decibelStep format.toFloatArithmetic := by
    rw [VolumeControlParameters.decibelStep, ← lawful.zero]
    exact lawful.monotone (div_nonneg span (by linarith))
  refine ⟨nonneg, lawful.convex _ _ ?_ finite⟩
  rw [abs_of_nonneg nonneg, abs_of_nonneg span]
  calc params.decibelStep format.toFloatArithmetic
      ≤ format.round (format.toFloatArithmetic.sub params.maxDecibelVolume
          params.minDecibelVolume) :=
        lawful.monotone (div_le_self span range)
    _ = format.toFloatArithmetic.sub params.maxDecibelVolume params.minDecibelVolume :=
        lawful.idempotent _

omit [FloorRing K] in
/-- A raw range that is not zero as a number is one at least. -/
theorem one_le_floatRange (lawful : format.Lawful)
    (raw : params.minRawVolume ≤ params.maxRawVolume)
    (nonzero : params.floatRange format.toFloatArithmetic ≠ 0)
    : 1 ≤ params.floatRange format.toFloatArithmetic := by
  have ordered : params.minRawVolume.val ≤ params.maxRawVolume.val := raw
  rcases eq_or_lt_of_le ordered with same | proper
  · rw [VolumeControlParameters.floatRange, same, sub_self, Int.cast_zero, lawful.zero] at nonzero
    exact absurd rfl nonzero
  · rw [VolumeControlParameters.floatRange, ← lawful.one]
    refine lawful.monotone ?_
    exact_mod_cast (show (1 : Int) ≤ params.maxRawVolume.val - params.minRawVolume.val by omega)

omit [IsStrictOrderedRing K] in
/-- `ConvertDBToRaw()` of a number in range, with one range in the curve. -/
theorem convertDBToRaw_new {x : K} (low : params.minDecibelVolume ≤ x)
    (high : x ≤ params.maxDecibelVolume)
    : convertDBToRaw format (VolumeControl.new params).volumeCurve x
      = (do
          let theRawRange ← params.maxRawVolume.sub params.minRawVolume
          let theDBPerRaw ←
            format.div
              (format.sub (.finite params.maxDecibelVolume) (.finite params.minDecibelVolume))
              (format.ofSInt32 theRawRange)
          let steps ←
            format.div (format.sub (.finite x) (.finite params.minDecibelVolume)) theDBPerRaw
          let wholeSteps ← steps.roundAway.toSInt32
          params.minRawVolume.add wholeSteps) := by
  simp only [convertDBToRaw, VolumeControl.getMinimumDB_new, VolumeControl.getMaximumDB_new,
    not_lt.mpr low, not_lt.mpr high, if_false]
  change addRawSteps format x [(⟨_, _⟩, ⟨_, _⟩)] params.minRawVolume = _
  simp only [addRawSteps, not_lt.mpr high, if_false]

/-- Where the range of decibels is finite, the conversion of decibels is that of exact numbers. -/
theorem convertDBToRaw_eq (lawful : format.Lawful)
    (raw : params.minRawVolume ≤ params.maxRawVolume)
    (finite
      : format.isFinite (format.toFloatArithmetic.sub params.maxDecibelVolume
          params.minDecibelVolume) = true)
    {x : K} (low : params.minDecibelVolume ≤ x) (high : x ≤ params.maxDecibelVolume)
    : convertDBToRaw format (VolumeControl.new params).volumeCurve x
      = (VolumeControl.new params).volumeCurve.convertDBToRaw format.toFloatArithmetic x := by
  rw [VolumeControl.convertDBToRaw_new low high, convertDBToRaw_new low high]
  cases rangeEq : params.maxRawVolume.sub params.minRawVolume with
  | error fault => rfl
  | ok range =>
      have rangeFloat : format.toFloatArithmetic.ofSInt32 range
          = params.floatRange format.toFloatArithmetic :=
        VolumeControlParameters.Fits.ofSInt32_range (SInt32.ofValue_eq_ok_iff.mp rangeEq)
      have number (y : K) : format.sub (.finite y) (.finite params.minDecibelVolume)
          = format.limit (format.toFloatArithmetic.sub y params.minDecibelVolume) := rfl
      have span : 0 ≤ format.toFloatArithmetic.sub x params.minDecibelVolume := by
        rw [FloatArithmetic.sub, ← lawful.zero]
        exact lawful.monotone (sub_nonneg.mpr low)
      have below : format.toFloatArithmetic.sub x params.minDecibelVolume
          ≤ format.toFloatArithmetic.sub params.maxDecibelVolume params.minDecibelVolume :=
        lawful.monotone (sub_le_sub_right high _)
      have finiteToo : format.isFinite
          (format.toFloatArithmetic.sub x params.minDecibelVolume) = true := by
        refine lawful.convex _ _ ?_ finite
        rw [abs_of_nonneg span, abs_of_nonneg (span.trans below)]
        exact below
      simp only [ok_bind, number, Format.limit_of_finite finite, Format.limit_of_finite finiteToo,
        lawful.ofSInt32_eq, Format.div_finite, rangeFloat]
      by_cases zero : params.floatRange format.toFloatArithmetic = 0
      · rw [FloatArithmetic.div, if_pos zero]
        rfl
      · obtain ⟨nonneg, finiteStep⟩ :=
          isFinite_decibelStep lawful (low.trans high) finite (one_le_floatRange lawful raw zero)
        rw [FloatArithmetic.div_ok _ _ zero]
        change (format.div _ (format.limit (params.decibelStep format.toFloatArithmetic)) >>= _)
          = (format.toFloatArithmetic.div _ (params.decibelStep format.toFloatArithmetic) >>= _)
        rw [Format.limit_of_finite finiteStep, Format.div_finite, FloatArithmetic.div]
        split
        · rfl
        · have steps : 0 ≤ format.round (format.toFloatArithmetic.sub x params.minDecibelVolume
              / params.decibelStep format.toFloatArithmetic) := by
            rw [← lawful.zero]
            exact lawful.monotone (div_nonneg span nonneg)
          simp only [Except.map, ok_bind, lawful.toSInt32_limit steps]

/-- Where the range of decibels is infinite, the largest number of decibels is not converted: it is
an infinite number of infinite steps above the minimum.
-/
theorem convertDBToRaw_of_infinite (lawful : format.Lawful)
    (decibels : params.minDecibelVolume ≤ params.maxDecibelVolume)
    (infinite
      : format.isFinite (format.toFloatArithmetic.sub params.maxDecibelVolume
          params.minDecibelVolume) ≠ true)
    (result : SInt32)
    : convertDBToRaw format (VolumeControl.new params).volumeCurve params.maxDecibelVolume
      ≠ .ok result := by
  rw [convertDBToRaw_new decibels le_rfl]
  intro converted
  obtain ⟨range, -, converted⟩ := bind_eq_ok_iff.mp converted
  obtain ⟨step, stepEq, converted⟩ := bind_eq_ok_iff.mp converted
  obtain ⟨steps, stepsEq, converted⟩ := bind_eq_ok_iff.mp converted
  obtain ⟨whole, cast, -⟩ := bind_eq_ok_iff.mp converted
  have span : format.sub (.finite params.maxDecibelVolume) (.finite params.minDecibelVolume)
      = .infinite (format.toFloatArithmetic.sub params.maxDecibelVolume
          params.minDecibelVolume < 0) :=
    Format.limit_of_not_finite infinite
  rw [span] at stepEq stepsEq
  rw [lawful.ofSInt32_eq, Format.div] at stepEq
  split at stepEq
  · cases stepEq
  · obtain rfl := Except.ok.inj stepEq
    obtain rfl := Except.ok.inj stepsEq
    cases cast

omit [FloorRing K] in
/-- The conversion to decibels has a result, which may be infinite, if the raw range can be divided
by.
-/
theorem exists_convertRawToDB (lawful : format.Lawful)
    (raw : params.minRawVolume ≤ params.maxRawVolume) {range : SInt32}
    (rangeEq : params.maxRawVolume.sub params.minRawVolume = .ok range)
    (nonzero : params.floatRange format.toFloatArithmetic ≠ 0) (value : SInt32)
    : ∃ decibels,
        convertRawToDB format (VolumeControl.new params).volumeCurve value = .ok decibels := by
  have inRange := VolumeControl.holds_clampRaw raw value
  have rangeVal := SInt32.ofValue_eq_ok_iff.mp rangeEq
  have low : params.minRawVolume.val
      ≤ ((VolumeControl.new params).volumeCurve.clampRaw value).val := inRange.low
  have high : ((VolumeControl.new params).volumeCurve.clampRaw value).val
      ≤ params.maxRawVolume.val := inRange.high
  have bound := range.property
  obtain ⟨distance, distanceEq, within⟩ : ∃ distance : SInt32,
      ((VolumeControl.new params).volumeCurve.clampRaw value).sub params.minRawVolume
        = .ok distance ∧ distance ≤ range := by
    have small : ((VolumeControl.new params).volumeCurve.clampRaw value).val
        - params.minRawVolume.val ≤ range.val := by omega
    exact ⟨⟨_, by omega⟩, SInt32.ofValue_ok (by omega), small⟩
  have rangeFloat : format.toFloatArithmetic.ofSInt32 range
      = params.floatRange format.toFloatArithmetic :=
    VolumeControlParameters.Fits.ofSInt32_range rangeVal
  obtain ⟨step, divided⟩ := format.exists_div
    (format.sub (.finite params.maxDecibelVolume) (.finite params.minDecibelVolume)) nonzero
  have zero : -2 ^ 31 ≤ distance.val - distance.val
      ∧ distance.val - distance.val ≤ 2 ^ 31 - 1 := by omega
  have nothingLeft : distance.sub distance = .ok ⟨distance.val - distance.val, zero⟩ :=
    SInt32.ofValue_ok zero
  rw [convertRawToDB, VolumeControl.getMinimumRaw_new, distanceEq, ok_bind]
  change ∃ decibels, addDecibels format [(⟨params.minRawVolume, params.maxRawVolume⟩,
    ⟨params.minDecibelVolume, params.maxDecibelVolume⟩)] distance _ = .ok decibels
  simp only [addDecibels, rangeEq, ok_bind, lawful.ofSInt32_eq range, rangeFloat, divided,
    min_eq_right within, nothingLeft]
  split <;> exact ⟨_, rfl⟩

end Aspl.Volume.FloatingPoint
