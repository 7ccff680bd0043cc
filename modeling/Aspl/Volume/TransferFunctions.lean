import Aspl.Volume.Continuity
import Mathlib.Analysis.SpecialFunctions.Pow.Real

/-! The transfer functions of a curve: powers that bend the way from raw values to scalars. With
any of them, raw values, scalars and decibels are three names for the same points, and the
conversions lead from each to each.
-/

namespace Aspl.Volume

open Arithmetic

namespace VolumeCurve

@[match_pattern] abbrev kLinearCurve : UInt32 := 0
@[match_pattern] abbrev kPow1Over3Curve : UInt32 := 1
@[match_pattern] abbrev kPow1Over2Curve : UInt32 := 2
@[match_pattern] abbrev kPow3Over4Curve : UInt32 := 3
@[match_pattern] abbrev kPow3Over2Curve : UInt32 := 4
@[match_pattern] abbrev kPow2Over1Curve : UInt32 := 5
@[match_pattern] abbrev kPow3Over1Curve : UInt32 := 6
@[match_pattern] abbrev kPow4Over1Curve : UInt32 := 7
@[match_pattern] abbrev kPow5Over1Curve : UInt32 := 8
@[match_pattern] abbrev kPow6Over1Curve : UInt32 := 9
@[match_pattern] abbrev kPow7Over1Curve : UInt32 := 10
@[match_pattern] abbrev kPow8Over1Curve : UInt32 := 11
@[match_pattern] abbrev kPow9Over1Curve : UInt32 := 12
@[match_pattern] abbrev kPow10Over1Curve : UInt32 := 13
@[match_pattern] abbrev kPow11Over1Curve : UInt32 := 14
@[match_pattern] abbrev kPow12Over1Curve : UInt32 := 15

section Setters

variable {K : Type} [Field K]

/-- `VolumeCurve::SetIsApplyingTransferFunction()`. -/
def setIsApplyingTransferFunction (curve : VolumeCurve K) (inIsApplyingTransferFunction : Bool)
    : VolumeCurve K :=
  { curve with mIsApplyingTransferFunction := inIsApplyingTransferFunction }

/-- What each case of the `switch` in `SetTransferFunction()` sets. -/
def setCoefficients (curve : VolumeCurve K) (applying : Bool) (numerator denominator : Nat)
    : VolumeCurve K :=
  { curve with
    mIsApplyingTransferFunction := applying
    mRawToScalarExponentNumerator := numerator
    mRawToScalarExponentDenominator := denominator }

/-- `VolumeCurve::SetTransferFunction()`. -/
def setTransferFunction (curve : VolumeCurve K) (inTransferFunction : UInt32) : VolumeCurve K :=
  match inTransferFunction with
  | kLinearCurve => curve.setCoefficients false 1 1
  | kPow1Over3Curve => curve.setCoefficients true 1 3
  | kPow1Over2Curve => curve.setCoefficients true 1 2
  | kPow3Over4Curve => curve.setCoefficients true 3 4
  | kPow3Over2Curve => curve.setCoefficients true 3 2
  | kPow2Over1Curve => curve.setCoefficients true 2 1
  | kPow3Over1Curve => curve.setCoefficients true 3 1
  | kPow4Over1Curve => curve.setCoefficients true 4 1
  | kPow5Over1Curve => curve.setCoefficients true 5 1
  | kPow6Over1Curve => curve.setCoefficients true 6 1
  | kPow7Over1Curve => curve.setCoefficients true 7 1
  | kPow8Over1Curve => curve.setCoefficients true 8 1
  | kPow9Over1Curve => curve.setCoefficients true 9 1
  | kPow10Over1Curve => curve.setCoefficients true 10 1
  | kPow11Over1Curve => curve.setCoefficients true 11 1
  | kPow12Over1Curve => curve.setCoefficients true 12 1
  | _ => curve.setCoefficients true 2 1

/-- `VolumeCurve::ResetRange()`. -/
def resetRange (curve : VolumeCurve K) : VolumeCurve K :=
  { curve with mCurveMap := [] }

/-- The calls that change a curve. -/
inductive CurveCall (K : Type)
  | setIsApplyingTransferFunction (inIsApplyingTransferFunction : Bool)
  | setTransferFunction (inTransferFunction : UInt32)
  | addRange (call : RangeCall K)
  | resetRange

/-- A curve after one call. -/
def call (curve : VolumeCurve K) : CurveCall K → VolumeCurve K
  | .setIsApplyingTransferFunction applying => curve.setIsApplyingTransferFunction applying
  | .setTransferFunction function => curve.setTransferFunction function
  | .addRange range => curve.addRange range.inMinRaw range.inMaxRaw range.inMinDB range.inMaxDB
  | .resetRange => curve.resetRange

/-- Both parts of the exponent are positive, so that it can be inverted. -/
structure Invertible [LinearOrder K] (curve : VolumeCurve K) : Prop where
  numerator : 0 < curve.mRawToScalarExponentNumerator
  denominator : 0 < curve.mRawToScalarExponentDenominator

variable [LinearOrder K] [IsStrictOrderedRing K] {curve : VolumeCurve K}

/-- All transfer functions have positive exponents. -/
theorem setTransferFunction_invertible (curve : VolumeCurve K) (function : UInt32)
    : (curve.setTransferFunction function).Invertible := by
  unfold setTransferFunction
  split <;> exact ⟨by norm_num [setCoefficients], by norm_num [setCoefficients]⟩

theorem Invertible.call (invertible : curve.Invertible) (call : CurveCall K)
    : (curve.call call).Invertible := by
  cases call with
  | setIsApplyingTransferFunction applying =>
      exact ⟨invertible.numerator, invertible.denominator⟩
  | setTransferFunction function => exact setTransferFunction_invertible curve function
  | addRange range =>
      rw [VolumeCurve.call, addRange]
      split
      · exact invertible
      · exact ⟨invertible.numerator, invertible.denominator⟩
  | resetRange => exact ⟨invertible.numerator, invertible.denominator⟩

/-- No calls make the exponent one that cannot be inverted. -/
theorem invertible_run (calls : List (CurveCall K))
    : (calls.foldl VolumeCurve.call ({} : VolumeCurve K)).Invertible := by
  induction calls using List.reverseRecOn with
  | nil => exact ⟨two_pos, one_pos⟩
  | append_singleton calls call ih =>
      rw [List.foldl_append]
      exact ih.call call

end Setters

section Scalars

variable {curve : VolumeCurve ℝ}

/-- How far a raw value is on the way from the minimum to the maximum. -/
noncomputable def shareOf (curve : VolumeCurve ℝ) (raw : SInt32) : ℝ :=
  ((raw.val - curve.getMinimumRaw.val : Int) : ℝ)
    / ((curve.getMaximumRaw.val - curve.getMinimumRaw.val : Int) : ℝ)

/-- The scalar of a raw value. -/
noncomputable def scalarOf (curve : VolumeCurve ℝ) (raw : SInt32) : ℝ :=
  if curve.mIsApplyingTransferFunction
    ∧ ((30 : Nat) : ℝ) < curve.getMaximumDB - curve.getMinimumDB then
    curve.shareOf raw
      ^ (curve.mRawToScalarExponentNumerator / curve.mRawToScalarExponentDenominator)
  else curve.shareOf raw

/-- The raw values of a curve are a proper range whose width can be represented. -/
structure Wide (curve : VolumeCurve ℝ) : Prop where
  proper : curve.getMinimumRaw < curve.getMaximumRaw
  fits : curve.getMaximumRaw.val - curve.getMinimumRaw.val ≤ 2 ^ 31 - 1

namespace Wide

variable (wide : curve.Wide)
include wide

theorem width_pos
    : (0 : ℝ) < ((curve.getMaximumRaw.val - curve.getMinimumRaw.val : Int) : ℝ) := by
  have proper : curve.getMinimumRaw.val < curve.getMaximumRaw.val := wide.proper
  exact_mod_cast (show 0 < curve.getMaximumRaw.val - curve.getMinimumRaw.val by omega)

theorem shareOf_lt {x y : SInt32} (less : x < y)
    : curve.shareOf x < curve.shareOf y := by
  have fewer : x.val < y.val := less
  refine div_lt_div_of_pos_right ?_ wide.width_pos
  exact_mod_cast (show x.val - curve.getMinimumRaw.val < y.val - curve.getMinimumRaw.val by omega)

omit wide in
theorem shareOf_min : curve.shareOf curve.getMinimumRaw = 0 := by
  rw [shareOf, sub_self, Int.cast_zero, zero_div]

theorem shareOf_max : curve.shareOf curve.getMaximumRaw = 1 :=
  div_self wide.width_pos.ne'

theorem shareOf_mem {raw : SInt32} (low : curve.getMinimumRaw ≤ raw)
    (high : raw ≤ curve.getMaximumRaw)
    : 0 ≤ curve.shareOf raw ∧ curve.shareOf raw ≤ 1 := by
  constructor
  · rcases low.eq_or_lt with rfl | above
    · exact shareOf_min.ge
    · have bottom : curve.shareOf curve.getMinimumRaw = 0 := shareOf_min
      exact bottom ▸ (wide.shareOf_lt above).le
  · rcases high.eq_or_lt with rfl | below
    · exact wide.shareOf_max.le
    · exact wide.shareOf_max ▸ (wide.shareOf_lt below).le

end Wide

/-- A positive power rises on the unit interval and keeps its ends. -/
theorem Invertible.exponent_pos (invertible : curve.Invertible)
    : 0 < curve.mRawToScalarExponentNumerator / curve.mRawToScalarExponentDenominator :=
  div_pos invertible.numerator invertible.denominator

theorem Invertible.scalarOf_lt (invertible : curve.Invertible) (wide : curve.Wide) {x y : SInt32}
    (low : curve.getMinimumRaw ≤ x) (less : x < y) (high : y ≤ curve.getMaximumRaw)
    : curve.scalarOf x < curve.scalarOf y := by
  have rises := wide.shareOf_lt less
  have nonneg := (wide.shareOf_mem low (less.le.trans high)).1
  simp only [scalarOf]
  split
  · exact Real.rpow_lt_rpow nonneg rises invertible.exponent_pos
  · exact rises

theorem Invertible.scalarOf_ends (invertible : curve.Invertible) (wide : curve.Wide)
    : curve.scalarOf curve.getMinimumRaw = 0 ∧ curve.scalarOf curve.getMaximumRaw = 1 := by
  simp only [scalarOf, Wide.shareOf_min, wide.shareOf_max]
  split
  · exact ⟨Real.zero_rpow invertible.exponent_pos.ne', Real.one_rpow _⟩
  · exact ⟨rfl, rfl⟩

theorem Invertible.scalarOf_mem (invertible : curve.Invertible) (wide : curve.Wide)
    {raw : SInt32} (low : curve.getMinimumRaw ≤ raw) (high : raw ≤ curve.getMaximumRaw)
    : 0 ≤ curve.scalarOf raw ∧ curve.scalarOf raw ≤ 1 := by
  obtain ⟨bottom, top⟩ := invertible.scalarOf_ends wide
  constructor
  · rcases low.eq_or_lt with rfl | above
    · exact bottom.ge
    · exact bottom ▸ (invertible.scalarOf_lt wide le_rfl above high).le
  · rcases high.eq_or_lt with rfl | below
    · exact top.le
    · exact top ▸ (invertible.scalarOf_lt wide low below le_rfl).le

/-- The distance of a raw value from the minimum can be represented. -/
theorem Wide.exists_distance (wide : curve.Wide) {raw : SInt32}
    (low : curve.getMinimumRaw ≤ raw) (high : raw ≤ curve.getMaximumRaw)
    : ∃ distance : SInt32,
        raw.sub curve.getMinimumRaw = .ok distance
        ∧ distance.val = raw.val - curve.getMinimumRaw.val := by
  have lowest : curve.getMinimumRaw.val ≤ raw.val := low
  have highest : raw.val ≤ curve.getMaximumRaw.val := high
  have fits := wide.fits
  have bounds : -2 ^ 31 ≤ raw.val - curve.getMinimumRaw.val
      ∧ raw.val - curve.getMinimumRaw.val ≤ 2 ^ 31 - 1 := by omega
  exact ⟨⟨_, bounds⟩, SInt32.ofValue_ok bounds, rfl⟩

/-- The power is only applied where the decibels range over more than 30. -/
theorem applyCurve_eq (curve : VolumeCurve ℝ) {numerator denominator : ℝ}
    (nonzero : denominator ≠ 0) (scalar : ℝ)
    : curve.applyCurve (.exact Real.rpow) numerator denominator scalar
      = .ok (if curve.mIsApplyingTransferFunction
              ∧ 30 < curve.getMaximumDB - curve.getMinimumDB then
            scalar ^ (numerator / denominator)
          else scalar) := by
  have spans : (FloatArithmetic.exact Real.rpow).sub curve.getMaximumDB curve.getMinimumDB
      = curve.getMaximumDB - curve.getMinimumDB := rfl
  simp only [applyCurve, spans, Bool.and_eq_true, decide_eq_true_eq]
  split
  · rw [FloatArithmetic.div_ok _ _ nonzero, ok_bind]
    rfl
  · rfl

/-- `ConvertRawToScalar()` bends the share of the raw value. -/
theorem Invertible.convertRawToScalar_eq (invertible : curve.Invertible) (wide : curve.Wide)
    (raw : SInt32)
    : curve.convertRawToScalar (.exact Real.rpow) raw
      = .ok (curve.scalarOf (curve.clampRaw raw)) := by
  obtain ⟨low, high⟩ : curve.getMinimumRaw ≤ curve.clampRaw raw
      ∧ curve.clampRaw raw ≤ curve.getMaximumRaw := clamp_mem wide.proper.le
  obtain ⟨range, rangeEq, width⟩ := wide.exists_distance wide.proper.le le_rfl
  obtain ⟨distance, distanceEq, along⟩ := wide.exists_distance low high
  have nonzero : (FloatArithmetic.exact Real.rpow).ofSInt32 range ≠ 0 := by
    change (range.val : ℝ) ≠ 0
    rw [width]
    exact wide.width_pos.ne'
  have share : (FloatArithmetic.exact Real.rpow).div
      ((FloatArithmetic.exact Real.rpow).ofSInt32 distance)
      ((FloatArithmetic.exact Real.rpow).ofSInt32 range)
      = .ok (curve.shareOf (curve.clampRaw raw)) := by
    rw [FloatArithmetic.div_ok _ _ nonzero]
    change Except.ok ((distance.val : ℝ) / (range.val : ℝ)) = _
    rw [width, along]
    rfl
  rw [convertRawToScalar, rangeEq, ok_bind, distanceEq, ok_bind, share, ok_bind,
    applyCurve_eq curve invertible.denominator.ne', scalarOf, Nat.cast_ofNat]

/-- `ConvertScalarToRaw()` bends it back. -/
theorem Invertible.convertScalarToRaw_scalarOf (invertible : curve.Invertible)
    (wide : curve.Wide) {raw : SInt32} (low : curve.getMinimumRaw ≤ raw)
    (high : raw ≤ curve.getMaximumRaw)
    : curve.convertScalarToRaw (.exact Real.rpow) (curve.scalarOf raw) = .ok raw := by
  obtain ⟨nonneg, atMostOne⟩ := invertible.scalarOf_mem wide low high
  obtain ⟨shareNonneg, -⟩ := wide.shareOf_mem low high
  obtain ⟨range, rangeEq, width⟩ := wide.exists_distance wide.proper.le le_rfl
  obtain ⟨distance, distanceEq, along⟩ := wide.exists_distance low high
  have inside : min 1 (max 0 (curve.scalarOf raw)) = curve.scalarOf raw := by
    rw [max_eq_right nonneg, min_eq_right atMostOne]
  have undone : curve.applyCurve (.exact Real.rpow) curve.mRawToScalarExponentDenominator
      curve.mRawToScalarExponentNumerator (curve.scalarOf raw) = .ok (curve.shareOf raw) := by
    rw [applyCurve_eq curve invertible.numerator.ne', scalarOf, Nat.cast_ofNat]
    split
    · have inverse : curve.mRawToScalarExponentNumerator / curve.mRawToScalarExponentDenominator
          * (curve.mRawToScalarExponentDenominator / curve.mRawToScalarExponentNumerator)
          = 1 := by
        have numerator := invertible.numerator.ne'
        have denominator := invertible.denominator.ne'
        field_simp
      rw [← Real.rpow_mul shareNonneg, inverse, Real.rpow_one]
    · rfl
  have steps : (FloatArithmetic.exact Real.rpow).mul (curve.shareOf raw)
      ((FloatArithmetic.exact Real.rpow).ofSInt32 range) = ((distance.val : Int) : ℝ) := by
    change curve.shareOf raw * (range.val : ℝ) = _
    rw [width, along]
    exact div_mul_cancel₀ _ wide.width_pos.ne'
  have arrives : curve.getMinimumRaw.add distance = .ok raw := by
    rw [SInt32.add, along, add_sub_cancel]
    exact SInt32.ofValue_ok raw.property
  rw [convertScalarToRaw, rangeEq, ok_bind, inside, undone, ok_bind]
  dsimp only
  rw [steps, roundAway_intCast, FloatArithmetic.toSInt32, truncate_intCast,
    SInt32.ofValue_ok distance.property, ok_bind]
  exact arrives

/-- In a curve that any calls have made, scalars rise with the raw values from zero to one, whatever
the transfer function, and every raw value comes back from its scalar. Where the curve is
continuous, so it does from its decibels, and decibels and scalars are converted by way of it.
-/
theorem conversions_agree (calls : List (CurveCall ℝ)) (wide : (calls.foldl call {}).Wide)
    : let curve : VolumeCurve ℝ := calls.foldl call {}
      (∀ raw : SInt32,
          curve.convertRawToScalar (.exact Real.rpow) raw
              = .ok (curve.scalarOf (curve.clampRaw raw))
          ∧ curve.convertScalarToRaw (.exact Real.rpow) (curve.scalarOf (curve.clampRaw raw))
              = .ok (curve.clampRaw raw))
      ∧ (∀ x y : SInt32,
          curve.getMinimumRaw ≤ x → x < y → y ≤ curve.getMaximumRaw
          → curve.scalarOf x < curve.scalarOf y)
      ∧ (curve.scalarOf curve.getMinimumRaw = 0 ∧ curve.scalarOf curve.getMaximumRaw = 1)
      ∧ (curve.Rising → curve.checkForContinuity (.exact Real.rpow) = .ok true
          → ∀ raw : SInt32,
              curve.convertDBToScalar (.exact Real.rpow)
                    (curve.decibelsOf (curve.clampRaw raw))
                  = .ok (curve.scalarOf (curve.clampRaw raw))
              ∧ curve.convertScalarToDB (.exact Real.rpow)
                    (curve.scalarOf (curve.clampRaw raw))
                  = .ok (curve.decibelsOf (curve.clampRaw raw))) := by
  intro curve
  have invertible : curve.Invertible := invertible_run calls
  have back (raw : SInt32) : curve.convertScalarToRaw (.exact Real.rpow)
      (curve.scalarOf (curve.clampRaw raw)) = .ok (curve.clampRaw raw) := by
    obtain ⟨low, high⟩ : curve.getMinimumRaw ≤ curve.clampRaw raw
        ∧ curve.clampRaw raw ≤ curve.getMaximumRaw := clamp_mem wide.proper.le
    exact invertible.convertScalarToRaw_scalarOf wide low high
  have settled (raw : SInt32) : curve.clampRaw (curve.clampRaw raw) = curve.clampRaw raw := by
    obtain ⟨low, high⟩ : curve.getMinimumRaw ≤ curve.clampRaw raw
        ∧ curve.clampRaw raw ≤ curve.getMaximumRaw := clamp_mem wide.proper.le
    exact clamp_of_mem low high
  refine ⟨?scalars, ?rises, ?ends, ?decibels⟩
  case scalars =>
    exact fun raw => ⟨invertible.convertRawToScalar_eq wide raw, back raw⟩
  case rises => exact fun x y low less high => invertible.scalarOf_lt wide low less high
  case ends => exact invertible.scalarOf_ends wide
  case decibels =>
    intro rising continuous raw
    obtain ⟨toDB, -, -, fromDB, -⟩ := continuous_curve_round_trip curve rising continuous
    constructor
    · rw [convertDBToScalar, fromDB, ok_bind, invertible.convertRawToScalar_eq wide, settled]
    · rw [convertScalarToDB, back, ok_bind, toDB, settled]

/-- A cubic root over a range of decibels. -/
def cubicRoot (inMinDB inMaxDB : ℝ) : List (CurveCall ℝ) :=
  [.setTransferFunction kPow1Over3Curve, .addRange ⟨rawValue 0, rawValue 10, inMinDB, inMaxDB⟩]

/-- A raw value comes back from its scalar. -/
theorem conversions_agree_cubicRoot
    : ((cubicRoot (-96) 0).foldl call {}).convertScalarToRaw (.exact Real.rpow)
          (((cubicRoot (-96) 0).foldl call {}).scalarOf
            (((cubicRoot (-96) 0).foldl call {}).clampRaw (rawValue 7)))
        = .ok (((cubicRoot (-96) 0).foldl call {}).clampRaw (rawValue 7)) := by
  have wide : ((cubicRoot (-96) 0).foldl call {}).Wide := by
    constructor
    · change rawValue 0 < rawValue 10
      decide
    · change (rawValue 10).val - (rawValue 0).val ≤ 2 ^ 31 - 1
      decide
  exact ((conversions_agree (cubicRoot (-96) 0) wide).1 (rawValue 7)).2

end Scalars

end VolumeCurve

end Aspl.Volume
