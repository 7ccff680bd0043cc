import Aspl.Base.Arithmetic

/-! `VolumeCurve`: ranges of raw values with the ranges of decibels they stand for, and the
conversions between raw values, decibels and scalars.
-/

namespace Aspl.Volume

open Arithmetic

structure VolumeRawPoint where
  mMinimum : SInt32
  mMaximum : SInt32
deriving DecidableEq

structure VolumeDecibelPoint (K : Type) where
  mMinimum : K
  mMaximum : K
deriving DecidableEq

/-- `VolumeRawPoint::Overlap()`. -/
def VolumeRawPoint.overlap (x y : VolumeRawPoint) : Bool :=
  x.mMinimum < y.mMaximum && y.mMinimum < x.mMaximum

/-- `operator<`: points are ordered by their minimum. -/
def VolumeRawPoint.less (x y : VolumeRawPoint) : Bool :=
  x.mMinimum < y.mMinimum

/-- The entries of the map in the order of their keys. -/
abbrev CurveMap (K : Type) := List (VolumeRawPoint × VolumeDecibelPoint K)

/-- A curve with the exponents of `kPow2Over1Curve` unless it is given others. -/
structure VolumeCurve (K : Type) [Field K] where
  mCurveMap : CurveMap K := []
  mIsApplyingTransferFunction : Bool := true
  mRawToScalarExponentNumerator : K := 2
  mRawToScalarExponentDenominator : K := 1

/-- The loop of `AddRange()` that looks for an entry that overlaps the new one. It stops at the
first entry that the new one is not less than.
-/
def isOverlapped {K : Type} (theRaw : VolumeRawPoint) : CurveMap K → Bool
  | [] => false
  | (raw, _) :: rest =>
      if theRaw.overlap raw then true
      else if !theRaw.less raw then false
      else isOverlapped theRaw rest

/-- `std::map::insert()`, which keeps an entry that is already there. -/
def insertRange {K : Type} (theRaw : VolumeRawPoint) (theDB : VolumeDecibelPoint K)
    : CurveMap K → CurveMap K
  | [] => [(theRaw, theDB)]
  | (raw, db) :: rest =>
      if theRaw.less raw then (theRaw, theDB) :: (raw, db) :: rest
      else if raw.less theRaw then (raw, db) :: insertRange theRaw theDB rest
      else (raw, db) :: rest

namespace VolumeCurve

variable {K : Type} [Field K] [LinearOrder K]

/-- `VolumeCurve::AddRange()`. -/
def addRange (curve : VolumeCurve K) (inMinRaw inMaxRaw : SInt32) (inMinDB inMaxDB : K)
    : VolumeCurve K :=
  let theRaw : VolumeRawPoint := ⟨inMinRaw, inMaxRaw⟩
  let theDB : VolumeDecibelPoint K := ⟨inMinDB, inMaxDB⟩
  if isOverlapped theRaw curve.mCurveMap then curve
  else { curve with mCurveMap := insertRange theRaw theDB curve.mCurveMap }

/-- `VolumeCurve::GetMinimumRaw()`. -/
def getMinimumRaw (curve : VolumeCurve K) : SInt32 :=
  match curve.mCurveMap.head? with
  | some entry => entry.1.mMinimum
  | none => ⟨0, by decide⟩

/-- `VolumeCurve::GetMaximumRaw()`. -/
def getMaximumRaw (curve : VolumeCurve K) : SInt32 :=
  match curve.mCurveMap.getLast? with
  | some entry => entry.1.mMaximum
  | none => ⟨0, by decide⟩

/-- `VolumeCurve::GetMinimumDB()`. -/
def getMinimumDB (curve : VolumeCurve K) : K :=
  match curve.mCurveMap.head? with
  | some entry => entry.2.mMinimum
  | none => 0

/-- `VolumeCurve::GetMaximumDB()`. -/
def getMaximumDB (curve : VolumeCurve K) : K :=
  match curve.mCurveMap.getLast? with
  | some entry => entry.2.mMaximum
  | none => 0

variable [FloorRing K] (float : FloatArithmetic K)

/-- The loop of `ConvertDBToRaw()` over the entries that are left. -/
def addRawSteps (inDB : K) : CurveMap K → SInt32 → Except Fault SInt32
  | [], theAnswer => .ok theAnswer
  | (raw, db) :: rest, theAnswer => do
      let theRawRange ← raw.mMaximum.sub raw.mMinimum
      let theDBRange := float.sub db.mMaximum db.mMinimum
      let theDBPerRaw ← float.div theDBRange (float.ofSInt32 theRawRange)
      if db.mMaximum < inDB then
        -- Past the end of this entry: its whole range is added.
        let theAnswer ← theAnswer.add theRawRange
        addRawSteps inDB rest theAnswer
      else
        let theNumberRawSteps ← float.div (float.sub inDB db.mMinimum) theDBPerRaw
        let wholeSteps ← FloatArithmetic.toSInt32 (roundAway theNumberRawSteps : K)
        theAnswer.add wholeSteps

/-- `VolumeCurve::ConvertDBToRaw()`. -/
def convertDBToRaw (curve : VolumeCurve K) (inDB : K) : Except Fault SInt32 :=
  let inDB := if inDB < curve.getMinimumDB then curve.getMinimumDB else inDB
  let inDB := if curve.getMaximumDB < inDB then curve.getMaximumDB else inDB
  match curve.mCurveMap with
  | [] => .error .endIterator
  | (raw, db) :: rest => addRawSteps float inDB ((raw, db) :: rest) raw.mMinimum

/-- The loop of `ConvertRawToDB()` over the entries that are left. -/
def addDecibels : CurveMap K → SInt32 → K → Except Fault K
  | [], _, theAnswer => .ok theAnswer
  | (raw, db) :: rest, theNumberRawSteps, theAnswer =>
      if 0 < theNumberRawSteps.val then do
        let theRawRange ← raw.mMaximum.sub raw.mMinimum
        let theDBRange := float.sub db.mMaximum db.mMinimum
        let theDBPerRaw ← float.div theDBRange (float.ofSInt32 theRawRange)
        let theRawStepsToAdd := min theRawRange theNumberRawSteps
        let theAnswer :=
          float.add theAnswer (float.mul (float.ofSInt32 theRawStepsToAdd) theDBPerRaw)
        let theNumberRawSteps ← theNumberRawSteps.sub theRawStepsToAdd
        addDecibels rest theNumberRawSteps theAnswer
      else .ok theAnswer

/-- A raw value moved into the range of the curve. -/
def clampRaw (curve : VolumeCurve K) (inRaw : SInt32) : SInt32 :=
  let inRaw := if inRaw < curve.getMinimumRaw then curve.getMinimumRaw else inRaw
  if curve.getMaximumRaw < inRaw then curve.getMaximumRaw else inRaw

/-- `VolumeCurve::ConvertRawToDB()`. -/
def convertRawToDB (curve : VolumeCurve K) (inRaw : SInt32) : Except Fault K := do
  let theNumberRawSteps ← (curve.clampRaw inRaw).sub curve.getMinimumRaw
  match curve.mCurveMap with
  | [] => .error .endIterator
  | (raw, db) :: rest => addDecibels float ((raw, db) :: rest) theNumberRawSteps db.mMinimum

/-- A scalar raised to a power, but only where the decibels range over more than 30. -/
def applyCurve (curve : VolumeCurve K) (numerator denominator scalar : K) : Except Fault K :=
  let theDBRange := float.sub curve.getMaximumDB curve.getMinimumDB
  if curve.mIsApplyingTransferFunction && decide (30 < theDBRange) then do
    let exponent ← float.div numerator denominator
    return float.powf scalar exponent
  else return scalar

/-- `VolumeCurve::ConvertRawToScalar()`. -/
def convertRawToScalar (curve : VolumeCurve K) (inRaw : SInt32) : Except Fault K := do
  let theRawRange ← curve.getMaximumRaw.sub curve.getMinimumRaw
  let distance ← (curve.clampRaw inRaw).sub curve.getMinimumRaw
  let theAnswer ← float.div (float.ofSInt32 distance) (float.ofSInt32 theRawRange)
  curve.applyCurve float curve.mRawToScalarExponentNumerator
    curve.mRawToScalarExponentDenominator theAnswer

/-- `VolumeCurve::ConvertDBToScalar()`. -/
def convertDBToScalar (curve : VolumeCurve K) (inDB : K) : Except Fault K := do
  let theRawValue ← curve.convertDBToRaw float inDB
  curve.convertRawToScalar float theRawValue

/-- `VolumeCurve::ConvertScalarToRaw()`. -/
def convertScalarToRaw (curve : VolumeCurve K) (inScalar : K) : Except Fault SInt32 := do
  let inScalar := min 1 (max 0 inScalar)
  let theRawRange ← curve.getMaximumRaw.sub curve.getMinimumRaw
  -- The exponent is inverted here, to undo the curve.
  let inScalar ← curve.applyCurve float curve.mRawToScalarExponentDenominator
    curve.mRawToScalarExponentNumerator inScalar
  let theNumberRawSteps := float.mul inScalar (float.ofSInt32 theRawRange)
  let wholeSteps ← FloatArithmetic.toSInt32 (roundAway theNumberRawSteps : K)
  curve.getMinimumRaw.add wholeSteps

/-- `VolumeCurve::ConvertScalarToDB()`. -/
def convertScalarToDB (curve : VolumeCurve K) (inScalar : K) : Except Fault K := do
  let theRawValue ← curve.convertScalarToRaw float inScalar
  curve.convertRawToDB float theRawValue

end VolumeCurve

end Aspl.Volume
