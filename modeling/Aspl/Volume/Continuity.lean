import Aspl.Volume.Ranges
import Mathlib.Data.Rat.Floor

/-! Curves with several ranges, without rounding: where the ranges are continuous, raw values and
decibels are the two coordinates of the points on a rising line of straight pieces, and the
conversions follow this line in both directions.
-/

namespace Aspl.Volume

open Arithmetic

variable {K : Type} [Field K]

/-- The decibels of one raw step in a range. -/
def stepOf (raw : VolumeRawPoint) (db : VolumeDecibelPoint K) : K :=
  (db.mMaximum - db.mMinimum) / ((raw.mMaximum.val - raw.mMinimum.val : Int) : K)

/-- The line through the ends of all ranges. -/
def lineAt (start : K) : CurveMap K → Int → K
  | [], _ => start
  | (raw, db) :: rest, x =>
      if x ≤ raw.mMaximum.val then start + ((x - raw.mMinimum.val : Int) : K) * stepOf raw db
      else lineAt db.mMaximum rest x

variable [LinearOrder K]

/-- Rising ranges, each of which starts where the one before it ends. -/
inductive Chain : SInt32 → K → CurveMap K → SInt32 → K → Prop
  | nil (raw : SInt32) (db : K)
    : Chain raw db [] raw db
  | cons {minRaw maxRaw endRaw : SInt32} {minDB maxDB endDB : K} {rest : CurveMap K}
    (raw : minRaw < maxRaw) (db : minDB < maxDB) (further : Chain maxRaw maxDB rest endRaw endDB)
    : Chain minRaw minDB ((⟨minRaw, maxRaw⟩, ⟨minDB, maxDB⟩) :: rest) endRaw endDB

namespace Chain

variable {minRaw endRaw : SInt32} {minDB endDB : K} {map : CurveMap K}

omit [Field K] in
/-- The ends of the line. -/
theorem ordered (chain : Chain minRaw minDB map endRaw endDB)
    : minRaw ≤ endRaw ∧ minDB ≤ endDB := by
  induction chain with
  | nil => exact ⟨le_rfl, le_rfl⟩
  | cons raw db _ ih => exact ⟨raw.le.trans ih.1, db.le.trans ih.2⟩

/-- The line starts at the first point. -/
theorem lineAt_start (chain : Chain minRaw minDB map endRaw endDB)
    : lineAt minDB map minRaw.val = minDB := by
  cases chain with
  | nil => rfl
  | cons raw db further =>
      have inside : minRaw.val ≤ _ := le_of_lt raw
      rw [lineAt, if_pos inside]
      simp

variable [IsStrictOrderedRing K]

/-- The line goes through the end of a range. -/
theorem range_mul_stepOf {maxRaw : SInt32} {maxDB : K}
    (raw : minRaw < maxRaw)
    : ((maxRaw.val - minRaw.val : Int) : K)
        * stepOf (⟨minRaw, maxRaw⟩ : VolumeRawPoint) ⟨minDB, maxDB⟩
      = maxDB - minDB := by
  have proper : minRaw.val < maxRaw.val := raw
  have nonzero : ((maxRaw.val - minRaw.val : Int) : K) ≠ 0 := by
    exact_mod_cast (show maxRaw.val - minRaw.val ≠ 0 by omega)
  exact mul_div_cancel₀ _ nonzero

theorem stepOf_pos {maxRaw : SInt32} {maxDB : K} (raw : minRaw < maxRaw)
    (db : minDB < maxDB)
    : 0 < stepOf (⟨minRaw, maxRaw⟩ : VolumeRawPoint) ⟨minDB, maxDB⟩ := by
  have proper : minRaw.val < maxRaw.val := raw
  refine div_pos (sub_pos.mpr db) ?_
  exact_mod_cast (show 0 < maxRaw.val - minRaw.val by omega)

/-- From the end of the first range on, the line is that of the others. -/
theorem lineAt_further {maxRaw : SInt32} {maxDB : K} {rest : CurveMap K}
    (raw : minRaw < maxRaw) (further : Chain maxRaw maxDB rest endRaw endDB) {x : Int}
    (past : maxRaw.val ≤ x)
    : lineAt minDB ((⟨minRaw, maxRaw⟩, ⟨minDB, maxDB⟩) :: rest) x = lineAt maxDB rest x := by
  rw [lineAt]
  split
  · rename_i inside
    obtain rfl : x = maxRaw.val := le_antisymm inside past
    rw [further.lineAt_start, range_mul_stepOf raw]
    ring
  · rfl

/-- The line rises. -/
theorem lineAt_lt (chain : Chain minRaw minDB map endRaw endDB) {x y : Int}
    (low : minRaw.val ≤ x) (less : x < y) (high : y ≤ endRaw.val)
    : lineAt minDB map x < lineAt minDB map y := by
  induction chain generalizing x with
  | nil => omega
  | @cons minRaw maxRaw endRaw minDB maxDB endDB rest raw db further ih =>
      have step := stepOf_pos raw db
      by_cases inside : y ≤ maxRaw.val
      · rw [lineAt, lineAt, if_pos inside, if_pos (less.le.trans inside)]
        have fewer : ((x - minRaw.val : Int) : K) < ((y - minRaw.val : Int) : K) := by
          exact_mod_cast (show x - minRaw.val < y - minRaw.val by omega)
        have product := mul_lt_mul_of_pos_right fewer step
        linarith
      · have past : maxRaw.val ≤ y := by omega
        rw [lineAt_further raw further past]
        by_cases before : x ≤ maxRaw.val
        · -- The first part of the way is in the first range.
          have whole : ((x - minRaw.val : Int) : K) ≤ ((maxRaw.val - minRaw.val : Int) : K) := by
            exact_mod_cast (show x - minRaw.val ≤ maxRaw.val - minRaw.val by omega)
          have product := mul_le_mul_of_nonneg_right whole step.le
          rw [range_mul_stepOf raw] at product
          have rest := ih le_rfl (by omega) high
          rw [further.lineAt_start] at rest
          rw [lineAt, if_pos before]
          linarith
        · rw [lineAt_further raw further (by omega)]
          exact ih (by omega) less high

/-- The line ends at the last point. -/
theorem lineAt_end (chain : Chain minRaw minDB map endRaw endDB)
    : lineAt minDB map endRaw.val = endDB := by
  induction chain with
  | nil => rfl
  | cons raw db further ih =>
      rw [lineAt_further raw further further.ordered.1]
      exact ih

/-- The line is between its ends. -/
theorem lineAt_mem (chain : Chain minRaw minDB map endRaw endDB) {x : Int}
    (low : minRaw.val ≤ x) (high : x ≤ endRaw.val)
    : minDB ≤ lineAt minDB map x ∧ lineAt minDB map x ≤ endDB := by
  constructor
  · rcases low.eq_or_lt with rfl | above
    · exact chain.lineAt_start.ge
    · have rises := chain.lineAt_lt le_rfl above high
      rw [chain.lineAt_start] at rises
      exact rises.le
  · rcases high.eq_or_lt with rfl | below
    · exact chain.lineAt_end.le
    · have rises := chain.lineAt_lt low below le_rfl
      rw [chain.lineAt_end] at rises
      exact rises.le

-----------------------------------------------------------------------------------------
-- The loops of the conversions
-----------------------------------------------------------------------------------------

variable {powf : K → K → K}

omit [LinearOrder K] [IsStrictOrderedRing K] in
/-- The width of the first range can be represented where that of all ranges can. -/
theorem exists_range {maxRaw : SInt32} (raw : minRaw < maxRaw) (below : maxRaw ≤ endRaw)
    (fits : endRaw.val - minRaw.val ≤ 2 ^ 31 - 1)
    : ∃ range : SInt32,
        maxRaw.sub minRaw = .ok range ∧ range.val = maxRaw.val - minRaw.val := by
  have proper : minRaw.val < maxRaw.val := raw
  have inside : maxRaw.val ≤ endRaw.val := below
  have bounds : -2 ^ 31 ≤ maxRaw.val - minRaw.val ∧ maxRaw.val - minRaw.val ≤ 2 ^ 31 - 1 := by
    omega
  exact ⟨⟨_, bounds⟩, SInt32.ofValue_ok bounds, rfl⟩

/-- Both loops divide by the width of a range. -/
theorem div_range {maxRaw range : SInt32} {maxDB : K} (raw : minRaw < maxRaw)
    (width : range.val = maxRaw.val - minRaw.val)
    : (FloatArithmetic.exact powf).div ((FloatArithmetic.exact powf).sub maxDB minDB)
          ((FloatArithmetic.exact powf).ofSInt32 range)
        = .ok (stepOf (⟨minRaw, maxRaw⟩ : VolumeRawPoint) ⟨minDB, maxDB⟩) := by
  have proper : minRaw.val < maxRaw.val := raw
  have nonzero : (FloatArithmetic.exact powf).ofSInt32 range ≠ 0 := by
    change (range.val : K) ≠ 0
    exact_mod_cast (show range.val ≠ 0 by omega)
  rw [FloatArithmetic.div_ok _ _ nonzero]
  change Except.ok ((maxDB - minDB) / (range.val : K)) = _
  rw [width]
  rfl

/-- So many steps along the line is where the loop of `ConvertRawToDB()` ends. -/
theorem addDecibels_eq (chain : Chain minRaw minDB map endRaw endDB)
    (fits : endRaw.val - minRaw.val ≤ 2 ^ 31 - 1) {steps : SInt32} (nonneg : 0 ≤ steps.val)
    (inside : minRaw.val + steps.val ≤ endRaw.val)
    : VolumeCurve.addDecibels (.exact powf) map steps minDB
      = .ok (lineAt minDB map (minRaw.val + steps.val)) := by
  induction chain generalizing steps with
  | nil => rfl
  | @cons minRaw maxRaw endRaw minDB maxDB endDB rest raw db further ih =>
      have proper : minRaw.val < maxRaw.val := raw
      have below : maxRaw.val ≤ endRaw.val := further.ordered.1
      obtain ⟨range, rangeEq, width⟩ := exists_range raw further.ordered.1 fits
      rw [VolumeCurve.addDecibels]
      by_cases some : 0 < steps.val
      · rw [if_pos some, rangeEq, ok_bind]
        dsimp only
        rw [div_range raw width, ok_bind]
        by_cases within : steps ≤ range
        · -- The loop ends in this range.
          have few : steps.val ≤ range.val := within
          have none : -2 ^ 31 ≤ steps.val - steps.val ∧ steps.val - steps.val ≤ 2 ^ 31 - 1 := by
            omega
          have left : steps.sub steps = .ok ⟨steps.val - steps.val, none⟩ :=
            SInt32.ofValue_ok none
          rw [min_eq_right within, left, ok_bind]
          have ends : ∀ (map : CurveMap K) (answer : K),
              VolumeCurve.addDecibels (.exact powf) map ⟨steps.val - steps.val, none⟩ answer
                = .ok answer := by
            intro map answer
            cases map with
            | nil => rfl
            | cons entry map => rw [VolumeCurve.addDecibels, if_neg (by simp)]
          rw [ends, lineAt, if_pos (show minRaw.val + steps.val ≤ maxRaw.val by omega),
            add_sub_cancel_left]
          rfl
        · have many : range.val < steps.val := not_le.mp within
          have bounds : -2 ^ 31 ≤ steps.val - range.val
              ∧ steps.val - range.val ≤ 2 ^ 31 - 1 := by
            have atMost := steps.property.2
            omega
          have left : steps.sub range = .ok ⟨steps.val - range.val, bounds⟩ :=
            SInt32.ofValue_ok bounds
          have whole : (FloatArithmetic.exact powf).add minDB
              ((FloatArithmetic.exact powf).mul ((FloatArithmetic.exact powf).ofSInt32 range)
                (stepOf (⟨minRaw, maxRaw⟩ : VolumeRawPoint) ⟨minDB, maxDB⟩))
                = maxDB := by
            change minDB + (range.val : K) * stepOf _ _ = maxDB
            rw [width, range_mul_stepOf raw]
            ring
          rw [min_eq_left (not_le.mp within).le, left, ok_bind, whole]
          have onward : maxRaw.val + (steps.val - range.val) = minRaw.val + steps.val := by omega
          have later : VolumeCurve.addDecibels (.exact powf) rest ⟨_, bounds⟩ maxDB
              = .ok (lineAt maxDB rest (maxRaw.val + (steps.val - range.val))) :=
            ih (by omega) (show 0 ≤ steps.val - range.val by omega)
              (show maxRaw.val + (steps.val - range.val) ≤ endRaw.val by omega)
          rw [later, onward, lineAt_further raw further (by omega)]
      · have start : minRaw.val + steps.val = minRaw.val := by omega
        rw [if_neg some, start, (Chain.cons raw db further).lineAt_start]

/-- The loop of `ConvertDBToRaw()` ends at a nearest point of the line, and at the point itself if
there is one.
-/
structure Nearest (minRaw endRaw : SInt32) (minDB : K) (map : CurveMap K) (inDB : K)
    (answer : SInt32) : Prop where
  low : minRaw ≤ answer
  high : answer ≤ endRaw
  same
    : ∀ x : Int,
        minRaw.val ≤ x → x ≤ endRaw.val → inDB = lineAt minDB map x → answer.val = x
  close
    : map ≠ []
      → ∃ entry ∈ map, |lineAt minDB map answer.val - inDB| ≤ stepOf entry.1 entry.2 / 2

/-- A point is in the first range if its decibels are. -/
theorem inside_of_le {maxRaw : SInt32} {maxDB : K} {rest : CurveMap K} (raw : minRaw < maxRaw)
    (further : Chain maxRaw maxDB rest endRaw endDB) {x : Int} (high : x ≤ endRaw.val)
    (below : lineAt minDB ((⟨minRaw, maxRaw⟩, ⟨minDB, maxDB⟩) :: rest) x ≤ maxDB)
    : x ≤ maxRaw.val := by
  by_contra past
  have rises := further.lineAt_lt le_rfl (not_le.mp past) high
  rw [further.lineAt_start, ← lineAt_further raw further (not_le.mp past).le] at rises
  exact absurd below (not_le.mpr rises)

/-- A point is not in the first range if its decibels are not. -/
theorem past_of_lt {maxRaw : SInt32} {maxDB : K} {rest : CurveMap K} (raw : minRaw < maxRaw)
    (db : minDB < maxDB) (further : Chain maxRaw maxDB rest endRaw endDB) {x : Int}
    (low : minRaw.val ≤ x)
    (above : maxDB < lineAt minDB ((⟨minRaw, maxRaw⟩, ⟨minDB, maxDB⟩) :: rest) x)
    : maxRaw.val < x := by
  by_contra before
  rcases (not_lt.mp before).eq_or_lt with rfl | inside
  · rw [lineAt_further raw further le_rfl, further.lineAt_start] at above
    exact absurd above (lt_irrefl _)
  · have rises := (Chain.cons raw db further).lineAt_lt low inside further.ordered.1
    rw [lineAt_further raw further le_rfl, further.lineAt_start] at rises
    exact absurd above (not_lt.mpr rises.le)

/-- What is nearest in the other ranges is nearest in all, where the first range is passed. -/
theorem nearest_further {maxRaw : SInt32} {maxDB : K} {rest : CurveMap K} (raw : minRaw < maxRaw)
    (db : minDB < maxDB) (further : Chain maxRaw maxDB rest endRaw endDB) {inDB : K}
    (past : maxDB < inDB) (high : inDB ≤ endDB) {answer : SInt32}
    (nearest : Nearest maxRaw endRaw maxDB rest inDB answer)
    : Nearest minRaw endRaw minDB ((⟨minRaw, maxRaw⟩, ⟨minDB, maxDB⟩) :: rest) inDB answer where
  low := raw.le.trans nearest.low
  high := nearest.high
  same := by
    intro x atLeast atMost point
    have after := past_of_lt raw db further atLeast (point ▸ past)
    rw [lineAt_further raw further after.le] at point
    exact nearest.same x after.le atMost point
  close := by
    intro _
    have some : rest ≠ [] := by
      rintro rfl
      cases further
      exact absurd high (not_le.mpr past)
    obtain ⟨entry, member, bound⟩ := nearest.close some
    rw [lineAt_further raw further nearest.low]
    exact ⟨entry, List.mem_cons_of_mem _ member, bound⟩

variable [FloorRing K]

/-- In the range of a number of decibels the loop rounds the steps to it. -/
theorem nearest_inside {maxRaw : SInt32} {maxDB : K} {rest : CurveMap K} (raw : minRaw < maxRaw)
    (db : minDB < maxDB) (further : Chain maxRaw maxDB rest endRaw endDB) {inDB : K}
    (high : inDB ≤ maxDB) {answer : SInt32}
    (rounded
      : answer.val = minRaw.val
        + roundAway
            ((inDB - minDB) / stepOf (⟨minRaw, maxRaw⟩ : VolumeRawPoint) ⟨minDB, maxDB⟩))
    (within : minRaw ≤ answer ∧ answer ≤ maxRaw)
    : Nearest minRaw endRaw minDB ((⟨minRaw, maxRaw⟩, ⟨minDB, maxDB⟩) :: rest) inDB answer := by
  have step := stepOf_pos raw db
  refine ⟨within.1, within.2.trans further.ordered.1, ?_, ?_⟩
  · intro x atLeast atMost point
    have inside : x ≤ maxRaw.val := inside_of_le raw further atMost (point ▸ high)
    have along : inDB - minDB
        = ((x - minRaw.val : Int) : K)
          * stepOf (⟨minRaw, maxRaw⟩ : VolumeRawPoint) ⟨minDB, maxDB⟩ := by
      rw [point, lineAt, if_pos inside, add_sub_cancel_left]
    rw [along, mul_div_cancel_right₀ _ step.ne', roundAway_intCast] at rounded
    omega
  · intro _
    refine ⟨_, List.mem_cons_self, ?_⟩
    have inside : answer.val ≤ maxRaw.val := within.2
    have steps : answer.val - minRaw.val
        = roundAway
            ((inDB - minDB) / stepOf (⟨minRaw, maxRaw⟩ : VolumeRawPoint) ⟨minDB, maxDB⟩) := by
      omega
    set slope := stepOf (⟨minRaw, maxRaw⟩ : VolumeRawPoint) ⟨minDB, maxDB⟩
    have offset : lineAt minDB ((⟨minRaw, maxRaw⟩, ⟨minDB, maxDB⟩) :: rest) answer.val - inDB
        = ((roundAway ((inDB - minDB) / slope) : K) - (inDB - minDB) / slope) * slope := by
      have whole : (inDB - minDB) / slope * slope = inDB - minDB := div_mul_cancel₀ _ step.ne'
      rw [lineAt, if_pos inside, steps, sub_mul, whole]
      ring
    calc
      |lineAt minDB ((⟨minRaw, maxRaw⟩, ⟨minDB, maxDB⟩) :: rest) answer.val - inDB|
          = |(roundAway ((inDB - minDB) / slope) : K) - (inDB - minDB) / slope| * slope := by
            rw [offset, abs_mul, abs_of_pos step]
      _ ≤ 1 / 2 * slope := mul_le_mul_of_nonneg_right (abs_roundAway_sub_le _) step.le
      _ = slope / 2 := by ring

/-- The steps in a range are at least none and at most all. -/
theorem roundAway_mem {maxRaw : SInt32} {maxDB inDB : K} (raw : minRaw < maxRaw)
    (db : minDB < maxDB) (low : minDB ≤ inDB) (high : inDB ≤ maxDB)
    : 0 ≤ roundAway
          ((inDB - minDB) / stepOf (⟨minRaw, maxRaw⟩ : VolumeRawPoint) ⟨minDB, maxDB⟩)
      ∧ roundAway ((inDB - minDB) / stepOf (⟨minRaw, maxRaw⟩ : VolumeRawPoint) ⟨minDB, maxDB⟩)
        ≤ maxRaw.val - minRaw.val := by
  have step := stepOf_pos raw db
  constructor
  · exact roundAway_nonneg (div_nonneg (sub_nonneg.mpr low) step.le)
  · rw [← roundAway_intCast (K := K) (maxRaw.val - minRaw.val)]
    refine roundAway_mono ?_
    rw [div_le_iff₀ step, range_mul_stepOf raw]
    exact sub_le_sub_right high minDB

/-- The loop of `ConvertDBToRaw()` ends at a nearest point. -/
theorem addRawSteps_nearest (chain : Chain minRaw minDB map endRaw endDB)
    (fits : endRaw.val - minRaw.val ≤ 2 ^ 31 - 1) {inDB : K} (low : minDB ≤ inDB)
    (high : inDB ≤ endDB)
    : ∃ answer : SInt32,
        VolumeCurve.addRawSteps (.exact powf) inDB map minRaw = .ok answer
        ∧ Nearest minRaw endRaw minDB map inDB answer := by
  induction chain with
  | nil raw db =>
      refine ⟨raw, rfl, le_rfl, le_rfl, ?_, fun some => absurd rfl some⟩
      intro x atLeast atMost _
      omega
  | @cons minRaw maxRaw endRaw minDB maxDB endDB rest raw db further ih =>
      have proper : minRaw.val < maxRaw.val := raw
      have below : maxRaw.val ≤ endRaw.val := further.ordered.1
      obtain ⟨range, rangeEq, width⟩ := exists_range raw further.ordered.1 fits
      rw [VolumeCurve.addRawSteps, rangeEq, ok_bind]
      dsimp only
      rw [div_range raw width, ok_bind]
      by_cases past : maxDB < inDB
      · have whole : minRaw.add range = .ok maxRaw := by
          rw [SInt32.add, width, add_sub_cancel]
          exact SInt32.ofValue_ok maxRaw.property
        obtain ⟨answer, answerEq, nearest⟩ := ih (by omega) past.le high
        rw [if_pos past, whole, ok_bind]
        exact ⟨answer, answerEq, nearest_further raw db further past high nearest⟩
      · have inside : inDB ≤ maxDB := not_lt.mp past
        obtain ⟨atLeast, atMost⟩ := roundAway_mem raw db low inside
        have step := stepOf_pos raw db
        set steps :=
          roundAway ((inDB - minDB) / stepOf (⟨minRaw, maxRaw⟩ : VolumeRawPoint) ⟨minDB, maxDB⟩)
          with stepsEq
        have bounds := minRaw.property
        have bounds' := maxRaw.property
        have first : -2 ^ 31 ≤ steps ∧ steps ≤ 2 ^ 31 - 1 := by omega
        have second : -2 ^ 31 ≤ minRaw.val + steps ∧ minRaw.val + steps ≤ 2 ^ 31 - 1 := by omega
        refine ⟨⟨_, second⟩, ?_, nearest_inside raw db further inside rfl ?_⟩
        · rw [if_neg past, FloatArithmetic.div_ok _ _ step.ne', ok_bind]
          change (do
            let wholeSteps ← FloatArithmetic.toSInt32 (steps : K)
            minRaw.add wholeSteps) = _
          rw [FloatArithmetic.toSInt32, truncate_intCast, SInt32.ofValue_ok first]
          exact SInt32.ofValue_ok second
        · exact ⟨show minRaw.val ≤ minRaw.val + steps by omega,
            show minRaw.val + steps ≤ maxRaw.val by omega⟩

end Chain

-----------------------------------------------------------------------------------------
-- Curves that are continuous
-----------------------------------------------------------------------------------------

namespace VolumeCurve

/-- The loop of `CheckForContinuity()` over the entries that are left. -/
def checkEntries (float : FloatArithmetic K) : CurveMap K → SInt32 → K → Except Fault Bool
  | [], _, _ => .ok true
  | (raw, db) :: rest, theRaw, theDB => do
      let theRawRange ← raw.mMaximum.sub raw.mMinimum
      let theDBRange := float.sub db.mMaximum db.mMinimum
      let theAnswer := theRaw == raw.mMinimum && theDB == db.mMinimum
      let theRaw ← theRaw.add theRawRange
      let theDB := float.add theDB theDBRange
      if theAnswer then checkEntries float rest theRaw theDB
      else return false

/-- `VolumeCurve::CheckForContinuity()`. -/
def checkForContinuity (float : FloatArithmetic K) (curve : VolumeCurve K) : Except Fault Bool :=
  match curve.mCurveMap with
  | [] => .ok true
  | (raw, db) :: rest => checkEntries float ((raw, db) :: rest) raw.mMinimum db.mMinimum

/-- A curve whose raw values and decibels rise in each range, the raw values by no more than can
be represented.
-/
structure Rising (curve : VolumeCurve K) : Prop where
  some : curve.mCurveMap ≠ []
  raw : ∀ entry ∈ curve.mCurveMap, entry.1.mMinimum < entry.1.mMaximum
  db : ∀ entry ∈ curve.mCurveMap, entry.2.mMinimum < entry.2.mMaximum
  fits : curve.getMaximumRaw.val - curve.getMinimumRaw.val ≤ 2 ^ 31 - 1

end VolumeCurve

section Continuous

variable {powf : K → K → K} {minRaw endRaw : SInt32} {minDB endDB : K} {map : CurveMap K}

/-- The loop of `CheckForContinuity()` accepts chains only. -/
theorem chain_of_checkEntries [IsStrictOrderedRing K]
    (raw : ∀ entry ∈ map, entry.1.mMinimum < entry.1.mMaximum)
    (db : ∀ entry ∈ map, entry.2.mMinimum < entry.2.mMaximum)
    (checked : VolumeCurve.checkEntries (.exact powf) map minRaw minDB = .ok true)
    : ∃ (endRaw : SInt32) (endDB : K), Chain minRaw minDB map endRaw endDB := by
  induction map generalizing minRaw minDB with
  | nil => exact ⟨minRaw, minDB, .nil minRaw minDB⟩
  | cons entry rest ih =>
      obtain ⟨⟨rawMin, rawMax⟩, dbMin, dbMax⟩ := entry
      rw [VolumeCurve.checkEntries] at checked
      obtain ⟨range, rangeEq, checked⟩ := bind_eq_ok_iff.mp checked
      dsimp only at checked
      obtain ⟨nextRaw, nextEq, checked⟩ := bind_eq_ok_iff.mp checked
      by_cases same : minRaw = rawMin ∧ minDB = dbMin
      · obtain ⟨rfl, rfl⟩ := same
        have width : range.val = rawMax.val - minRaw.val :=
          SInt32.ofValue_eq_ok_iff.mp rangeEq
        have whole : nextRaw = rawMax := by
          have sum : nextRaw.val = minRaw.val + range.val :=
            SInt32.ofValue_eq_ok_iff.mp nextEq
          exact SInt32.ext (by omega)
        have onward : (FloatArithmetic.exact powf).add minDB
            ((FloatArithmetic.exact powf).sub dbMax minDB) = dbMax :=
          add_sub_cancel minDB dbMax
        rw [if_pos (by simp), whole, onward] at checked
        obtain ⟨endRaw, endDB, further⟩ :=
          ih (fun entry member => raw entry (List.mem_cons_of_mem _ member))
            (fun entry member => db entry (List.mem_cons_of_mem _ member)) checked
        exact ⟨endRaw, endDB,
          .cons (raw _ List.mem_cons_self) (db _ List.mem_cons_self) further⟩
      · rw [if_neg (by simpa using same)] at checked
        cases checked

/-- The loop of `CheckForContinuity()` accepts the chains whose width can be represented. -/
theorem checkEntries_of_chain (chain : Chain minRaw minDB map endRaw endDB)
    (fits : endRaw.val - minRaw.val ≤ 2 ^ 31 - 1)
    : VolumeCurve.checkEntries (.exact powf) map minRaw minDB = .ok true := by
  induction chain with
  | nil => rfl
  | @cons minRaw maxRaw endRaw minDB maxDB endDB rest raw db further ih =>
      have proper : minRaw.val < maxRaw.val := raw
      have onward : (FloatArithmetic.exact powf).add minDB
          ((FloatArithmetic.exact powf).sub maxDB minDB) = maxDB :=
        add_sub_cancel minDB maxDB
      obtain ⟨range, rangeEq, width⟩ := Chain.exists_range raw further.ordered.1 fits
      have whole : minRaw.add range = .ok maxRaw := by
        rw [SInt32.add, width, add_sub_cancel]
        exact SInt32.ofValue_ok maxRaw.property
      rw [VolumeCurve.checkEntries, rangeEq, ok_bind]
      dsimp only
      rw [whole, ok_bind, if_pos (by simp), onward]
      exact ih (by omega)

omit [Field K] in
/-- A chain ends where its last range does. -/
theorem Chain.exists_last (chain : Chain minRaw minDB map endRaw endDB) (some : map ≠ [])
    : ∃ entry, map.getLast? = .some entry ∧ entry.1.mMaximum = endRaw
        ∧ entry.2.mMaximum = endDB := by
  induction chain with
  | nil => exact absurd rfl some
  | @cons minRaw maxRaw endRaw minDB maxDB endDB rest raw db further ih =>
      cases further with
      | nil => exact ⟨_, rfl, rfl, rfl⟩
      | cons raw db further =>
          obtain ⟨entry, last, ends⟩ := ih (by simp)
          exact ⟨entry, by rw [List.getLast?_cons_cons, last], ends⟩

omit [Field K] in
/-- No range of a chain starts before the chain. -/
theorem Chain.le_of_mem (chain : Chain minRaw minDB map endRaw endDB)
    {entry : VolumeRawPoint × VolumeDecibelPoint K} (member : entry ∈ map)
    : minRaw ≤ entry.1.mMinimum := by
  induction chain with
  | nil => cases member
  | cons raw db further ih =>
      rcases List.mem_cons.mp member with rfl | later
      · exact le_rfl
      · exact raw.le.trans (ih later)

omit [Field K] in
/-- The ranges of a chain are apart. -/
theorem Chain.apart (chain : Chain minRaw minDB map endRaw endDB)
    : Apart map := by
  induction chain with
  | nil => exact ⟨fun _ member => (by cases member), List.Pairwise.nil⟩
  | cons raw db further ih =>
      constructor
      · intro entry member
        rcases List.mem_cons.mp member with rfl | later
        · exact raw
        · exact ih.proper entry later
      · exact ih.ordered.cons (fun entry member => further.le_of_mem member)

end Continuous

namespace VolumeCurve

variable {curve : VolumeCurve K} {powf : K → K → K}

/-- The decibels of a raw value on the line through the ends of all ranges. -/
def decibelsOf (curve : VolumeCurve K) (raw : SInt32) : K :=
  lineAt curve.getMinimumDB curve.mCurveMap raw.val

/-- A number of decibels moved into the range of the curve. -/
def clampDB (curve : VolumeCurve K) (inDB : K) : K :=
  let inDB := if inDB < curve.getMinimumDB then curve.getMinimumDB else inDB
  if curve.getMaximumDB < inDB then curve.getMaximumDB else inDB

/-- The ranges of a continuous curve are a chain from its minimum to its maximum. -/
theorem Rising.chain [IsStrictOrderedRing K] (rising : curve.Rising)
    (continuous : curve.checkForContinuity (.exact powf) = .ok true)
    : Chain curve.getMinimumRaw curve.getMinimumDB curve.mCurveMap curve.getMaximumRaw
        curve.getMaximumDB := by
  obtain ⟨map, applying, numerator, denominator⟩ := curve
  cases map with
  | nil => exact absurd rfl rising.some
  | cons entry rest =>
      obtain ⟨endRaw, endDB, chain⟩ :=
        chain_of_checkEntries rising.raw rising.db continuous
      obtain ⟨last, lastEq, rawEnd, dbEnd⟩ := chain.exists_last rising.some
      have raw : getMaximumRaw ⟨entry :: rest, applying, numerator, denominator⟩ = endRaw := by
        rw [getMaximumRaw, lastEq]
        exact rawEnd
      have db : getMaximumDB ⟨entry :: rest, applying, numerator, denominator⟩ = endDB := by
        rw [getMaximumDB, lastEq]
        exact dbEnd
      rw [raw, db]
      exact chain

omit [Field K] in
theorem clamp_mem {low high x : K} (ordered : low ≤ high)
    : low ≤ (let x := if x < low then low else x; if high < x then high else x)
      ∧ (let x := if x < low then low else x; if high < x then high else x) ≤ high := by
  dsimp only
  split <;> split <;> grind

/-- Both conversions start their loops at the first entry. -/
theorem convertDBToRaw_of_some [FloorRing K] (float : FloatArithmetic K)
    (some : curve.mCurveMap ≠ []) (inDB : K)
    : curve.convertDBToRaw float inDB
      = addRawSteps float (curve.clampDB inDB) curve.mCurveMap curve.getMinimumRaw := by
  obtain ⟨map, applying, numerator, denominator⟩ := curve
  cases map with
  | nil => exact absurd rfl some
  | cons entry rest => rfl

theorem convertRawToDB_of_some (float : FloatArithmetic K) (some : curve.mCurveMap ≠ [])
    (inRaw : SInt32)
    : curve.convertRawToDB float inRaw
      = (do
          let theNumberRawSteps ← (curve.clampRaw inRaw).sub curve.getMinimumRaw
          addDecibels float curve.mCurveMap theNumberRawSteps curve.getMinimumDB) := by
  obtain ⟨map, applying, numerator, denominator⟩ := curve
  cases map with
  | nil => exact absurd rfl some
  | cons entry rest => rfl

/-- Without rounding, `ConvertRawToDB()` finds the point of a raw value. -/
theorem Rising.convertRawToDB_eq [IsStrictOrderedRing K] (rising : curve.Rising)
    (continuous : curve.checkForContinuity (.exact powf) = .ok true) (raw : SInt32)
    : curve.convertRawToDB (.exact powf) raw = .ok (curve.decibelsOf (curve.clampRaw raw)) := by
  have chain := rising.chain continuous
  obtain ⟨low, high⟩ : curve.getMinimumRaw ≤ curve.clampRaw raw
      ∧ curve.clampRaw raw ≤ curve.getMaximumRaw := clamp_mem chain.ordered.1
  have lowest : curve.getMinimumRaw.val ≤ (curve.clampRaw raw).val := low
  have highest : (curve.clampRaw raw).val ≤ curve.getMaximumRaw.val := high
  have fits := rising.fits
  have bounds : -2 ^ 31 ≤ (curve.clampRaw raw).val - curve.getMinimumRaw.val
      ∧ (curve.clampRaw raw).val - curve.getMinimumRaw.val ≤ 2 ^ 31 - 1 := by omega
  have steps : (curve.clampRaw raw).sub curve.getMinimumRaw = .ok ⟨_, bounds⟩ :=
    SInt32.ofValue_ok bounds
  have whole : curve.getMinimumRaw.val
      + ((curve.clampRaw raw).val - curve.getMinimumRaw.val) = (curve.clampRaw raw).val := by
    omega
  have nonneg : 0 ≤ (curve.clampRaw raw).val - curve.getMinimumRaw.val := by omega
  have inside : curve.getMinimumRaw.val
      + ((curve.clampRaw raw).val - curve.getMinimumRaw.val) ≤ curve.getMaximumRaw.val := by
    omega
  have along : addDecibels (.exact powf) curve.mCurveMap ⟨_, bounds⟩ curve.getMinimumDB
      = .ok (lineAt curve.getMinimumDB curve.mCurveMap
        (curve.getMinimumRaw.val + ((curve.clampRaw raw).val - curve.getMinimumRaw.val))) :=
    chain.addDecibels_eq fits nonneg inside
  rw [convertRawToDB_of_some _ rising.some, steps, ok_bind, along, whole]
  rfl

/-- Without rounding, `ConvertDBToRaw()` finds a nearest point. -/
theorem Rising.convertDBToRaw_nearest [IsStrictOrderedRing K] [FloorRing K]
    (rising : curve.Rising) (continuous : curve.checkForContinuity (.exact powf) = .ok true)
    (inDB : K)
    : ∃ answer : SInt32,
        curve.convertDBToRaw (.exact powf) inDB = .ok answer
        ∧ Chain.Nearest curve.getMinimumRaw curve.getMaximumRaw curve.getMinimumDB
            curve.mCurveMap (curve.clampDB inDB) answer := by
  have chain := rising.chain continuous
  obtain ⟨low, high⟩ : curve.getMinimumDB ≤ curve.clampDB inDB
      ∧ curve.clampDB inDB ≤ curve.getMaximumDB := clamp_mem chain.ordered.2
  rw [convertDBToRaw_of_some _ rising.some]
  exact chain.addRawSteps_nearest rising.fits low high

omit [Field K] in
theorem clamp_of_mem {low high x : K} (atLeast : low ≤ x) (atMost : x ≤ high)
    : (let x := if x < low then low else x; if high < x then high else x) = x := by
  dsimp only
  rw [if_neg (not_lt.mpr atLeast), if_neg (not_lt.mpr atMost)]

/-- A continuous curve converts along one rising line, in both directions: raw values to its
points, the decibels of a point back to it, and other numbers to a point at most half a raw step
away.
-/
theorem continuous_curve_round_trip [IsStrictOrderedRing K] [FloorRing K] (curve : VolumeCurve K)
    (rising : curve.Rising) (continuous : curve.checkForContinuity (.exact powf) = .ok true)
    : (∀ raw : SInt32,
          curve.convertRawToDB (.exact powf) raw = .ok (curve.decibelsOf (curve.clampRaw raw)))
      ∧ (∀ x y : SInt32,
          curve.getMinimumRaw ≤ x → x < y → y ≤ curve.getMaximumRaw
          → curve.decibelsOf x < curve.decibelsOf y)
      ∧ (curve.decibelsOf curve.getMinimumRaw = curve.getMinimumDB
        ∧ curve.decibelsOf curve.getMaximumRaw = curve.getMaximumDB)
      ∧ (∀ raw : SInt32,
          curve.convertDBToRaw (.exact powf) (curve.decibelsOf (curve.clampRaw raw))
            = .ok (curve.clampRaw raw))
      ∧ (∀ inDB : K, ∃ raw : SInt32,
          curve.convertDBToRaw (.exact powf) inDB = .ok raw
          ∧ curve.getMinimumRaw ≤ raw ∧ raw ≤ curve.getMaximumRaw
          ∧ ∃ entry ∈ curve.mCurveMap,
              |curve.decibelsOf raw - curve.clampDB inDB| ≤ stepOf entry.1 entry.2 / 2) := by
  have chain := rising.chain continuous
  refine ⟨rising.convertRawToDB_eq continuous, ?rises, ⟨?bottom, ?top⟩, ?back, ?near⟩
  case rises => exact fun x y low less high => chain.lineAt_lt low less high
  case bottom => exact chain.lineAt_start
  case top => exact chain.lineAt_end
  case back =>
    intro raw
    obtain ⟨low, high⟩ : curve.getMinimumRaw ≤ curve.clampRaw raw
        ∧ curve.clampRaw raw ≤ curve.getMaximumRaw := clamp_mem chain.ordered.1
    obtain ⟨least, most⟩ := chain.lineAt_mem low high
    obtain ⟨answer, answerEq, nearest⟩ :=
      rising.convertDBToRaw_nearest continuous (curve.decibelsOf (curve.clampRaw raw))
    have inside : curve.clampDB (curve.decibelsOf (curve.clampRaw raw))
        = curve.decibelsOf (curve.clampRaw raw) := clamp_of_mem least most
    rw [inside] at nearest
    rw [answerEq, SInt32.ext (nearest.same _ low high rfl)]
  case near =>
    intro inDB
    obtain ⟨answer, answerEq, nearest⟩ := rising.convertDBToRaw_nearest continuous inDB
    exact ⟨answer, answerEq, nearest.low, nearest.high, nearest.close rising.some⟩

/-- Ranges that rise by four decibels a step up to the tenth step, then by two. -/
def twoSlopes : CurveMap ℚ :=
  [(⟨rawValue 0, rawValue 10⟩, ⟨-60, -20⟩), (⟨rawValue 10, rawValue 20⟩, ⟨-20, 0⟩)]

theorem twoSlopes_chain
    : Chain (rawValue 0) (-60) twoSlopes (rawValue 20) 0 :=
  .cons (by decide) (by norm_num) (.cons (by decide) (by norm_num) (.nil _ _))

/-- A raw value in the second range comes back from its decibels. -/
theorem continuous_curve_round_trip_second
    : let curve : VolumeCurve ℚ := { mCurveMap := twoSlopes }
      curve.convertDBToRaw (.exact (fun x _ => x))
          (curve.decibelsOf (curve.clampRaw (rawValue 15)))
        = .ok (curve.clampRaw (rawValue 15)) := by
  intro curve
  have rising : curve.Rising := by
    refine ⟨by simp [curve, twoSlopes], ?_, ?_, by decide⟩ <;> simp [curve, twoSlopes] <;> decide
  have continuous : curve.checkForContinuity (.exact (fun x _ => x)) = .ok true :=
    checkEntries_of_chain twoSlopes_chain (by decide)
  exact (continuous_curve_round_trip curve rising continuous).2.2.2.1 (rawValue 15)

/-- Calls of `AddRange()` with consecutive ranges, in any order, make a curve that holds the ranges
in rising order and that `CheckForContinuity()` accepts.
-/
theorem consecutive_ranges_continuous [IsStrictOrderedRing K] {minRaw endRaw : SInt32}
    {minDB endDB : K} {ranges : CurveMap K} (chain : Chain minRaw minDB ranges endRaw endDB)
    (fits : endRaw.val - minRaw.val ≤ 2 ^ 31 - 1) (calls : List (RangeCall K))
    (order : (calls.map RangeCall.entry).Perm ranges)
    : (addRanges {} calls).mCurveMap = ranges
      ∧ (addRanges {} calls).checkForContinuity (.exact powf) = .ok true := by
  have same : (addRanges ({} : VolumeCurve K) calls).mCurveMap = ranges :=
    addRanges_any_order chain.apart order
  refine ⟨same, ?_⟩
  rw [checkForContinuity, same]
  cases chain with
  | nil => rfl
  | cons raw db further => exact checkEntries_of_chain (.cons raw db further) fits

/-- The calls for the two slopes, the upper one first. -/
def upperFirst : List (RangeCall ℚ) :=
  [⟨rawValue 10, rawValue 20, -20, 0⟩, ⟨rawValue 0, rawValue 10, -60, -20⟩]

theorem consecutive_ranges_continuous_upper
    : (addRanges {} upperFirst).mCurveMap = twoSlopes
      ∧ (addRanges {} upperFirst).checkForContinuity (.exact (fun x _ => x)) = .ok true :=
  consecutive_ranges_continuous twoSlopes_chain (by decide) upperFirst (List.Perm.swap ..)

end VolumeCurve

end Aspl.Volume
