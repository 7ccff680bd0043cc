import Mathlib.Algebra.Order.Round
import Mathlib.Order.Monotone.Basic
import Mathlib.Tactic.Linarith
import Mathlib.Tactic.NormNum
import Mathlib.Tactic.Ring

/-! Machine arithmetic with explicit faults: signed 32-bit integers whose operations fail where
they overflow, numbers whose operations are exact ones followed by a rounding, and the casts
between them. Nothing here names a program.
-/

namespace Aspl.Arithmetic

universe u

/-- Why an operation has no defined result. -/
inductive Fault where
  | overflow
  | divisionByZero
  | endIterator
deriving DecidableEq

/-- A computation goes on with the result of its first part. -/
@[simp] theorem ok_bind {A B : Type} (value : A) (next : A → Except Fault B)
    : (Except.ok value >>= next) = next value := rfl

/-- A computation that succeeds has succeeded in its first part. -/
theorem bind_eq_ok_iff {A B : Type} {first : Except Fault A} {next : A → Except Fault B}
    {result : B}
    : (first >>= next) = .ok result ↔ ∃ value, first = .ok value ∧ next value = .ok result := by
  cases first with
  | error fault =>
      constructor
      · intro failed
        cases failed
      · rintro ⟨value, failed, -⟩
        cases failed
  | ok value =>
      constructor
      · exact fun succeeded => ⟨value, rfl, succeeded⟩
      · rintro ⟨_, same, succeeded⟩
        rwa [Except.ok.inj same]

/-- A signed 32-bit integer. -/
@[ext] structure SInt32 where
  val : Int
  property : -2 ^ 31 ≤ val ∧ val ≤ 2 ^ 31 - 1

namespace SInt32

theorem val_injective : Function.Injective val := fun _ _ same => SInt32.ext same

/-- The order of the values. -/
instance linearOrder : LinearOrder SInt32 :=
  @LinearOrder.lift' SInt32 Int Int.instLinearOrder val val_injective

/-- The integer with a value, if it is not too large or too small. -/
def ofValue (value : Int) : Except Fault SInt32 :=
  if fits : -2 ^ 31 ≤ value ∧ value ≤ 2 ^ 31 - 1 then .ok ⟨value, fits⟩ else .error .overflow

def add (left right : SInt32) : Except Fault SInt32 := ofValue (left.val + right.val)

def sub (left right : SInt32) : Except Fault SInt32 := ofValue (left.val - right.val)

/-- A value has an integer exactly if it fits. -/
theorem ofValue_eq_ok_iff {value : Int} {result : SInt32}
    : ofValue value = .ok result ↔ result.val = value := by
  rw [ofValue]
  split
  · rw [Except.ok.injEq, SInt32.ext_iff]
    exact eq_comm
  · rename_i outside
    constructor
    · intro failed
      cases failed
    · rintro rfl
      exact absurd result.property outside

theorem ofValue_ok {value : Int} (fits : -2 ^ 31 ≤ value ∧ value ≤ 2 ^ 31 - 1)
    : ofValue value = .ok ⟨value, fits⟩ :=
  ofValue_eq_ok_iff.mpr rfl

end SInt32

section Rounding

variable {K : Type u} [Field K] [LinearOrder K] [IsStrictOrderedRing K] [FloorRing K]

/-- The nearest integer, away from zero if it is half way: `roundf()`. -/
def roundAway (x : K) : Int :=
  if 0 ≤ x then round x else -round (-x)

/-- The integer part, towards zero: a cast to an integer type. -/
def truncate (x : K) : Int :=
  if 0 ≤ x then ⌊x⌋ else ⌈x⌉

@[simp] theorem truncate_intCast (n : Int) : truncate (n : K) = n := by
  simp [truncate]

@[simp] theorem roundAway_intCast (n : Int) : roundAway (n : K) = n := by
  rw [roundAway]
  split
  · exact round_intCast n
  · rw [← Int.cast_neg, round_intCast, neg_neg]

theorem round_mono {x y : K} (below : x ≤ y) : round x ≤ round y := by
  rw [round_eq, round_eq]
  exact Int.floor_mono (by linarith)

/-- Rounding moves a value by half at most. -/
theorem abs_roundAway_sub_le (x : K) : |(roundAway x : K) - x| ≤ 1 / 2 := by
  rw [roundAway]
  split
  · rw [abs_sub_comm]
    exact abs_sub_round x
  · have mirrored : ((-round (-x) : Int) : K) - x = -x - round (-x) := by
      push_cast
      ring
    rw [mirrored]
    exact abs_sub_round (-x)

theorem roundAway_nonneg {x : K} (nonneg : 0 ≤ x) : 0 ≤ roundAway x := by
  rw [roundAway, if_pos nonneg, ← round_zero (α := K)]
  exact round_mono nonneg

theorem roundAway_mono {x y : K} (below : x ≤ y) : roundAway x ≤ roundAway y := by
  by_cases positive : 0 ≤ x
  · rw [roundAway, roundAway, if_pos positive, if_pos (positive.trans below)]
    exact round_mono below
  · rw [roundAway, if_neg positive]
    have mirrored : 0 ≤ round (-x) := by
      rw [← round_zero (α := K)]
      exact round_mono (by linarith)
    by_cases crossing : 0 ≤ y
    · have above := roundAway_nonneg crossing
      omega
    · rw [roundAway, if_neg crossing]
      have reflected := round_mono (neg_le_neg below)
      omega

end Rounding

/-- Numbers with a rounding after each operation, and a power function. -/
structure FloatArithmetic (K : Type u) where
  round : K → K
  powf : K → K → K

namespace FloatArithmetic

variable {K : Type u} [Field K] [LinearOrder K]

/-- Operations without rounding. -/
def exact (powf : K → K → K) : FloatArithmetic K where
  round x := x
  powf := powf

def add (float : FloatArithmetic K) (x y : K) : K := float.round (x + y)

def sub (float : FloatArithmetic K) (x y : K) : K := float.round (x - y)

def mul (float : FloatArithmetic K) (x y : K) : K := float.round (x * y)

def div (float : FloatArithmetic K) (x y : K) : Except Fault K :=
  if y = 0 then .error .divisionByZero else .ok (float.round (x / y))

/-- The cast of an integer. -/
def ofSInt32 (float : FloatArithmetic K) (n : SInt32) : K := float.round (n.val : K)

/-- The cast to an integer, which fails where the integer part does not fit. -/
def toSInt32 [FloorRing K] (x : K) : Except Fault SInt32 := SInt32.ofValue (truncate x)

/-- What rounding to the nearest number of a format guarantees, where nothing exceeds the largest
number of the format.
-/
structure Lawful (float : FloatArithmetic K) : Prop where
  monotone : Monotone float.round
  zero : float.round 0 = 0
  one : float.round 1 = 1

theorem lawful_exact (powf : K → K → K) : (exact powf).Lawful where
  monotone := monotone_id
  zero := rfl
  one := rfl

/-- A quotient is defined exactly if its divisor is not zero. -/
theorem div_eq_ok_iff {float : FloatArithmetic K} {x y quotient : K}
    : float.div x y = .ok quotient ↔ y ≠ 0 ∧ quotient = float.round (x / y) := by
  rw [div]
  split
  · rename_i zero
    simp [zero]
  · rename_i nonzero
    simp [nonzero, eq_comm]

theorem div_ok (float : FloatArithmetic K) (x : K) {y : K} (nonzero : y ≠ 0)
    : float.div x y = .ok (float.round (x / y)) :=
  if_neg nonzero

end FloatArithmetic

end Aspl.Arithmetic
