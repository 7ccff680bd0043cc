import Aspl.Base.Arithmetic

/-! Floating-point arithmetic with infinities: results that are too large for the format when they
are rounded become infinite, and further operations on these may yield no number at all. That is
no fault, but such a result cannot be cast to an integer. Nothing here names a program.
-/

namespace Aspl.Arithmetic

universe u

/-- A datum of a floating-point format. Zeros have no sign here. -/
inductive Number (K : Type u) where
  | finite (value : K)
  | infinite (negative : Bool)
  | notANumber
deriving DecidableEq

namespace Number

variable {K : Type u}

def opposite [Neg K] : Number K → Number K
  | .finite value => .finite (-value)
  | .infinite negative => .infinite (!negative)
  | .notANumber => .notANumber

/-- `<` of two data, of which nothing holds where one is no number. -/
def less [LT K] [DecidableLT K] : Number K → Number K → Bool
  | .finite x, .finite y => x < y
  | .finite _, .infinite negative => !negative
  | .infinite negative, .finite _ => negative
  | .infinite first, .infinite second => first && !second
  | .notANumber, _ | _, .notANumber => false

variable [Field K] [LinearOrder K] [FloorRing K]

/-- `roundf()`, which leaves what is not finite as it is. -/
def roundAway : Number K → Number K
  | .finite x => .finite (Arithmetic.roundAway x : K)
  | other => other

/-- The cast to an integer, which fails for what is not finite. -/
def toSInt32 : Number K → Except Fault SInt32
  | .finite x => FloatArithmetic.toSInt32 x
  | _ => .error .overflow

end Number

/-- Rounded arithmetic with a limit on its results. -/
structure Format (K : Type u) extends FloatArithmetic K where
  isFinite : K → Bool

namespace Format

variable {K : Type u} [Field K] [LinearOrder K]

/-- Operations without rounding, and without a limit. -/
def exact (powf : K → K → K) : Format K where
  toFloatArithmetic := .exact powf
  isFinite _ := true

/-- Operations without rounding up to a largest number. -/
def upTo (largest : K) (powf : K → K → K) : Format K where
  toFloatArithmetic := .exact powf
  isFinite x := |x| ≤ largest

variable (format : Format K)

/-- A result that may be too large. -/
def limit (x : K) : Number K :=
  if format.isFinite x then .finite x else .infinite (x < 0)

/-- A result that is rounded. -/
def number (x : K) : Number K := format.limit (format.round x)

/-- The cast of an integer. -/
def ofSInt32 (n : SInt32) : Number K := format.number (n.val : K)

def add : Number K → Number K → Number K
  | .finite x, .finite y => format.number (x + y)
  | .finite _, other | other, .finite _ => other
  | .infinite first, .infinite second =>
      if first = second then .infinite first else .notANumber
  | .notANumber, _ | _, .notANumber => .notANumber

def sub : Number K → Number K → Number K
  | .finite x, .finite y => format.number (x - y)
  | x, y => format.add x y.opposite

def mul : Number K → Number K → Number K
  | .finite x, .finite y => format.number (x * y)
  | .finite x, .infinite negative | .infinite negative, .finite x =>
      if x = 0 then .notANumber else .infinite (negative ^^ decide (x < 0))
  | .infinite first, .infinite second => .infinite (first ^^ second)
  | .notANumber, _ | _, .notANumber => .notANumber

def div : Number K → Number K → Except Fault (Number K)
  | x, .finite y =>
      if y = 0 then .error .divisionByZero
      else
        match x with
        | .finite x => .ok (format.number (x / y))
        | .infinite negative => .ok (.infinite (negative ^^ decide (y < 0)))
        | .notANumber => .ok .notANumber
  | .finite _, .infinite _ => .ok (.finite 0)
  | _, _ => .ok .notANumber

/-- The power function, for finite numbers. -/
def pow : Number K → Number K → Number K
  | .finite x, .finite y => format.limit (format.powf x y)
  | _, _ => .notANumber

/-- What rounding to the nearest number of a format guarantees, for formats that hold all integers
up to a power of two in absolute value.
-/
structure Lawful (format : Format K) : Prop extends format.toFloatArithmetic.Lawful where
  idempotent : ∀ x, format.round (format.round x) = format.round x
  top : format.round (2 ^ 31) = 2 ^ 31
  bottom : format.round (-2 ^ 31) = -2 ^ 31
  small : ∀ x, |x| ≤ 2 ^ 31 → format.isFinite x = true
  convex : ∀ x y, |x| ≤ |y| → format.isFinite y = true → format.isFinite x = true

theorem lawful_exact (powf : K → K → K) : (exact powf).Lawful where
  toLawful := FloatArithmetic.lawful_exact powf
  idempotent _ := rfl
  top := rfl
  bottom := rfl
  small _ _ := rfl
  convex _ _ _ _ := rfl

theorem lawful_upTo {largest : K} (large : 2 ^ 31 ≤ largest) (powf : K → K → K)
    : (upTo largest powf).Lawful where
  toLawful := FloatArithmetic.lawful_exact powf
  idempotent _ := rfl
  top := rfl
  bottom := rfl
  small _ bound := decide_eq_true (bound.trans large)
  convex _ _ bound finite := decide_eq_true (bound.trans (of_decide_eq_true finite))

variable {format}

theorem limit_of_finite {x : K} (finite : format.isFinite x = true)
    : format.limit x = .finite x :=
  if_pos finite

theorem limit_of_not_finite {x : K} (infinite : format.isFinite x ≠ true)
    : format.limit x = .infinite (x < 0) :=
  if_neg infinite

/-- What is not finite is large. -/
theorem Lawful.large_of_not_finite (lawful : format.Lawful) {x : K}
    (infinite : format.isFinite x ≠ true)
    : 2 ^ 31 < |x| :=
  not_le.mp (fun bound => infinite (lawful.small x bound))

variable [IsStrictOrderedRing K]

/-- Rounding does not lead out of the interval of the 32-bit integers. -/
theorem Lawful.abs_round_le (lawful : format.Lawful) {x : K} (bound : |x| ≤ 2 ^ 31)
    : |format.round x| ≤ 2 ^ 31 := by
  obtain ⟨low, high⟩ := abs_le.mp bound
  refine abs_le.mpr ⟨?_, ?_⟩
  · rw [← lawful.bottom]
    exact lawful.monotone low
  · rw [← lawful.top]
    exact lawful.monotone high

/-- Small results are finite. -/
theorem Lawful.number_of_small (lawful : format.Lawful) {x : K} (bound : |x| ≤ 2 ^ 31)
    : format.number x = .finite (format.round x) :=
  limit_of_finite (lawful.small _ (lawful.abs_round_le bound))

/-- Integers are finite. -/
theorem Lawful.ofSInt32_eq (lawful : format.Lawful) (n : SInt32)
    : format.ofSInt32 n = .finite (format.toFloatArithmetic.ofSInt32 n) := by
  refine lawful.number_of_small (abs_le.mpr ?_)
  obtain ⟨low, high⟩ := n.property
  have least : -2 ^ 31 ≤ n.val := low
  have most : n.val ≤ 2 ^ 31 := by omega
  exact ⟨by exact_mod_cast least, by exact_mod_cast most⟩

omit [IsStrictOrderedRing K] in
/-- The quotient of numbers is their rounded quotient, which may be too large. -/
theorem div_finite (x y : K)
    : format.div (.finite x) (.finite y)
      = (format.toFloatArithmetic.div x y).map format.limit := by
  rw [div, FloatArithmetic.div]
  split <;> rfl

omit [IsStrictOrderedRing K] in
/-- Anything can be divided by a finite number but zero. -/
theorem exists_div (format : Format K) (x : Number K) {y : K} (nonzero : y ≠ 0)
    : ∃ quotient, format.div x (.finite y) = .ok quotient := by
  cases x <;> simp [div, nonzero]

/-- The nearest integer of a number fails to be cast where it is too large for a 32-bit integer, and
so also where the number is too large for the format.
-/
theorem Lawful.toSInt32_limit [FloorRing K] (lawful : format.Lawful) {x : K} (nonneg : 0 ≤ x)
    : (format.limit x).roundAway.toSInt32
      = FloatArithmetic.toSInt32 (Arithmetic.roundAway x : K) := by
  by_cases finite : format.isFinite x = true
  · rw [limit_of_finite finite]
    rfl
  · rw [limit_of_not_finite finite]
    have large := lawful.large_of_not_finite finite
    have near := abs_le.mp (abs_roundAway_sub_le x)
    rw [FloatArithmetic.toSInt32, truncate_intCast, SInt32.ofValue, dif_neg]
    · rfl
    · rintro ⟨-, high⟩
      have most : (Arithmetic.roundAway x : K) ≤ 2 ^ 31 - 1 := by exact_mod_cast high
      rw [abs_of_nonneg nonneg] at large
      linarith

end Format

end Aspl.Arithmetic
