import Aspl.Base.System

/-! Nested scopes, some of which are marked: the number of open scopes along a sequence of calls,
and the depth of the outermost marked scope, which with that number stands for the whole stack of
marks. Nothing here names a program.
-/

namespace Aspl.Scopes

/-- What a call does to the scopes that are open. -/
inductive Change where
  | enter
  | stay
  | leave
deriving DecidableEq

/-- The number of open scopes after a call, which cannot leave a scope when none is open. -/
def Change.apply : Nat → Change → Option Nat
  | height, .enter => some (height + 1)
  | height, .stay => some height
  | 0, .leave => none
  | height + 1, .leave => some height

/-- A complete sequence: every scope left was open, and none is open at the end. -/
def Nested (changes : List Change) : Prop :=
  System.play Change.apply 0 changes = some 0

instance (changes : List Change) : Decidable (Nested changes) :=
  inferInstanceAs (Decidable (_ = _))

/-- The largest number of scopes open at once along a sequence. -/
def peak : Nat → List Change → Nat
  | height, [] => height
  | height, change :: rest =>
      match change.apply height with
      | some next => max height (peak next rest)
      | none => height

theorem le_peak (height : Nat) (changes : List Change) : height ≤ peak height changes := by
  cases changes with
  | nil => exact Nat.le_refl height
  | cons change rest =>
      rw [peak]
      split
      · exact Nat.le_max_left ..
      · exact Nat.le_refl height

/-- The rest of a sequence does not go higher than all of it. -/
theorem peak_next_le {height next : Nat} {change : Change} {rest : List Change}
    (taken : change.apply height = some next)
    : peak next rest ≤ peak height (change :: rest) := by
  rw [peak, taken]
  exact Nat.le_max_right ..

/-- The depth of the outermost marked scope, counted from one, and zero if none is marked. The
marks of the open scopes are listed from the innermost one.
-/
def outermost : List Bool → Nat
  | [] => 0
  | mark :: outer =>
      if outermost outer = 0 then (if mark then outer.length + 1 else 0) else outermost outer

theorem outermost_le_length (opened : List Bool) : outermost opened ≤ opened.length := by
  induction opened with
  | nil => exact Nat.le_refl 0
  | cons mark outer ih =>
      rw [outermost, List.length_cons]
      split
      · split <;> omega
      · omega

theorem outermost_eq_zero_iff (opened : List Bool) : outermost opened = 0 ↔ true ∉ opened := by
  induction opened with
  | nil => simp [outermost]
  | cons mark outer ih =>
      rw [outermost, List.mem_cons, not_or, ← ih]
      by_cases unmarked : outermost outer = 0
      · cases mark <;> simp [unmarked]
      · simp [unmarked]

/-- Inside a marked scope, another mark changes nothing. -/
theorem outermost_cons_of_marked {outer : List Bool} (mark : Bool) (marked : true ∈ outer)
    : outermost (mark :: outer) = outermost outer := by
  have nonzero : outermost outer ≠ 0 := fun zero => (outermost_eq_zero_iff outer).mp zero marked
  rw [outermost, if_neg nonzero]

/-- Where no scope is marked yet, a mark is the outermost one. -/
theorem outermost_cons_of_unmarked {outer : List Bool} (mark : Bool) (unmarked : true ∉ outer)
    : outermost (mark :: outer) = if mark then outer.length + 1 else 0 := by
  rw [outermost, if_pos ((outermost_eq_zero_iff outer).mpr unmarked)]

/-- Leaving a scope forgets the outermost mark if it is at this scope, and keeps it otherwise. -/
theorem outermost_tail (mark : Bool) (outer : List Bool)
    : outermost outer
      = if outermost (mark :: outer) = outer.length + 1 then 0
        else outermost (mark :: outer) := by
  have depth := outermost_le_length outer
  by_cases marked : true ∈ outer
  · rw [outermost_cons_of_marked mark marked, if_neg (by omega)]
  · have zero := (outermost_eq_zero_iff outer).mpr marked
    rw [outermost_cons_of_unmarked mark marked, zero]
    cases mark <;> simp

end Aspl.Scopes
