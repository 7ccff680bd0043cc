import Mathlib.Order.CompletePartialOrder
import Mathlib.Order.Interval.Set.Disjoint
import Mathlib.Order.Monotone.Basic

/-! The least upper bound that a loop over a list computes, and half-open intervals that start
there. Nothing here names a program.
-/

namespace Aspl

universe u v w

section RunningMaximum

variable {Item : Type u} {Bound : Type v} [LinearOrder Bound]

/-- The maximum of `least` and the upper ends of the items. -/
def runningMaximum (upper : Item → Bound) (least : Bound) (items : List Item) : Bound :=
  items.foldl (fun bound item => max bound (upper item)) least

variable {upper : Item → Bound} {least : Bound} {items : List Item}

theorem le_runningMaximum (upper : Item → Bound) (least : Bound) (items : List Item)
    : least ≤ runningMaximum upper least items := by
  induction items generalizing least with
  | nil => exact le_rfl
  | cons item rest ih => exact (le_max_left least (upper item)).trans (ih _)

theorem upper_le_runningMaximum (least : Bound) {item : Item} (member : item ∈ items)
    : upper item ≤ runningMaximum upper least items := by
  induction items generalizing least with
  | nil => cases member
  | cons first rest ih =>
      rcases List.mem_cons.mp member with rfl | later
      · exact (le_max_right least (upper item)).trans (le_runningMaximum upper _ rest)
      · exact ih _ later

/-- A monotone map takes the maximum to the maximum of what it maps to. -/
theorem map_runningMaximum {Value : Type w} [LinearOrder Value] {map : Bound → Value}
    (monotone : Monotone map) (upper : Item → Bound) (least : Bound) (items : List Item)
    : map (runningMaximum upper least items)
      = runningMaximum (fun item => map (upper item)) (map least) items := by
  induction items generalizing least with
  | nil => rfl
  | cons item rest ih =>
      simp only [runningMaximum, List.foldl_cons, ← monotone.map_max]
      exact ih _

/-- The maximum depends only on the upper ends of the items in the list. -/
theorem runningMaximum_congr {other : Item → Bound}
    (same : ∀ item ∈ items, upper item = other item)
    : runningMaximum upper least items = runningMaximum other least items := by
  induction items generalizing least with
  | nil => rfl
  | cons item rest ih =>
      simp only [runningMaximum, List.foldl_cons, same item List.mem_cons_self]
      exact ih (fun later member => same later (List.mem_cons_of_mem item member))

/-- An interval from the maximum on is apart from all intervals that end at the upper ends. -/
theorem disjoint_runningMaximum (lower : Item → Bound) (finish : Bound) {item : Item}
    (member : item ∈ items)
    : Disjoint (Set.Ico (lower item) (upper item))
        (Set.Ico (runningMaximum upper least items) finish) := by
  refine Set.disjoint_left.mpr ?_
  intro bound inside later
  exact (inside.2.trans_le (upper_le_runningMaximum least member)).not_ge later.1

end RunningMaximum

end Aspl
