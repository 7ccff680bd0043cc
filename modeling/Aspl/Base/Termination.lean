import Mathlib.Data.Multiset.DershowitzManna
import Mathlib.Order.WellFounded

/-! Termination by multisets: a step that replaces one item by finitely many of its descendants
makes a multiset smaller, so such steps cannot go on for ever.
-/

namespace Aspl

universe u v

/-- The order of a well-founded relation between children and parents: an item is below those
that it descends from.
-/
abbrev descendantOrder {Item : Type u} {child : Item → Item → Prop} (wf : WellFounded child)
    : Preorder Item where
  le := Relation.ReflTransGen child
  lt := Relation.TransGen child
  le_refl _ := .refl
  le_trans _ _ _ := .trans
  lt_iff_le_not_ge left right := by
    constructor
    · intro less
      refine ⟨less.to_reflTransGen, fun back => ?_⟩
      exact wf.transGen.irrefl.irrefl left (less.trans_left back)
    · intro ⟨below, notAbove⟩
      rcases Relation.reflTransGen_iff_eq_or_transGen.mp below with same | less
      · exact absurd (same ▸ .refl) notAbove
      · exact less

/-- Replacing one item of a multiset by smaller ones, and dropping others, makes it smaller. -/
theorem dershowitzManna_replace {Item : Type u} [Preorder Item] {item : Item}
    {kept dropped children : Multiset Item} (smaller : ∀ child ∈ children, child < item)
    : (kept + children).IsDershowitzMannaLT (item ::ₘ (kept + dropped)) := by
  refine ⟨kept, children, item ::ₘ dropped, Multiset.cons_ne_zero, rfl, ?_, ?_⟩
  · rw [Multiset.add_cons]
  · intro child member
    exact ⟨item, Multiset.mem_cons_self _ _, smaller child member⟩

/-- Steps that keep an invariant, and make a measure smaller unless they are the last ones,
cannot go on for ever.
-/
theorem acc_of_measure {State : Type u} {Measure : Type v} {less : Measure → Measure → Prop}
    (wf : WellFounded less) (measure : State → Measure) {holds : State → Prop}
    {step : State → State → Prop}
    (decreases : ∀ before after, holds before → step before after
      → (∀ next, ¬ step after next) ∨ (holds after ∧ less (measure after) (measure before)))
    {state : State} (start : holds state)
    : Acc (fun after before => step before after) state := by
  have all : ∀ value, ∀ state, measure state = value → holds state
      → Acc (fun after before => step before after) state := by
    intro value
    induction value using wf.induction with
    | _ value ih =>
        intro state same start
        subst same
        refine ⟨state, fun after taken => ?_⟩
        rcases decreases state after start taken with last | ⟨held, smaller⟩
        · exact ⟨after, fun next more => absurd more (last next)⟩
        · exact ih _ smaller after rfl held
  exact all _ state rfl start

end Aspl
