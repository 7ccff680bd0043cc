import Aspl.Base.Simulation

/-! Two labelled transition systems side by side, which take the steps that show something together.
In such a pair a component can be replaced by one that simulates it.
-/

namespace Aspl.System

universe u v w x y s t

/-- A step of one of two systems alone, or of both. -/
inductive Joint (Left : Type u) (Right : Type v) where
  | left (label : Left)
  | right (label : Right)
  | both (left : Left) (right : Right)

variable {State : Type s} {Label : Type t} {Event : Type w}

/-- A client and a component. Where a step shows something, they both take one that shows it. -/
def parallel {Place : Type x} {Tag : Type y} (client : System State Label)
    (seen : State → Label → State → Option Event) (component : System Place Tag)
    (shown : Place → Tag → Place → Option Event)
    : System (State × Place) (Joint Label Tag) where
  initial states := client.initial states.1 ∧ component.initial states.2
  step states label next :=
    match label with
    | .left label =>
        client.step states.1 label next.1
        ∧ seen states.1 label next.1 = none
        ∧ next.2 = states.2
    | .right tag =>
        component.step states.2 tag next.2
        ∧ shown states.2 tag next.2 = none
        ∧ next.1 = states.1
    | .both label tag =>
        client.step states.1 label next.1
        ∧ component.step states.2 tag next.2
        ∧ ∃ event,
            seen states.1 label next.1 = some event ∧ shown states.2 tag next.2 = some event

section Steps

variable {Place : Type x} {Tag : Type y} {client : System State Label}
  {seen : State → Label → State → Option Event} {component : System Place Tag}
  {shown : Place → Tag → Place → Option Event} {start : State × Place} {state next : State}
  {place after : Place} {labels : List (Joint Label Tag)}

/-- The client goes on alone. -/
theorem Run.left
    (run : (client.parallel seen component shown).Run start labels (state, place))
    (label : Label) (taken : client.step state label next) (silent : seen state label next = none)
    : (client.parallel seen component shown).Run start (labels ++ [.left label])
        (next, place) := by
  have moved
      : (client.parallel seen component shown).step (state, place) (.left label) (next, place) :=
    ⟨taken, silent, rfl⟩
  exact run.snoc moved

/-- The component goes on alone. -/
theorem Run.right
    (run : (client.parallel seen component shown).Run start labels (state, place))
    (tag : Tag) (taken : component.step place tag after) (silent : shown place tag after = none)
    : (client.parallel seen component shown).Run start (labels ++ [.right tag])
        (state, after) := by
  have moved
      : (client.parallel seen component shown).step (state, place) (.right tag) (state, after) :=
    ⟨taken, silent, rfl⟩
  exact run.snoc moved

/-- The client and the component show the same event. -/
theorem Run.both
    (run : (client.parallel seen component shown).Run start labels (state, place))
    (label : Label) (tag : Tag) (taken : client.step state label next)
    (moved : component.step place tag after) {event : Event}
    (sees : seen state label next = some event) (shows : shown place tag after = some event)
    : (client.parallel seen component shown).Run start (labels ++ [.both label tag])
        (next, after) := by
  have together
      : (client.parallel seen component shown).step (state, place) (.both label tag)
          (next, after) :=
    ⟨taken, moved, event, sees, shows⟩
  exact run.snoc together

end Steps

section Component

variable {Place : Type x} {Tag : Type y} {component : System Place Tag}
  {shown : Place → Tag → Place → Option Event} {start finish : Place}

/-- A run that shows one event: steps that show nothing, the step that shows it, steps that show
nothing. By induction on the run.
-/
theorem Shows.single_cases {event : Event} {events : List Event}
    (run : component.Shows shown start events finish) (one : events = [event])
    : ∃ middle tag next,
        component.Shows shown start [] middle
        ∧ component.step middle tag next
        ∧ shown middle tag next = some event
        ∧ component.Shows shown next [] finish := by
  induction run with
  | nil => cases one
  | @snoc place after earlier before tag taken ih =>
      cases last : shown place tag after with
      | none =>
          rw [last, Option.toList_none, List.append_nil] at one
          obtain ⟨middle, other, next, first, step, shows, rest⟩ := ih one
          have further := rest.snoc tag taken
          rw [last] at further
          exact ⟨middle, other, next, first, step, shows, further⟩
      | some found =>
          rw [last, Option.toList_some] at one
          obtain ⟨rfl, same⟩ | ⟨-, none⟩ := List.append_eq_singleton_iff.mp one
          · obtain rfl := List.singleton_inj.mp same
            exact ⟨place, tag, after, before, taken, last, .nil after⟩
          · cases none

/-- A component that shows nothing moves alone, by induction on its run. -/
theorem run_alone (client : System State Label) (seen : State → Label → State → Option Event)
    {events : List Event} (run : component.Shows shown start events finish) (silent : events = [])
    (state : State)
    : ∃ labels,
        (client.parallel seen component shown).Run (state, start) labels (state, finish) := by
  induction run with
  | nil => exact ⟨[], .nil _⟩
  | @snoc place after earlier before tag taken ih =>
      obtain ⟨none, last⟩ := List.append_eq_nil_iff.mp silent
      obtain ⟨labels, path⟩ := ih none
      exact ⟨_, path.right tag taken (Option.toList_eq_nil_iff.mp last)⟩

end Component

section Replacement

variable {Concrete : Type u} {Abstract : Type v} {Low : Type x} {High : Type y}
  {client : System State Label} {seen : State → Label → State → Option Event}
  {concrete : System Concrete Low} {abstract : System Abstract High}
  {low : Concrete → Low → Concrete → Option Event}
  {high : Abstract → High → Abstract → Option Event} {related : Concrete → Abstract → Prop}

/-- What a client does with a component it can do with one that simulates the component, by
induction on the run.
-/
theorem Simulation.run_parallel (simulation : Simulation concrete abstract low high related)
    {start finish : State × Concrete} {labels : List (Joint Label Low)}
    (run : (client.parallel seen concrete low).Run start labels finish) {image : Abstract}
    (initially : related start.2 image)
    : ∃ path after,
        (client.parallel seen abstract high).Run (start.1, image) path (finish.1, after)
        ∧ related finish.2 after := by
  induction run with
  | nil => exact ⟨[], image, .nil _, initially⟩
  | @snoc middle next earlier label _ last ih =>
      obtain ⟨path, place, before, between⟩ := ih
      cases label with
      | left label =>
          obtain ⟨taken, silent, same⟩ := last
          exact ⟨_, place, before.left label taken silent, same ▸ between⟩
      | right tag =>
          obtain ⟨taken, silent, same⟩ := last
          obtain ⟨after, answer, ends⟩ := simulation.step _ _ _ _ between taken
          rw [silent] at answer
          obtain ⟨_, alone⟩ := run_alone client seen answer rfl middle.1
          exact ⟨_, after, same ▸ before.append alone, ends⟩
      | both label tag =>
          obtain ⟨taken, moved, event, sees, shows⟩ := last
          obtain ⟨after, answer, ends⟩ := simulation.step _ _ _ _ between moved
          rw [shows] at answer
          obtain ⟨ready, other, left, first, step, same, rest⟩ := answer.single_cases rfl
          obtain ⟨_, head⟩ := run_alone client seen first rfl middle.1
          obtain ⟨_, tail⟩ := run_alone client seen rest rfl next.1
          have met := (before.append head).both label other taken step sees same
          exact ⟨_, after, met.append tail, ends⟩

end Replacement

end Aspl.System
