import Mathlib.Data.List.Basic

/-! Labelled transition systems: runs, reachable states, restricted systems, invariants.
Nothing here names a program; every concurrent or reactive component instantiates it.
-/

namespace Aspl

universe u v

/-- The states a run may start from, and the labelled steps it may take. -/
structure System (State : Type u) (Label : Type v) where
  initial : State → Prop
  step : State → Label → State → Prop

namespace System

variable {State : Type u} {Label : Type v}

/-- A finite run between two states, with the labels of its steps in order. -/
inductive Run (system : System State Label) : State → List Label → State → Prop
  | nil (state : State)
    : Run system state [] state
  | snoc {start middle finish labels label}
    (run : Run system start labels middle) (last : system.step middle label finish)
    : Run system start (labels ++ [label]) finish

/-- A state that some run from an initial state reaches. -/
inductive Reachable (system : System State Label) : State → Prop
  | initial {state} (start : system.initial state)
    : Reachable system state
  | step {state next}
    (before : Reachable system state) (label : Label) (taken : system.step state label next)
    : Reachable system next

/-- The same system with only the steps that `allowed` admits in the state before them. -/
def restrict (system : System State Label) (allowed : State → Label → Prop)
    : System State Label where
  initial := system.initial
  step state label next := allowed state label ∧ system.step state label next

/-- A predicate that holds initially and that every step from a reachable state keeps. -/
structure Invariant (system : System State Label) (holds : State → Prop) : Prop where
  initial : ∀ state, system.initial state → holds state
  step : ∀ state label next, holds state → system.step state label next → holds next

/-- Every reachable state satisfies an invariant, by induction on reachability. -/
theorem Invariant.reachable {system : System State Label} {holds : State → Prop}
    (invariant : system.Invariant holds) {state : State} (reached : system.Reachable state)
    : holds state := by
  induction reached with
  | initial start => exact invariant.initial _ start
  | step _ _ taken ih => exact invariant.step _ _ _ ih taken

/-- A run keeps what each of its steps keeps, by induction on the run. -/
theorem Run.preserves {system : System State Label} {holds : State → Prop}
    (step : ∀ state label next, holds state → system.step state label next → holds next)
    {start finish : State} {labels : List Label} (run : system.Run start labels finish)
    (before : holds start)
    : holds finish := by
  induction run with
  | nil => exact before
  | snoc _ last ih => exact step _ _ _ ih last

/-- A run from a reachable state ends in a reachable state. -/
theorem Run.reachable {system : System State Label} {start finish : State}
    {labels : List Label} (run : system.Run start labels finish)
    (before : system.Reachable start)
    : system.Reachable finish :=
  run.preserves (fun _ label _ reached taken => .step reached label taken) before

/-- Where all steps are allowed, they are not restricted. -/
theorem Reachable.restrict {system : System State Label} {allowed : State → Label → Prop}
    (always : ∀ state label, allowed state label) {state : State}
    (reached : system.Reachable state)
    : (system.restrict allowed).Reachable state := by
  induction reached with
  | initial start => exact .initial start
  | step before label taken ih => exact ih.step label ⟨always _ label, taken⟩

/-- One step is a run. -/
theorem Run.single {system : System State Label} {state next : State} {label : Label}
    (taken : system.step state label next)
    : system.Run state [label] next := by
  simpa only [List.nil_append] using (Run.nil state).snoc taken

/-- Runs compose, by induction on the second one. -/
theorem Run.append {system : System State Label} {start middle finish : State}
    {first second : List Label} (head : system.Run start first middle)
    (tail : system.Run middle second finish)
    : system.Run start (first ++ second) finish := by
  induction tail with
  | nil => simpa only [List.append_nil] using head
  | snoc _ last ih => simpa only [List.append_assoc] using ih.snoc last

/-- The system whose steps are computed: a label has at most one outcome in a state. -/
def ofFunction (initial : State → Prop) (advance : State → Label → Option State)
    : System State Label where
  initial := initial
  step state label next := advance state label = some next

/-- The state after a list of labels, if all of them can be taken. -/
def play (advance : State → Label → Option State) : State → List Label → Option State
  | state, [] => some state
  | state, label :: rest => (advance state label).bind (play advance · rest)

/-- Playing labels is a run, by induction on the labels. -/
theorem run_of_play {initial : State → Prop} {advance : State → Label → Option State}
    {labels : List Label} {start finish : State}
    (played : play advance start labels = some finish)
    : (ofFunction initial advance).Run start labels finish := by
  induction labels generalizing start with
  | nil =>
      obtain rfl := Option.some.inj played
      exact .nil start
  | cons label rest ih =>
      obtain ⟨middle, first, later⟩ := Option.bind_eq_some_iff.mp played
      have head : (ofFunction initial advance).Run start [label] middle := .single first
      exact head.append (ih later)

/-- Playing labels from an initial state reaches the state it ends in. -/
theorem reachable_of_play {initial : State → Prop} {advance : State → Label → Option State}
    {labels : List Label} {start finish : State} (initially : initial start)
    (played : play advance start labels = some finish)
    : (ofFunction initial advance).Reachable finish :=
  (run_of_play played).reachable (.initial initially)

/-- The outcome of a label, where it is allowed. -/
def guarded (allowed : State → Label → Prop) [∀ state label, Decidable (allowed state label)]
    (advance : State → Label → Option State) (state : State) (label : Label)
    : Option State :=
  if allowed state label then advance state label else none

/-- Playing allowed labels reaches a state of the restricted system, by induction on the labels. -/
theorem reachable_restrict_of_play {initial : State → Prop}
    {advance : State → Label → Option State} {allowed : State → Label → Prop}
    [∀ state label, Decidable (allowed state label)] {labels : List Label}
    {start finish : State}
    (before : ((ofFunction initial advance).restrict allowed).Reachable start)
    (played : play (guarded allowed advance) start labels = some finish)
    : ((ofFunction initial advance).restrict allowed).Reachable finish := by
  induction labels generalizing start with
  | nil =>
      obtain rfl := Option.some.inj played
      exact before
  | cons label rest ih =>
      obtain ⟨middle, first, later⟩ := Option.bind_eq_some_iff.mp played
      obtain ⟨permitted, taken⟩ := Option.ite_none_right_eq_some.mp first
      exact ih (before.step label ⟨permitted, taken⟩) later

end System

end Aspl
