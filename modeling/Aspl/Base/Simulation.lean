import Aspl.Base.System

/-! What an observer sees of the runs of a labelled transition system, and forward simulations
between two systems that look the same to the observer.
-/

namespace Aspl.System

universe u v w x y

variable {State : Type u} {Label : Type v} {Event : Type w}

/-- A run with the events that its steps show, in order; a step may show nothing. -/
inductive Shows (system : System State Label) (event : State → Label → State → Option Event)
    : State → List Event → State → Prop
  | nil (state : State)
    : Shows system event state [] state
  | snoc {start middle finish shown}
    (before : Shows system event start shown middle) (label : Label)
    (taken : system.step middle label finish)
    : Shows system event start (shown ++ (event middle label finish).toList) finish

variable {system : System State Label} {event : State → Label → State → Option Event}

/-- One step shows its event. -/
theorem Shows.single {state next : State} {label : Label}
    (taken : system.step state label next)
    : system.Shows event state (event state label next).toList next := by
  simpa only [List.nil_append] using (Shows.nil state).snoc label taken

/-- What two runs show comes in order, by induction on the second one. -/
theorem Shows.append {start middle finish : State} {first second : List Event}
    (head : system.Shows event start first middle)
    (tail : system.Shows event middle second finish)
    : system.Shows event start (first ++ second) finish := by
  induction tail with
  | nil => simpa only [List.append_nil] using head
  | snoc _ _ last ih => simpa only [List.append_assoc] using ih.snoc _ last

/-- More steps show the same, by induction on the run. -/
theorem Shows.mono {other : System State Label} {start finish : State} {shown : List Event}
    (run : system.Shows event start shown finish)
    (steps : ∀ state label next, system.step state label next → other.step state label next)
    : other.Shows event start shown finish := by
  induction run with
  | nil => exact .nil _
  | snoc _ label taken ih => exact ih.snoc label (steps _ _ _ taken)

/-- What is shown where labels are played, and the state after them. -/
def playShown (advance : State → Label → Option State)
    (event : State → Label → State → Option Event)
    : State → List Label → Option (List Event × State)
  | state, [] => some ([], state)
  | state, label :: rest =>
      (advance state label).bind (fun next =>
        (playShown advance event next rest).map
          (fun further => ((event state label next).toList ++ further.1, further.2)))

/-- Playing labels is a run that shows this, by induction on the labels. -/
theorem shows_of_playShown {initial : State → Prop} {advance : State → Label → Option State}
    {event : State → Label → State → Option Event} {labels : List Label} {start finish : State}
    {shown : List Event} (played : playShown advance event start labels = some (shown, finish))
    : (ofFunction initial advance).Shows event start shown finish := by
  induction labels generalizing start shown with
  | nil =>
      obtain ⟨rfl, rfl⟩ := Prod.mk.inj (Option.some.inj played)
      exact .nil start
  | cons label rest ih =>
      obtain ⟨middle, first, later⟩ := Option.bind_eq_some_iff.mp played
      obtain ⟨further, tail, same⟩ := Option.map_eq_some_iff.mp later
      obtain ⟨rfl, rfl⟩ := Prod.mk.inj same
      have head : (ofFunction initial advance).Shows event start _ middle := .single first
      exact head.append (ih tail)

/-- Playing allowed labels is a run of the restricted system. -/
theorem shows_restrict_of_playShown {initial : State → Prop}
    {advance : State → Label → Option State} {allowed : State → Label → Prop}
    [∀ state label, Decidable (allowed state label)]
    {event : State → Label → State → Option Event} {labels : List Label} {start finish : State}
    {shown : List Event}
    (played : playShown (guarded allowed advance) event start labels = some (shown, finish))
    : ((ofFunction initial advance).restrict allowed).Shows event start shown finish := by
  have run : (ofFunction initial (guarded allowed advance)).Shows event start shown finish :=
    shows_of_playShown played
  exact run.mono (fun _ _ _ taken => Option.ite_none_right_eq_some.mp taken)

/-- The system can show these events from a state, and end in a state with a property. -/
def CanShow (system : System State Label) (event : State → Label → State → Option Event)
    (state : State) (shown : List Event) (ends : State → Prop)
    : Prop :=
  ∃ after, system.Shows event state shown after ∧ ends after

variable {ends : State → Prop} {state next : State}

/-- Nothing is shown without a step. -/
theorem CanShow.nil (here : ends state) : system.CanShow event state [] ends :=
  ⟨state, .nil state, here⟩

/-- One step may be all that is needed. -/
theorem CanShow.single {label : Label} (taken : system.step state label next) (there : ends next)
    : system.CanShow event state (event state label next).toList ends :=
  ⟨next, .single taken, there⟩

/-- A step may come first. -/
theorem CanShow.cons {label : Label} {shown : List Event} (taken : system.step state label next)
    (further : system.CanShow event next shown ends)
    : system.CanShow event state ((event state label next).toList ++ shown) ends := by
  obtain ⟨after, shows, there⟩ := further
  exact ⟨after, (Shows.single taken).append shows, there⟩

section Simulation

variable {Concrete : Type u} {Abstract : Type v} {Low : Type x} {High : Type y}

/-- Each step of the concrete system is answered by steps of the abstract one that show the same.
-/
structure Simulation (concrete : System Concrete Low) (abstract : System Abstract High)
    (low : Concrete → Low → Concrete → Option Event)
    (high : Abstract → High → Abstract → Option Event)
    (related : Concrete → Abstract → Prop)
    : Prop where
  initial : ∀ state, concrete.initial state → ∃ image, abstract.initial image ∧ related state image
  step
    : ∀ state label next image,
        related state image
        → concrete.step state label next
        → abstract.CanShow high image (low state label next).toList (related next)

variable {concrete : System Concrete Low} {abstract : System Abstract High}
  {low : Concrete → Low → Concrete → Option Event}
  {high : Abstract → High → Abstract → Option Event} {related : Concrete → Abstract → Prop}

/-- What a concrete run shows an abstract run shows too, by induction on the concrete one. -/
theorem Simulation.follow (simulation : Simulation concrete abstract low high related)
    {start finish : Concrete} {shown : List Event}
    (run : concrete.Shows low start shown finish) {image : Abstract}
    (initially : related start image)
    : ∃ after, abstract.Shows high image shown after ∧ related finish after := by
  induction run with
  | nil => exact ⟨image, .nil image, initially⟩
  | snoc _ _ taken ih =>
      obtain ⟨middle, before, between⟩ := ih
      obtain ⟨after, answer, ends⟩ := simulation.step _ _ _ _ between taken
      exact ⟨after, before.append answer, ends⟩

/-- Whatever the concrete system shows, the abstract one can show. -/
theorem Simulation.refines (simulation : Simulation concrete abstract low high related)
    {start finish : Concrete} (starts : concrete.initial start) {shown : List Event}
    (run : concrete.Shows low start shown finish)
    : ∃ image after,
        abstract.initial image ∧ abstract.Shows high image shown after
        ∧ related finish after := by
  obtain ⟨image, initially, between⟩ := simulation.initial start starts
  obtain ⟨after, shows, ends⟩ := simulation.follow run between
  exact ⟨image, after, initially, shows, ends⟩

end Simulation

end Aspl.System
