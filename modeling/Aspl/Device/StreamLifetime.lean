import Aspl.Device.StreamChanges

/-! A queued change of a stream runs on a living stream, if nobody releases the last reference to
a stream while a change of it is queued: the queue itself keeps no stream alive for the changes
that the stream's own setters have submitted.
-/

namespace Aspl.Device.StreamChanges

/-- The request whose function has been called and is about to be erased. -/
def Phase.executed? : Phase → Option Nat
  | .erase reqID _ | .drainErase reqID _ => some reqID
  | _ => none

/-- A change that a setter of the stream has submitted is stored and has not been executed. -/
def Queued (state : State) (stream : Stream) : Prop :=
  ∃ reqID,
    state.stored reqID = some (.setProperty stream) ∧ state.phase.executed? ≠ some reqID

/-- The stream that a stored closure captures. -/
def State.capturedBy (state : State) (reqID : Nat) : Option Stream :=
  (state.stored reqID).bind Closure.captured

/-- The stream to which a step releases a reference: one of the user, or that of a closure that
is destroyed. Storing a closure destroys the one that is stored under the same request ID, if
there still is one after 2^64 requests.
-/
def released (state : State) : Label → Option Stream
  | .drop stream => some stream
  | .abortConfigurationChange reqID => state.capturedBy reqID
  | .addStreamAsync _ _ | .removeStreamAsync _ _ | .setPropertyAsync _ =>
      if state.configuration.enqueues then
        state.capturedBy state.configuration.lastConfigurationRequestID
      else none
  | .proceed =>
      match state.phase with
      | .erase reqID _ | .drainErase reqID _ => state.capturedBy reqID
      | .destroy closure => closure.captured
      | _ => none
  | _ => none

/-- A reference to the stream may be released: it is not the last one, or no change is queued. -/
def Spare (state : State) (stream : Stream) : Prop :=
  Queued state stream → state.references.count stream ≠ 1

/-- A step releases the last reference to no stream of which a change is queued. -/
def Permitted (state : State) (label : Label) : Prop :=
  ∀ stream, released state label = some stream → Spare state stream

/-- The closure that `PerformConfigurationChange()` or the drain is calling. -/
def Phase.called? : Phase → Option Closure
  | .perform _ closure | .drainCall _ closure => some closure
  | _ => none

/-- A closure that is being executed has a stream with a nonzero reference count. -/
def Safe (state : State) : Prop :=
  ∀ closure, state.phase.called? = some closure → state.references.count closure.stream ≠ 0

-----------------------------------------------------------------------------------------
-- The invariant
-----------------------------------------------------------------------------------------

/-- The stored closure that is being executed or has been. -/
def Phase.stored? : Phase → Option (Nat × Closure)
  | .perform reqID closure | .erase reqID closure
  | .drainCall reqID closure | .drainErase reqID closure => some (reqID, closure)
  | _ => none

/-- The closure that an operation has been given or has copied. -/
def Phase.running? : Phase → Option Closure
  | .applyInPlace closure | .perform _ closure | .erase _ closure | .destroy closure =>
      some closure
  | _ => none

/-- Closures have the references that they capture, an executed closure is stored until it is
erased, and each stream with a queued change has a reference.
-/
structure Sound (state : State) : Prop where
  captured
    : ∀ reqID closure stream,
        state.stored reqID = some closure → closure.captured = some stream
        → (.stored reqID, stream) ∈ state.references
  running
    : ∀ closure stream,
        state.phase.running? = some closure → closure.captured = some stream
        → (.running, stream) ∈ state.references
  executed
    : ∀ reqID closure,
        state.phase.stored? = some (reqID, closure) → state.stored reqID = some closure
  queued : ∀ stream, Queued state stream → ∃ holder, (holder, stream) ∈ state.references

variable {state next : State}

/-- While no closure has been executed that is still stored, stored changes are queued. -/
theorem queued_of_stored (unexecuted : state.phase.executed? = none) {reqID : Nat}
    {stream : Stream} (isStored : state.stored reqID = some (.setProperty stream))
    : Queued state stream :=
  ⟨reqID, isStored, fun same => by rw [unexecuted] at same; cases same⟩

/-- Steps that store and destroy no closure keep the invariant if they keep the references of
closures and some reference to each stream with a queued change.
-/
theorem Sound.keep (sound : Sound state)
    (stored : next.stored = state.stored)
    (closures : ∀ reqID stream, (.stored reqID, stream) ∈ state.references
      → (.stored reqID, stream) ∈ next.references)
    (running : ∀ closure stream, next.phase.running? = some closure
      → closure.captured = some stream → (.running, stream) ∈ next.references)
    (executed : ∀ reqID closure, next.phase.stored? = some (reqID, closure)
      → state.stored reqID = some closure)
    (queued : ∀ stream, Queued next stream → ∃ holder, (holder, stream) ∈ next.references)
    : Sound next where
  captured reqID closure stream isStored captures :=
    closures reqID stream (sound.captured reqID closure stream (stored ▸ isStored) captures)
  running := running
  executed reqID closure calls := stored ▸ executed reqID closure calls
  queued := queued

/-- Acquiring references keeps the invariant. -/
theorem Sound.grow (sound : Sound state)
    (pending : next.configuration.pendingConfigurationRequests
      = state.configuration.pendingConfigurationRequests)
    (phase : next.phase = state.phase)
    (grows : ∀ reference ∈ state.references, reference ∈ next.references)
    : Sound next := by
  have stored : next.stored = state.stored := by
    funext reqID
    rw [State.stored, State.stored, pending]
  refine sound.keep stored (fun _ _ => grows _) ?_ ?_ ?_
  · rw [phase]
    intro closure stream runs captures
    exact grows _ (sound.running closure stream runs captures)
  · rw [phase]
    exact sound.executed
  · intro stream isQueued
    rw [Queued, stored, phase] at isQueued
    obtain ⟨holder, member⟩ := sound.queued stream isQueued
    exact ⟨holder, grows _ member⟩

/-- The references after the destruction of a stored closure. -/
theorem references_dropStored (state : State) (reqID : Nat)
    : (state.dropStored reqID).references
      = match state.capturedBy reqID with
        | some stream => state.references.release (.stored reqID) stream
        | none => state.references := by
  unfold State.dropStored State.capturedBy
  cases state.stored reqID with
  | none => rfl
  | some closure => cases closure <;> rfl

/-- Destroying a stored closure leaves the references of other holders. -/
theorem mem_dropStored {reqID : Nat} {holder : Holder} {stream : Stream}
    (member : (holder, stream) ∈ state.references) (different : holder ≠ .stored reqID)
    : (holder, stream) ∈ (state.dropStored reqID).references := by
  rw [references_dropStored]
  cases state.capturedBy reqID with
  | none => exact member
  | some captured => exact References.mem_release_of_holder member different

/-- Destroying a stored closure leaves a reference to a stream that can spare one. -/
theorem Sound.exists_mem_dropStored (sound : Sound state) {reqID : Nat} {stream : Stream}
    (exists_mem : ∃ holder, (holder, stream) ∈ state.references)
    (more : state.capturedBy reqID = some stream → state.references.count stream ≠ 1)
    : ∃ holder, (holder, stream) ∈ (state.dropStored reqID).references := by
  rw [references_dropStored]
  cases captures : state.capturedBy reqID with
  | none => exact exists_mem
  | some captured =>
      by_cases same : stream = captured
      · subst same
        obtain ⟨closure, stored, holds⟩ := Option.bind_eq_some_iff.mp captures
        exact References.exists_mem_release (sound.captured reqID closure stream stored holds)
          (more captures)
      · obtain ⟨holder, member⟩ := exists_mem
        exact ⟨holder, References.mem_release_of_object member same⟩

/-- An entry of the map of pending requests is erased with its closure. -/
theorem Sound.eraseStored (sound : Sound state) {reqID : Nat}
    (stored : ∀ other, next.stored other = if other = reqID then none else state.stored other)
    (references : next.references = (state.dropStored reqID).references)
    (spare : ∀ stream, state.capturedBy reqID = some stream → Spare state stream)
    (others : ∀ other ≠ reqID, state.phase.executed? ≠ some other)
    (running : ∀ closure, next.phase.running? = some closure
      → state.phase.running? = some closure)
    (finished : next.phase.stored? = none)
    : Sound next where
  captured other closure stream isStored captures := by
    rw [stored] at isStored
    split at isStored
    · cases isStored
    · rename_i different
      rw [references]
      exact mem_dropStored (sound.captured other closure stream isStored captures)
        (fun same => different (Holder.stored.inj same))
  running closure stream runs captures := by
    rw [references]
    exact mem_dropStored (sound.running closure stream (running closure runs) captures)
      (fun same => by cases same)
  executed other closure called := by
    rw [finished] at called
    cases called
  queued stream isQueued := by
    obtain ⟨other, isStored, -⟩ := isQueued
    rw [stored] at isStored
    split at isStored
    · cases isStored
    · rename_i different
      have before : Queued state stream := ⟨other, isStored, others other different⟩
      rw [references]
      exact sound.exists_mem_dropStored (sound.queued stream before)
        (fun captures => spare stream captures before)

theorem mem_keepCaptured {holder other : Holder} {closure : Closure} {stream : Stream}
    (member : (other, stream) ∈ state.references)
    : (other, stream) ∈ (state.keepCaptured holder closure).references := by
  unfold State.keepCaptured
  split
  · exact References.mem_acquire_of_mem member
  · exact member

theorem captured_mem_keepCaptured {holder : Holder} {closure : Closure} {stream : Stream}
    (captures : closure.captured = some stream)
    : (holder, stream) ∈ (state.keepCaptured holder closure).references := by
  rw [State.keepCaptured, captures]
  exact References.mem_acquire.mpr (Or.inl ⟨rfl, rfl⟩)

/-- The closures stored after a request is enqueued. -/
theorem stored_enqueue (configuration : Configuration Closure) (closure : Closure) (other : Nat)
    : ((configuration.enqueue (some closure)).pendingConfigurationRequests.find? other).join
      = if other = configuration.lastConfigurationRequestID then some closure
        else (configuration.pendingConfigurationRequests.find? other).join := by
  rw [Configuration.enqueue, OrderedMap.find?_insert]
  split <;> rfl

/-- A request keeps the invariant: it is only made with a stream that the user refers to, and it
destroys no closure that has the last reference to a stream of which a change is queued.
-/
theorem Sound.request (sound : Sound state) (idle : state.phase = .idle) {closure : Closure}
    (held : ∀ stream, closure = .setProperty stream → (.user, stream) ∈ state.references)
    (spare
      : state.configuration.enqueues = true
        → ∀ stream,
            state.capturedBy state.configuration.lastConfigurationRequestID = some stream
            → Spare state stream)
    : Sound (state.request closure) := by
  have unexecuted : state.phase.executed? = none := by rw [idle]; rfl
  rw [State.request]
  split
  · rename_i enqueues
    let reqID := state.configuration.lastConfigurationRequestID
    have stored : ∀ other, ((state.configuration.enqueue
        (some closure)).pendingConfigurationRequests.find? other).join
          = if other = reqID then some closure else state.stored other :=
      stored_enqueue state.configuration closure
    have phase : ((state.dropStored reqID).keepCaptured (.stored reqID) closure).phase = .idle := by
      rw [← idle]
      unfold State.keepCaptured State.dropStored State.dropCaptured
      split <;> split <;> first | rfl | (split <;> rfl)
    refine ⟨?_, ?_, ?_, ?_⟩
    · intro other otherClosure stream isStored captures
      have cases_stored := (stored other).symm.trans isStored
      split at cases_stored
      · rename_i same
        obtain rfl := Option.some.inj cases_stored
        exact same ▸ captured_mem_keepCaptured captures
      · rename_i different
        exact mem_keepCaptured
          (mem_dropStored (sound.captured other otherClosure stream cases_stored captures)
            (fun same => different (Holder.stored.inj same)))
    · intro otherClosure stream runs
      rw [show Phase.running? _ = _ from congrArg Phase.running? phase] at runs
      cases runs
    · intro other otherClosure called
      rw [show Phase.stored? _ = _ from congrArg Phase.stored? phase] at called
      cases called
    · intro stream ⟨other, isStored, _⟩
      have cases_stored := (stored other).symm.trans isStored
      split at cases_stored
      · have same := held stream (Option.some.inj cases_stored)
        exact ⟨.user, mem_keepCaptured (mem_dropStored same (fun same => by cases same))⟩
      · have before := queued_of_stored unexecuted cases_stored
        obtain ⟨holder, member⟩ := sound.exists_mem_dropStored (sound.queued stream before)
          (fun captures => spare enqueues stream captures before)
        exact ⟨holder, mem_keepCaptured member⟩
  · have same : (state.keepCaptured .running closure).stored = state.stored := by
      unfold State.keepCaptured
      split <;> rfl
    refine sound.keep same (fun _ _ => mem_keepCaptured) ?_ ?_ ?_
    · intro otherClosure stream runs captures
      obtain rfl := Option.some.inj runs
      exact captured_mem_keepCaptured captures
    · intro _ _ called
      cases called
    · intro stream ⟨other, isStored, _⟩
      have before := queued_of_stored unexecuted (same ▸ isStored)
      obtain ⟨holder, member⟩ := sound.queued stream before
      exact ⟨holder, mem_keepCaptured member⟩

/-- What the execution of a closure does to the references: it adds or releases one of the owned
objects map, to the stream that the closure captures.
-/
theorem apply_cases {closure : Closure} (applied : state.apply closure = some next)
    : next.configuration = state.configuration
      ∧ ∀ holder stream, (holder, stream) ∈ state.references
        → holder ≠ .owned ∨ closure.captured ≠ some stream
        → (holder, stream) ∈ next.references := by
  cases closure with
  | addStream added dir =>
      simp only [State.apply] at applied
      split at applied
      · cases applied
      · obtain rfl := Option.some.inj applied
        exact ⟨rfl, fun _ _ member _ => References.mem_acquire_of_mem member⟩
  | removeStream removed dir =>
      simp only [State.apply] at applied
      split at applied
      · obtain rfl := Option.some.inj applied
        exact ⟨rfl, fun _ _ member _ => member⟩
      · obtain rfl := Option.some.inj applied
        refine ⟨rfl, fun holder stream member other => ?_⟩
        rcases other with notOwned | notCaptured
        · exact References.mem_release_of_holder member notOwned
        · exact References.mem_release_of_object member
            (fun same => notCaptured (congrArg some same.symm))
  | setProperty changed =>
      obtain rfl := Option.some.inj applied
      exact ⟨rfl, fun _ _ member _ => member⟩

/-- What a closure captures has a reference while the closure is executed. -/
theorem Sound.exists_keeper (sound : Sound state) {closure : Closure} {stream : Stream}
    (executes : state.phase.running? = some closure
      ∨ ∃ reqID, state.phase.stored? = some (reqID, closure))
    (captures : closure.captured = some stream)
    : ∃ holder, holder ≠ .owned ∧ (holder, stream) ∈ state.references := by
  rcases executes with runs | ⟨reqID, called⟩
  · exact ⟨.running, fun same => (by cases same), sound.running closure stream runs captures⟩
  · have stored := sound.executed reqID closure called
    exact ⟨.stored reqID, fun same => (by cases same),
      sound.captured reqID closure stream stored captures⟩

/-- The execution of a closure keeps the invariant: what it releases, it captures. -/
theorem Sound.call (sound : Sound state) {closure : Closure} {phase : Phase}
    (taken : (state.apply closure).map (·.goto phase) = some next)
    (executes : state.phase.running? = some closure
      ∨ ∃ reqID, state.phase.stored? = some (reqID, closure))
    (unexecuted : state.phase.executed? = none)
    (running : phase.running? = state.phase.running?)
    (stored : phase.stored? = state.phase.stored?)
    : Sound next := by
  obtain ⟨after, applied, rfl⟩ := Option.map_eq_some_iff.mp taken
  obtain ⟨configuration, keeps⟩ := apply_cases applied
  have same : after.stored = state.stored := by
    funext reqID
    rw [State.stored, State.stored, configuration]
  refine sound.keep same ?_ ?_ ?_ ?_
  · intro reqID stream member
    exact keeps _ _ member (Or.inl (fun same => by cases same))
  · intro other stream runs captures
    exact keeps _ _ (sound.running other stream (running ▸ runs) captures)
      (Or.inl (fun same => by cases same))
  · intro reqID other called
    exact sound.executed reqID other (stored ▸ called)
  · intro stream ⟨reqID, isStored, _⟩
    by_cases captures : closure.captured = some stream
    · obtain ⟨holder, notOwned, member⟩ := sound.exists_keeper executes captures
      exact ⟨holder, keeps _ _ member (Or.inl notOwned)⟩
    · have before := queued_of_stored unexecuted (same ▸ isStored)
      obtain ⟨holder, member⟩ := sound.queued stream before
      exact ⟨holder, keeps _ _ member (Or.inr captures)⟩

-----------------------------------------------------------------------------------------
-- Steps
-----------------------------------------------------------------------------------------

/-- The closures stored after an entry is erased. -/
theorem stored_erase (configuration : Configuration Closure) (reqID other : Nat)
    : ((configuration.erase reqID).pendingConfigurationRequests.find? other).join
      = if other = reqID then none
        else (configuration.pendingConfigurationRequests.find? other).join := by
  rw [Configuration.erase, OrderedMap.find?_erase]
  split <;> rfl

/-- The destruction of a closure that is not stored. -/
theorem Sound.destroy (sound : Sound state) {closure : Closure}
    (phase : state.phase = .destroy closure)
    (spare : ∀ stream, closure.captured = some stream → Spare state stream)
    : Sound ((state.dropCaptured .running closure).goto .idle) := by
  have unexecuted : state.phase.executed? = none := by rw [phase]; rfl
  cases captures : closure.captured with
  | none =>
      rw [State.dropCaptured, captures]
      refine sound.keep rfl (fun _ _ member => member) (fun _ _ runs => by cases runs)
        (fun _ _ called => by cases called) ?_
      intro stream ⟨reqID, isStored, _⟩
      exact sound.queued stream (queued_of_stored unexecuted isStored)
  | some captured =>
      have member := sound.running closure captured (by rw [phase]; rfl) captures
      rw [State.dropCaptured, captures]
      refine sound.keep rfl ?_ (fun _ _ runs => by cases runs)
        (fun _ _ called => by cases called) ?_
      · intro reqID stream stored
        exact References.mem_release_of_holder stored (fun same => by cases same)
      · intro stream ⟨reqID, isStored, _⟩
        have before := queued_of_stored unexecuted isStored
        by_cases same : stream = captured
        · subst same
          exact References.exists_mem_release member (spare stream captures before)
        · obtain ⟨holder, other⟩ := sound.queued stream before
          exact ⟨holder, References.mem_release_of_object other same⟩

/-- The steps of the operation that holds `writeMutex_`. -/
theorem Sound.proceed (sound : Sound state) (permitted : Permitted state .proceed)
    (taken : state.proceed = some next)
    : Sound next := by
  rw [State.proceed] at taken
  cases phase : state.phase with
  | idle => rw [phase] at taken; cases taken
  | applyInPlace closure =>
      rw [phase] at taken
      refine sound.call taken (Or.inl ?_) ?_ ?_ ?_ <;> rw [phase] <;> rfl
  | perform reqID closure =>
      rw [phase] at taken
      refine sound.call taken (Or.inl ?_) ?_ ?_ ?_ <;> rw [phase] <;> rfl
  | drainCall reqID closure =>
      rw [phase] at taken
      refine sound.call taken (Or.inr ⟨reqID, ?_⟩) ?_ ?_ ?_ <;> rw [phase] <;> rfl
  | erase reqID closure =>
      rw [phase] at taken
      obtain rfl := Option.some.inj taken
      refine sound.eraseStored (stored_erase state.configuration reqID) rfl ?_ ?_
        (by rw [phase]; exact fun _ runs => runs) rfl
      · intro stream captures
        exact permitted stream (by rw [released, phase]; exact captures)
      · intro other different same
        rw [phase] at same
        exact different (Option.some.inj same).symm
  | drainErase reqID closure =>
      rw [phase] at taken
      obtain rfl := Option.some.inj taken
      refine sound.eraseStored (stored_erase state.configuration reqID) rfl ?_ ?_
        (fun _ runs => by cases runs) rfl
      · intro stream captures
        exact permitted stream (by rw [released, phase]; exact captures)
      · intro other different same
        rw [phase] at same
        exact different (Option.some.inj same).symm
  | drain =>
      rw [phase] at taken
      have unexecuted : state.phase.executed? = none := by rw [phase]; rfl
      have queued : ∀ stream, Queued (state.goto .idle) stream
          → ∃ holder, (holder, stream) ∈ state.references := by
        intro stream ⟨reqID, isStored, _⟩
        exact sound.queued stream (queued_of_stored unexecuted isStored)
      cases first : state.configuration.pendingConfigurationRequests.min? with
      | none =>
          rw [first] at taken
          obtain rfl := Option.some.inj taken
          exact sound.keep rfl (fun _ _ member => member) (fun _ _ runs => by cases runs)
            (fun _ _ called => by cases called) queued
      | some entry =>
          obtain ⟨reqID, stored⟩ := entry
          rw [first] at taken
          cases stored with
          | none => cases taken
          | some closure =>
              obtain rfl := Option.some.inj taken
              refine sound.keep rfl (fun _ _ member => member) (fun _ _ runs => by cases runs) ?_
                queued
              intro called calledClosure same
              obtain ⟨rfl, rfl⟩ := Prod.mk.inj (Option.some.inj same)
              have found : state.configuration.pendingConfigurationRequests.find? reqID
                  = some (some closure) :=
                (OrderedMap.find?_eq_some_iff _).mpr (List.mem_of_mem_head? first)
              rw [State.stored, found]
              rfl
  | destroy closure =>
      rw [phase] at taken
      obtain rfl := Option.some.inj taken
      exact sound.destroy phase (fun stream captures =>
        permitted stream (by rw [released, phase]; exact captures))

/-- A stream that can spare a reference still can when references are acquired. -/
theorem Sound.spare_of_le (sound : Sound state) {known : State}
    (stored : known.stored = state.stored) (phase : known.phase = state.phase)
    (grows : state.references ≤ known.references) {stream : Stream} (spare : Spare state stream)
    : Spare known stream := by
  intro isQueued
  have before : Queued state stream := by
    rw [Queued, ← stored, ← phase]
    exact isQueued
  have more := spare before
  have some := References.count_ne_zero_iff.mpr (sound.queued stream before)
  have counted := References.count_mono stream grows
  omega

theorem Sound.addStreamAsync (sound : Sound state) (idle : state.phase = .idle)
    {stream : Stream} {dir : Direction} (permitted : Permitted state (.addStreamAsync stream dir))
    : Sound (state.addStreamAsync stream dir) := by
  have step : ∀ known : State, known.configuration = state.configuration
      → known.phase = state.phase → state.references ≤ known.references
      → Sound (known.request (.addStream stream dir)) := by
    intro known configuration phase grows
    have stored : known.stored = state.stored := by
      funext reqID
      rw [State.stored, State.stored, configuration]
    have soundKnown : Sound known :=
      sound.grow (congrArg _ configuration) phase (fun _ member => Multiset.mem_of_le grows member)
    refine soundKnown.request (phase.trans idle) (fun _ same => by cases same) ?_
    intro enqueues destroyed captures
    rw [State.capturedBy, stored] at captures
    rw [configuration] at enqueues captures
    refine sound.spare_of_le stored phase grows (permitted destroyed ?_)
    rw [released, if_pos enqueues]
    exact captures
  rw [State.addStreamAsync]
  split
  · exact step _ rfl rfl (Multiset.le_cons_self ..)
  · exact step _ rfl rfl ((Multiset.le_cons_self ..).trans (Multiset.le_cons_self ..))

/-- Removing a stream releases references of the device's maps, but the user has one. -/
theorem Sound.removeStreamAsync (sound : Sound state) (idle : state.phase = .idle)
    {stream : Stream} {dir : Direction} (held : (.user, stream) ∈ state.references)
    (permitted : Permitted state (.removeStreamAsync stream dir))
    : Sound (state.removeStreamAsync stream dir) := by
  let references :=
    (state.references.releaseAll (.streams dir) stream).releaseAll .streamByID stream
  have keeps : ∀ holder other, (holder, other) ∈ state.references
      → (holder ≠ .streams dir ∧ holder ≠ .streamByID) ∨ other ≠ stream
      → (holder, other) ∈ references := by
    intro holder other member apart
    rcases apart with ⟨notListed, notKnown⟩ | otherStream
    · exact References.mem_releaseAll_of_holder
        (References.mem_releaseAll_of_holder member notListed) notKnown
    · exact References.mem_releaseAll_of_object
        (References.mem_releaseAll_of_object member otherStream) otherStream
  have closures : ∀ reqID other, (.stored reqID, other) ∈ state.references
      → (.stored reqID, other) ∈ references := fun reqID other member =>
    keeps _ _ member (Or.inl ⟨fun same => (by cases same), fun same => (by cases same)⟩)
  have user : (.user, stream) ∈ references :=
    keeps _ _ held (Or.inl ⟨fun same => (by cases same), fun same => (by cases same)⟩)
  have unlisted : Sound {
      state with
      streams := Function.update state.streams dir ((state.streams dir).filter (· ≠ stream))
      streamByID := state.streamByID.erase stream
      references := references
    } := by
    refine sound.keep rfl closures ?_ sound.executed ?_
    · intro closure other runs captures
      exact keeps _ _ (sound.running closure other runs captures)
        (Or.inl ⟨fun same => (by cases same), fun same => (by cases same)⟩)
    · intro other isQueued
      by_cases same : other = stream
      · exact ⟨.user, same ▸ user⟩
      · obtain ⟨holder, member⟩ := sound.queued other isQueued
        exact ⟨holder, keeps _ _ member (Or.inr same)⟩
  refine unlisted.request idle (fun _ same => by cases same) ?_
  intro enqueues destroyed captures isQueued
  by_cases same : destroyed = stream
  · subst same
    obtain ⟨closure, stored, holds⟩ := Option.bind_eq_some_iff.mp captures
    exact References.count_ne_one_of_holders user
      (closures _ _ (sound.captured _ closure destroyed stored holds)) (fun same => by cases same)
  · have counted : references.count destroyed = state.references.count destroyed :=
      (References.count_releaseAll_of_object same).trans
        (References.count_releaseAll_of_object same)
    refine fun last => permitted destroyed ?_ isQueued (counted.symm.trans last)
    rw [released, if_pos enqueues]
    exact captures

/-- `PerformConfigurationChange()` up to the call, or on a request ID without a function. -/
theorem Sound.performConfigurationChange (sound : Sound state) (idle : state.phase = .idle)
    (reqID : Nat)
    : Sound (state.performConfigurationChange reqID) := by
  have unexecuted : state.phase.executed? = none := by rw [idle]; rfl
  rw [State.performConfigurationChange]
  cases stored : state.stored reqID with
  | none =>
      have same : ∀ other,
          ((state.configuration.erase reqID).pendingConfigurationRequests.find? other).join
          = state.stored other := by
        intro other
        rw [stored_erase]
        split
        · rename_i this; rw [this, stored]
        · rfl
      exact sound.keep (funext same) (fun _ _ member => member) sound.running sound.executed
        (fun stream isQueued => sound.queued stream (isQueued.imp fun other => And.imp_left
          (same other).symm.trans))
  | some closure =>
      refine sound.keep rfl (fun _ _ => mem_keepCaptured) ?_ ?_ ?_
      · intro other stream runs captures
        obtain rfl := Option.some.inj runs
        exact captured_mem_keepCaptured captures
      · intro other otherClosure called
        obtain ⟨rfl, rfl⟩ := Prod.mk.inj (Option.some.inj called)
        exact stored
      · intro stream ⟨other, isStored, _⟩
        obtain ⟨holder, member⟩ := sound.queued stream (queued_of_stored unexecuted isStored)
        exact ⟨holder, mem_keepCaptured member⟩

/-- `AbortConfigurationChange()`. -/
theorem Sound.abortConfigurationChange (sound : Sound state) (idle : state.phase = .idle)
    {reqID : Nat} (permitted : Permitted state (.abortConfigurationChange reqID))
    : Sound (state.abortConfigurationChange reqID) := by
  have phase : (state.abortConfigurationChange reqID).phase = .idle := by
    rw [← idle]
    unfold State.abortConfigurationChange State.dropStored State.dropCaptured
    split <;> first | rfl | (split <;> rfl)
  refine sound.eraseStored (stored_erase state.configuration reqID) rfl permitted
    (fun other _ same => by rw [idle] at same; cases same) ?_ (congrArg Phase.stored? phase)
  intro closure runs
  rw [phase] at runs
  cases runs

/-- Every permitted step keeps the invariant. -/
theorem Sound.advance (sound : Sound state) {label : Label} (permitted : Permitted state label)
    (taken : advance state label = some next)
    : Sound next := by
  cases label with
  | construct =>
      obtain rfl := Option.some.inj taken
      exact sound.grow rfl rfl (fun _ => References.mem_acquire_of_mem)
  | copy stream =>
      obtain ⟨-, ⟨⟩⟩ := Option.ite_none_right_eq_some.mp taken
      exact sound.grow rfl rfl (fun _ => References.mem_acquire_of_mem)
  | getStreamByID stream =>
      obtain ⟨-, ⟨⟩⟩ := Option.ite_none_right_eq_some.mp taken
      exact sound.grow rfl rfl (fun _ => References.mem_acquire_of_mem)
  | drop stream =>
      obtain ⟨held, ⟨⟩⟩ := Option.ite_none_right_eq_some.mp taken
      refine sound.keep rfl ?_ ?_ sound.executed ?_
      · intro reqID other member
        exact References.mem_release_of_holder member (fun same => by cases same)
      · intro closure other runs captures
        exact References.mem_release_of_holder (sound.running closure other runs captures)
          (fun same => by cases same)
      · intro other isQueued
        by_cases same : other = stream
        · subst same
          exact References.exists_mem_release held (permitted other rfl isQueued)
        · obtain ⟨holder, member⟩ := sound.queued other isQueued
          exact ⟨holder, References.mem_release_of_object member same⟩
  | addStreamAsync stream dir =>
      obtain ⟨⟨idle, -⟩, ⟨⟩⟩ := Option.ite_none_right_eq_some.mp taken
      exact sound.addStreamAsync idle permitted
  | removeStreamAsync stream dir =>
      obtain ⟨⟨idle, held⟩, ⟨⟩⟩ := Option.ite_none_right_eq_some.mp taken
      exact sound.removeStreamAsync idle held permitted
  | setPropertyAsync stream =>
      obtain ⟨⟨idle, held⟩, ⟨⟩⟩ := Option.ite_none_right_eq_some.mp taken
      refine sound.request idle (fun other same => Closure.setProperty.inj same ▸ held) ?_
      intro enqueues destroyed captures
      exact permitted destroyed (by rw [released, if_pos enqueues]; exact captures)
  | setHost =>
      obtain rfl := Option.some.inj taken
      exact sound.grow rfl rfl (fun _ member => member)
  | attachOwner owner =>
      obtain ⟨-, ⟨⟩⟩ := Option.ite_none_right_eq_some.mp taken
      exact sound.grow rfl rfl (fun _ member => member)
  | detachOwner owner =>
      obtain ⟨⟨idle, -⟩, ⟨⟩⟩ := Option.ite_none_right_eq_some.mp taken
      refine sound.keep rfl (fun _ _ member => member) (fun _ _ runs => by cases runs)
        (fun _ _ called => by cases called) ?_
      intro stream ⟨reqID, isStored, _⟩
      have unexecuted : state.phase.executed? = none := by rw [idle]; rfl
      exact sound.queued stream (queued_of_stored unexecuted isStored)
  | performConfigurationChange reqID =>
      obtain ⟨idle, ⟨⟩⟩ := Option.ite_none_right_eq_some.mp taken
      exact sound.performConfigurationChange idle reqID
  | abortConfigurationChange reqID =>
      obtain ⟨idle, ⟨⟩⟩ := Option.ite_none_right_eq_some.mp taken
      exact sound.abortConfigurationChange idle permitted
  | proceed => exact sound.proceed permitted taken

/-- A device without streams and pending changes satisfies the invariant. -/
theorem New.sound (new : New state) : Sound state := by
  have stored : ∀ reqID, state.stored reqID = none := by
    intro reqID
    rw [State.stored, new.pending]
    rfl
  constructor
  · intro reqID closure stream isStored
    rw [stored] at isStored
    cases isStored
  · intro closure stream runs
    rw [new.phase] at runs
    cases runs
  · intro reqID closure called
    rw [new.phase] at called
    cases called
  · intro stream ⟨reqID, isStored, _⟩
    rw [stored] at isStored
    cases isStored

/-- A called closure is stored, and its request is not one that has been executed. -/
theorem Phase.stored?_of_called? {phase : Phase} {closure : Closure}
    (called : phase.called? = some closure)
    : ∃ reqID, phase.stored? = some (reqID, closure) ∧ phase.executed? ≠ some reqID := by
  cases phase with
  | perform reqID _ | drainCall reqID _ =>
      obtain rfl := Option.some.inj called
      exact ⟨reqID, rfl, nofun⟩
  | _ => cases called

/-- The stream of a called closure has a reference: that of the stored closure, or one that is
left as long as the change is queued.
-/
theorem Sound.safe (sound : Sound state) : Safe state := by
  intro closure called
  obtain ⟨reqID, calls, pending⟩ := Phase.stored?_of_called? called
  have stored := sound.executed reqID closure calls
  rw [References.count_ne_zero_iff]
  cases closure with
  | addStream stream dir | removeStream stream dir =>
      exact ⟨.stored reqID, sound.captured reqID _ stream stored rfl⟩
  | setProperty stream => exact sound.queued stream ⟨reqID, stored, pending⟩

/-- In every run of permitted steps, each change of a stream that is executed out of the queue
runs on a stream with a nonzero reference count.
-/
theorem queued_changes_run_on_live_streams
    (reached : (system.restrict Permitted).Reachable state)
    : Safe state := by
  have invariant : (system.restrict Permitted).Invariant Sound :=
    ⟨fun _ new => New.sound new, fun _ _ _ sound taken => sound.advance taken.1 taken.2⟩
  exact (invariant.reachable reached).safe

/-- A device that the host knows, before it has streams. -/
def newDevice : State where
  configuration := { host := true }
  streams _ := []
  streamByID := ∅
  ownedObjects _ := none
  numStreams _ := 0
  references := 0
  phase := .idle
  constructed := 0

theorem newDevice_new : New newDevice := ⟨rfl, fun _ => rfl, rfl, fun _ => rfl, rfl, rfl⟩

/-- A step that releases no reference is permitted. -/
theorem permitted_of_none {label : Label} (none : released state label = none)
    : Permitted state label := by
  intro stream same
  rw [none] at same
  cases same

/-- A change of a stream is executed after the stream is removed and the user has dropped it:
the closure that is going to disown the stream keeps it alive.
-/
theorem queued_changes_run_before_removal
    : ∃ state : State,
        state.phase = .perform 0 (.setProperty 0)
        ∧ state.streamByID = ∅
        ∧ (.user, 0) ∉ state.references
        ∧ Safe state := by
  have start : (system.restrict Permitted).Reachable newDevice := .initial newDevice_new
  have made := start.step .construct ⟨permitted_of_none rfl, rfl⟩
  have adding := made.step (.addStreamAsync 0 .output) ⟨permitted_of_none rfl, rfl⟩
  have added := adding.step .proceed ⟨permitted_of_none rfl, rfl⟩
  have published := added.step .proceed ⟨?_, rfl⟩
  have owned := published.step (.attachOwner 1) ⟨permitted_of_none rfl, rfl⟩
  have submitted := owned.step (.setPropertyAsync 0) ⟨permitted_of_none rfl, rfl⟩
  have removed := submitted.step (.removeStreamAsync 0 .output) ⟨permitted_of_none rfl, rfl⟩
  have dropped := removed.step (.drop 0) ⟨?_, rfl⟩
  have performing := dropped.step (.performConfigurationChange 0) ⟨permitted_of_none rfl, rfl⟩
  · exact ⟨_, rfl, rfl, by decide, queued_changes_run_on_live_streams performing⟩
  all_goals
    intro stream same
    obtain rfl := Option.some.inj same
    intro _
    decide

/-- The user removes a stream, submits a change of it and drops it. The removal is performed
first and destroys the stream, and the change is executed on a dead one.
-/
theorem change_runs_on_dead_stream
    : ¬∀ state : State, system.Reachable state → Safe state := by
  intro safe
  have start : system.Reachable newDevice := .initial newDevice_new
  have made := start.step .construct rfl
  have adding := made.step (.addStreamAsync 0 .output) rfl
  have added := adding.step .proceed rfl
  have published := added.step .proceed rfl
  have owned := published.step (.attachOwner 1) rfl
  have removed := owned.step (.removeStreamAsync 0 .output) rfl
  have submitted := removed.step (.setPropertyAsync 0) rfl
  have dropped := submitted.step (.drop 0) rfl
  have performing := dropped.step (.performConfigurationChange 0) rfl
  have disowned := performing.step .proceed rfl
  have erased := disowned.step .proceed rfl
  have destroyed := erased.step .proceed rfl
  have executing := destroyed.step (.performConfigurationChange 1) rfl
  exact safe _ executing (.setProperty 0) rfl rfl

end Aspl.Device.StreamChanges
