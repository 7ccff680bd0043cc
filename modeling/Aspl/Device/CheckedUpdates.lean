import Aspl.Device.AsyncUpdates

/-! Asynchronous properties whose values are checked against a list of available values, while
the list is itself changed through the same queue. The check is made when a change is
submitted; the change is made when the host performs it.
-/

namespace Aspl.Device.CheckedUpdates

open Aspl.CoreAudio
open AsyncUpdates (Setting Idle Submits Tracks)

universe u v w x

/-- A checked property and the property with the values available for it. Setting the available
values leaves the checked one alone.
-/
structure CheckedPair (State : Type u) (Value : Type v) (Available : Type w) where
  value : AsyncProperty State Value
  available : AsyncProperty State Available
  same_self : ∀ current, value.same current current = true
  get_setAvailable : ∀ list state, value.get (available.setImpl list state) = value.get state

/-- The nominal sample rate of a device. -/
def sampleRatePair : CheckedPair DeviceState Float64 (List AudioValueRange) where
  value := DeviceState.nominalSampleRateProperty
  available := DeviceState.availableSampleRatesProperty
  same_self _ := beq_self_eq_true _
  get_setAvailable _ _ := rfl

theorem format_same_self (format : AudioStreamBasicDescription)
    : format.same format = true := by
  simp [AudioStreamBasicDescription.same]

/-- The physical format of a stream, as a property of its device. -/
def physicalFormatPair (streamID : Nat)
    : CheckedPair DeviceState AudioStreamBasicDescription (List AudioStreamRangedDescription) where
  value := StreamState.physicalFormatProperty.ofStream streamID
  available := StreamState.availablePhysicalFormatsProperty.ofStream streamID
  same_self := format_same_self
  get_setAvailable _ _ := by
    simp [AsyncProperty.ofStream, StreamState.physicalFormatProperty,
      StreamState.availablePhysicalFormatsProperty]

/-- The virtual format of a stream, as a property of its device. -/
def virtualFormatPair (streamID : Nat)
    : CheckedPair DeviceState AudioStreamBasicDescription (List AudioStreamRangedDescription) where
  value := StreamState.virtualFormatProperty.ofStream streamID
  available := StreamState.availableVirtualFormatsProperty.ofStream streamID
  same_self := format_same_self
  get_setAvailable _ _ := by
    simp [AsyncProperty.ofStream, StreamState.virtualFormatProperty,
      StreamState.availableVirtualFormatsProperty]

/-- A call of one of the two setters, or the host performing its oldest outstanding request. -/
inductive Event (Value : Type v) (Available : Type w) where
  | setValue (value : Value)
  | setAvailable (list : Available)
  | deliver

variable {State : Type u} {Value : Type v} {Available : Type w}

/-- One event, if it can happen. -/
def advance (pair : CheckedPair State Value Available) (setting : Setting State Value)
    : Event Value Available → Option (Setting State Value)
  | .setValue value =>
      some { setting with world := (pair.value.setAsync value setting.world).1 }
  | .setAvailable list =>
      some { setting with world := (pair.available.setAsync list setting.world).1 }
  | .deliver => AsyncUpdates.advance pair.value setting .deliver

/-- The runs of the two setters on an idle device. -/
def system (pair : CheckedPair State Value Available)
    : System (Setting State Value) (Event Value Available) :=
  .ofFunction Idle (advance pair)

/-- A change from one state to another that alters the value installs one that passes the check
against the values available at that moment.
-/
def Allowed (pair : CheckedPair State Value Available) (before after : State) : Prop :=
  pair.value.get after ≠ pair.value.get before
  → pair.value.check before (pair.value.get after) = .kAudioHardwareNoError

/-- A change that gets past the check of the setter also passes it once all that is queued is
applied, or is taken for unchanged then; and the request finds a free ID.
-/
def Permitted (pair : CheckedPair State Value Available) (setting : Setting State Value)
    : Event Value Available → Prop
  | .setValue value =>
      Submits pair.value setting value
      → (pair.value.same value (pair.value.get setting.settled) = true
          ∨ pair.value.check setting.settled value = .kAudioHardwareNoError)
        ∧ setting.undelivered.length < requestIDModulus
  | .setAvailable list =>
      pair.available.same list (pair.available.get setting.world.state) = false
      → pair.available.check setting.world.state list = .kAudioHardwareNoError
      → setting.undelivered.length < requestIDModulus
  | .deliver => True

/-- Every change of a queue is allowed in the state that those before it leave. -/
def AllowedQueue (pair : CheckedPair State Value Available) : State → List (State → State) → Prop
  | _, [] => True
  | state, change :: rest =>
      Allowed pair state (change state) ∧ AllowedQueue pair (change state) rest

variable {pair : CheckedPair State Value Available} {setting next : Setting State Value}
  {base : Nat} {queue : List (State → State)}

/-- A change may be appended that is allowed in the state that the queue leaves, by induction on
the queue.
-/
theorem AllowedQueue.append {state : State} (allowed : AllowedQueue pair state queue)
    {change : State → State}
    (last
      : let settled := queue.foldl (fun state change => change state) state
        Allowed pair settled (change settled))
    : AllowedQueue pair state (queue ++ [change]) := by
  induction queue generalizing state with
  | nil => exact ⟨last, trivial⟩
  | cons head rest ih => exact ⟨allowed.1, ih allowed.2 last⟩

/-- A change to the list alters no value. -/
theorem allowed_available (list : Available) (state : State)
    : Allowed pair state (pair.available.change list state) := by
  intro altered
  rw [AsyncProperty.change] at altered
  split at altered
  · exact absurd rfl altered
  · exact absurd (pair.get_setAvailable list state) altered

/-- A change to a value is allowed exactly if the value is taken for unchanged or passes the
check.
-/
theorem allowed_value_iff (value : Value) (state : State)
    : Allowed pair state (pair.value.change value state)
      ↔ pair.value.same value (pair.value.get state) = true
        ∨ pair.value.check state value = .kAudioHardwareNoError := by
  cases same : pair.value.same value (pair.value.get state) with
  | true => simp [Allowed, AsyncProperty.change, same]
  | false =>
      have new : value ≠ pair.value.get state := by
        rintro rfl
        rw [pair.same_self] at same
        cases same
      simp [Allowed, AsyncProperty.change, same, pair.value.get_setImpl, new]

/-- The queue is tracked, and each of its changes will be allowed when it is made. -/
structure Queued (pair : CheckedPair State Value Available) (setting : Setting State Value)
    (base : Nat) (queue : List (State → State))
    : Prop where
  tracks : Tracks pair.value setting base queue
  allowed : AllowedQueue pair setting.world.state queue
  noCall : setting.lastAccepted = none

/-- What a setter does to a device: nothing, or its change is queued or made in place. -/
inductive SetEffect {Item : Type x} (property : AsyncProperty State Item) (value : Item)
    (setting : Setting State Value)
    : Setting State Value → Prop
  | dropped
    : SetEffect property value setting setting
  | queued
    (new : property.same value (property.get setting.world.state) = false)
    (checked : property.check setting.world.state value = .kAudioHardwareNoError)
    (enqueues : setting.world.configuration.enqueues = true)
    : SetEffect property value setting {
        setting with
        world.configuration := setting.world.configuration.enqueue (some (property.change value))
      }
  | made
    (new : property.same value (property.get setting.world.state) = false)
    (checked : property.check setting.world.state value = .kAudioHardwareNoError)
    (direct : setting.world.configuration.enqueues = false)
    : SetEffect property value setting {
        setting with
        world.state := property.change value setting.world.state
      }

/-- Every call of a setter has one of these effects. -/
theorem setAsync_effect {Item : Type x} (property : AsyncProperty State Item) (value : Item)
    (setting : Setting State Value)
    : SetEffect property value setting
        { setting with world := (property.setAsync value setting.world).1 } := by
  cases same : property.same value (property.get setting.world.state) with
  | true =>
      simp only [AsyncProperty.setAsync, same, if_true]
      exact .dropped
  | false =>
      by_cases checked : property.check setting.world.state value = .kAudioHardwareNoError
      · simp only [AsyncProperty.setAsync, same, Bool.false_eq_true, if_false, checked]
        cases queued : setting.world.configuration.enqueues with
        | true =>
            rw [requestConfigurationChange_enqueues queued]
            exact .queued same checked queued
        | false =>
            rw [requestConfigurationChange_inPlace queued]
            exact .made same checked queued
      · have rejected : property.setAsync value setting.world
            = (setting.world, property.check setting.world.state value) := by
          simp only [AsyncProperty.setAsync, same, Bool.false_eq_true, if_false]
        rw [rejected]
        exact .dropped

/-- A setter whose change is allowed where the queue leaves the device keeps the queue allowed. -/
theorem Queued.set {Item : Type x} {property : AsyncProperty State Item} {value : Item}
    (queued : Queued pair setting base queue)
    (effect : SetEffect property value setting next)
    (room
      : property.same value (property.get setting.world.state) = false
        → property.check setting.world.state value = .kAudioHardwareNoError
        → Allowed pair setting.settled (property.change value setting.settled)
          ∧ setting.undelivered.length < requestIDModulus)
    : ∃ base queue, Queued pair next base queue := by
  obtain ⟨tracks, allowed, noCall⟩ := queued
  cases effect with
  | dropped => exact ⟨base, queue, tracks, allowed, noCall⟩
  | queued new checked enqueues =>
      obtain ⟨last, free⟩ := room new checked
      rw [tracks.undelivered, List.length_map, List.length_range] at free
      rw [tracks.settled_eq] at last
      have longer := tracks.enqueue free enqueues (rfl : pair.value.get
        (property.change value setting.settled) = _)
      exact ⟨base, queue ++ [property.change value],
        { longer with accepted := by simp [noCall] }, allowed.append last, noCall⟩
  | made new checked direct =>
      obtain rfl := tracks.queue_nil direct
      exact ⟨base, [], { tracks with accepted := by simp [noCall] }, trivial, noCall⟩

/-- A permitted event keeps the queue allowed. -/
theorem Queued.step (queued : Queued pair setting base queue)
    {event : Event Value Available} (permitted : Permitted pair setting event)
    (taken : advance pair setting event = some next)
    : ∃ base queue, Queued pair next base queue := by
  cases event with
  | setValue value =>
      obtain rfl := Option.some.inj taken
      refine queued.set (setAsync_effect pair.value value setting) ?_
      intro new checked
      obtain ⟨last, free⟩ := permitted ⟨new, checked⟩
      exact ⟨(allowed_value_iff value _).mpr last, free⟩
  | setAvailable list =>
      obtain rfl := Option.some.inj taken
      refine queued.set (setAsync_effect pair.available list setting) ?_
      intro new checked
      exact ⟨allowed_available list _, permitted new checked⟩
  | deliver =>
      obtain ⟨change, rest, rfl, state, after⟩ := queued.tracks.deliver taken
      obtain ⟨-, allowed⟩ := queued.allowed
      have noCall : next.lastAccepted = none := by
        obtain ⟨_, _, rfl⟩ := Option.map_eq_some_iff.mp taken
        exact queued.noCall
      exact ⟨base + 1, rest, after, state ▸ allowed, noCall⟩

/-- Whatever the next event is, it installs no value that is not available. -/
theorem Queued.allowed_next (queued : Queued pair setting base queue)
    {event : Event Value Available} (taken : advance pair setting event = some next)
    : Allowed pair setting.world.state next.world.state := by
  cases event with
  | setValue value =>
      have effect := setAsync_effect pair.value value setting
      rw [Option.some.inj taken] at effect
      cases effect with
      | dropped => exact fun altered => absurd rfl altered
      | queued => exact fun altered => absurd rfl altered
      | made new checked direct => exact (allowed_value_iff value _).mpr (Or.inr checked)
  | setAvailable list =>
      have effect := setAsync_effect pair.available list setting
      rw [Option.some.inj taken] at effect
      cases effect with
      | dropped => exact fun altered => absurd rfl altered
      | queued => exact fun altered => absurd rfl altered
      | made new checked direct => exact allowed_available list _
  | deliver =>
      obtain ⟨change, rest, rfl, state, -⟩ := queued.tracks.deliver taken
      rw [state]
      exact queued.allowed.1

-----------------------------------------------------------------------------------------
-- Whole runs
-----------------------------------------------------------------------------------------

/-- In a run whose events are permitted, an event that alters the value installs one that passes
the check against the values available at that moment.
-/
theorem checked_updates_allowed (pair : CheckedPair State Value Available)
    {setting : Setting State Value}
    (reached : ((system pair).restrict (Permitted pair)).Reachable setting)
    (event : Event Value Available) {next : Setting State Value}
    (taken : (system pair).step setting event next)
    : Allowed pair setting.world.state next.world.state := by
  have invariant : ((system pair).restrict (Permitted pair)).Invariant
      (fun setting => ∃ base queue, Queued pair setting base queue) := {
    initial := fun setting idle => ⟨_, [], idle.tracks, trivial, idle.noCall⟩
    step := by
      rintro setting event next ⟨base, queue, queued⟩ ⟨permitted, taken⟩
      exact queued.step permitted taken
  }
  obtain ⟨base, queue, queued⟩ := invariant.reachable reached
  exact queued.allowed_next taken

/-- A device that offers two sample rates, attached to its plugin while HAL is connected. -/
def twoRateDevice : Setting DeviceState Float64 where
  world := {
    configuration := { host := true, ownerObjectID := 1 }
    state := { availableSampleRates := some [⟨44100, 44100⟩, ⟨48000, 48000⟩] }
  }
  delivered := 0

theorem twoRateDevice_idle
    : Idle twoRateDevice where
  nothingPending := rfl
  nothingRequested := rfl
  nextID := Nat.zero_lt_succ _
  handler := rfl
  noCall := rfl

/-- A rate that is available when its change is made is installed. -/
theorem checked_updates_allowed_kept
    : ∃ queued next : Setting DeviceState Float64,
        Allowed sampleRatePair queued.world.state next.world.state
        ∧ next.world.state.nominalSampleRate = 48000 := by
  have start : ((system sampleRatePair).restrict
      (Permitted sampleRatePair)).Reachable twoRateDevice :=
    .initial twoRateDevice_idle
  have queued := start.step (.setValue 48000) ⟨fun _ => ⟨Or.inr (by decide), by decide⟩, rfl⟩
  exact ⟨_, _, checked_updates_allowed sampleRatePair queued .deliver rfl, by decide⟩

/-- A rate that a queued change of the list makes unavailable passes the check of the setter and
is installed after it.
-/
theorem unavailable_rate_is_installed
    : ¬ ∀ (setting next : Setting DeviceState Float64) (event : Event Float64 _),
        (system sampleRatePair).Reachable setting
        → (system sampleRatePair).step setting event next
        → Allowed sampleRatePair setting.world.state next.world.state := by
  intro always
  have start : (system sampleRatePair).Reachable twoRateDevice := .initial twoRateDevice_idle
  have narrowed := start.step (.setAvailable [⟨44100, 44100⟩]) rfl
  have changed := narrowed.step (.setValue 48000) rfl
  have delivered := changed.step .deliver rfl
  exact absurd (always _ _ .deliver delivered rfl) (by unfold Allowed; decide)

end Aspl.Device.CheckedUpdates
