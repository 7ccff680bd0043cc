import Aspl.Base.System
import Aspl.Device.AsyncSetters
import Mathlib.Data.List.Range

/-! Which calls of an asynchronous setter reach the device.
The setter drops a value that equals the current one. When changes to other values are still
queued, dropping it loses the update; otherwise the last accepted call decides the value.
-/

namespace Aspl.Device.AsyncUpdates

open Aspl.CoreAudio

universe u v

/-- A device, the host's progress through `hostRequests`, and the argument of the last setter
call that returned `kAudioHardwareNoError`.
-/
structure Setting (State : Type u) (Value : Type v) where
  world : World (State → State) State
  delivered : Nat
  lastAccepted : Option Value := none

/-- A call of the setter, or the host performing its oldest outstanding request. -/
inductive Event (Value : Type v) where
  | set (value : Value)
  | deliver

variable {State : Type u} {Value : Type v}

/-- One event, if it can happen. -/
def advance (property : AsyncProperty State Value) (setting : Setting State Value)
    : Event Value → Option (Setting State Value)
  | .set value =>
      let result := property.setAsync value setting.world
      some
        {
          setting with
          world := result.1
          lastAccepted :=
            if result.2 = .kAudioHardwareNoError then some value else setting.lastAccepted
        }
  | .deliver =>
      (setting.world.configuration.hostRequests[setting.delivered]?).map
        (fun reqID =>
          {
            setting with
            world := performConfigurationChange id reqID setting.world
            delivered := setting.delivered + 1
          })

/-- A device, published or not, for which no request is pending and no setter was called. -/
structure Idle (setting : Setting State Value) : Prop where
  nothingPending
    : setting.world.configuration.pendingConfigurationRequests = .empty
  nothingRequested
    : setting.world.configuration.hostRequests.length = setting.delivered
  nextID : setting.world.configuration.lastConfigurationRequestID < requestIDModulus
  handler : setting.world.configuration.insideConfigurationHandler = 0
  noCall : setting.lastAccepted = none

/-- The runs of a setter on an idle device. -/
def system (property : AsyncProperty State Value) : System (Setting State Value) (Event Value) :=
  .ofFunction Idle (advance property)

/-- The request IDs that the host has not delivered yet, oldest first. -/
def Setting.undelivered (setting : Setting State Value) : List Nat :=
  setting.world.configuration.hostRequests.drop setting.delivered

/-- The queued changes in the order in which the host will perform them. -/
def Setting.queued (setting : Setting State Value) : List (State → State) :=
  setting.undelivered.filterMap
    (fun reqID =>
      (setting.world.configuration.pendingConfigurationRequests.find? reqID).join)

/-- The state of the device once the queued changes are applied. -/
def Setting.settled (setting : Setting State Value) : State :=
  setting.queued.foldl (fun state change => change state) setting.world.state

/-- The call gets past the test against the current value and past the value check. -/
def Submits (property : AsyncProperty State Value) (setting : Setting State Value)
    (value : Value)
    : Prop :=
  property.same value (property.get setting.world.state) = false
  ∧ property.check setting.world.state value = .kAudioHardwareNoError

/-- A call is sound where an `==` test that takes it for unchanged is right about the value
that the queued changes leave, and where a submitted change finds a free request ID. The first
test compares with the current value, the one in the lambda with what is queued before it.
-/
def SoundCall (property : AsyncProperty State Value) (setting : Setting State Value)
    : Event Value → Prop
  | .set value =>
      (property.same value (property.get setting.world.state) = true
        → property.get setting.settled = value)
      ∧ (Submits property setting value
        → (property.same value (property.get setting.settled) = true
            → property.get setting.settled = value)
          ∧ setting.undelivered.length < requestIDModulus)
  | .deliver => True

variable {property : AsyncProperty State Value} {setting next : Setting State Value}
  {base : Nat} {queue : List (State → State)}

/-- Request IDs count up from `base`, and wrap. -/
def requestID (base index : Nat) : Nat := (base + index) % requestIDModulus

/-- The outstanding requests are the changes of `queue` under consecutive IDs, nothing else is
pending, and the value that the queue leaves is the one accepted last.
-/
structure Tracks (property : AsyncProperty State Value) (setting : Setting State Value)
    (base : Nat) (queue : List (State → State))
    : Prop where
  undelivered : setting.undelivered = (List.range queue.length).map (requestID base)
  bounded : queue.length ≤ requestIDModulus
  nextID
    : setting.world.configuration.lastConfigurationRequestID = requestID base queue.length
  stored
    : ∀ index change,
        queue[index]? = some change
        → setting.world.configuration.pendingConfigurationRequests.find?
            (requestID base index)
          = some (some change)
  onlyQueued
    : ∀ entry ∈ setting.world.configuration.pendingConfigurationRequests.entries,
        ∃ index < queue.length, entry.1 = requestID base index
  handler : setting.world.configuration.insideConfigurationHandler = 0
  published
    : queue ≠ [] → setting.world.configuration.enqueues = true
  delivered : setting.delivered ≤ setting.world.configuration.hostRequests.length
  accepted
    : ∀ value,
        setting.lastAccepted = some value
        → property.get (queue.foldl (fun state change => change state) setting.world.state)
          = value

/-- Fewer than `2 ^ 64` consecutive request IDs are distinct. -/
theorem requestID_injective {left right : Nat} (less : left < right)
    (few : right < left + requestIDModulus)
    : requestID base left ≠ requestID base right := by
  simp only [requestID, requestIDModulus] at *
  omega

/-- Looking up every index of a list lists it, by induction. -/
theorem filterMap_getElem?_range {Item : Type u} (items : List Item)
    : (List.range items.length).filterMap (fun index => items[index]?) = items := by
  induction items with
  | nil => rfl
  | cons item rest ih =>
      simpa [List.range_succ_eq_map, List.filterMap_map, Function.comp_def] using ih

/-- The queue of a tracked device is what its outstanding requests are stored with. -/
theorem Tracks.queued_eq (tracks : Tracks property setting base queue)
    : setting.queued = queue := by
  rw [Setting.queued, tracks.undelivered, List.filterMap_map]
  have lookups : (List.range queue.length).filterMap
      ((fun reqID =>
        (setting.world.configuration.pendingConfigurationRequests.find? reqID).join)
        ∘ requestID base)
      = (List.range queue.length).filterMap (fun index => queue[index]?) := by
    refine List.filterMap_congr (fun index member => ?_)
    have inQueue := List.getElem?_eq_getElem (List.mem_range.mp member)
    simp [tracks.stored index _ inQueue, inQueue]
  rw [lookups, filterMap_getElem?_range]

/-- The value that the queue of a tracked device leaves is the one that is settled. -/
theorem Tracks.settled_eq (tracks : Tracks property setting base queue)
    : setting.settled = queue.foldl (fun state change => change state) setting.world.state := by
  rw [Setting.settled, tracks.queued_eq]

/-- A change leaves its argument unless the test in the lambda takes another value for it. -/
theorem get_change_eq_iff (value : Value) (state : State)
    : property.get (property.change value state) = value
      ↔ (property.same value (property.get state) = true → property.get state = value) := by
  unfold AsyncProperty.change
  split
  · rename_i same
    simp [same]
  · rename_i different
    simp [property.get_setImpl, different]

/-- A device that does not enqueue has nothing queued. -/
theorem Tracks.queue_nil (tracks : Tracks property setting base queue)
    (direct : setting.world.configuration.enqueues = false)
    : queue = [] := by
  by_contra nonempty
  simp [tracks.published nonempty] at direct

/-- Enqueueing a change that leaves the accepted value appends it to the queue. -/
theorem Tracks.enqueue (tracks : Tracks property setting base queue)
    (room : queue.length < requestIDModulus)
    (queued : setting.world.configuration.enqueues = true)
    {change : State → State} {value : Value}
    (leaves : property.get (change setting.settled) = value)
    : Tracks property
        {
          setting with
          world.configuration := setting.world.configuration.enqueue (some change)
          lastAccepted := some value
        }
        base (queue ++ [change]) where
  undelivered := by
    have undelivered := tracks.undelivered
    simp only [Setting.undelivered] at undelivered
    simp only [Setting.undelivered, Configuration.enqueue]
    rw [List.drop_append_of_le_length tracks.delivered, undelivered, tracks.nextID]
    simp [List.range_succ]
  bounded := by
    rw [List.length_append, List.length_singleton]
    exact room
  nextID := by
    simp only [Configuration.enqueue, tracks.nextID, requestID, List.length_append,
      List.length_singleton, requestIDModulus]
    omega
  stored := by
    intro index stored found
    simp only [Configuration.enqueue, OrderedMap.find?_insert, tracks.nextID]
    rcases Nat.lt_or_ge index queue.length with old | new
    · rw [List.getElem?_append_left old] at found
      rw [if_neg (requestID_injective old (by omega)), tracks.stored index stored found]
    · obtain rfl : index = queue.length := by
        have bound := (List.getElem?_eq_some_iff.mp found).1
        simp only [List.length_append, List.length_singleton] at bound
        omega
      simpa using found
  onlyQueued := by
    intro entry member
    simp only [List.length_append, List.length_singleton]
    rcases (OrderedMap.mem_insert ..).mp member with rfl | ⟨old, -⟩
    · exact ⟨queue.length, Nat.lt_succ_self _, tracks.nextID⟩
    · obtain ⟨index, bound, same⟩ := tracks.onlyQueued entry old
      exact ⟨index, Nat.lt_succ_of_lt bound, same⟩
  handler := tracks.handler
  published := fun _ => queued
  delivered := by
    simp only [Configuration.enqueue, List.length_append, List.length_singleton]
    exact Nat.le_succ_of_le tracks.delivered
  accepted := by
    intro other same
    obtain rfl := Option.some.inj same
    simpa [tracks.settled_eq] using leaves

/-- A sound call keeps the queue tracked: it is dropped, rejected, enqueued or applied. -/
theorem Tracks.set (tracks : Tracks property setting base queue) {value : Value}
    (sound : SoundCall property setting (.set value))
    (result : advance property setting (.set value) = some next)
    : ∃ base queue, Tracks property next base queue := by
  obtain ⟨settles, submits⟩ := sound
  obtain rfl := Option.some.inj result
  cases same : property.same value (property.get setting.world.state) with
  | true =>
      refine ⟨base, queue, ?_⟩
      simp only [AsyncProperty.setAsync, same, if_true]
      exact {
        tracks with
        accepted := by
          intro other accepted
          obtain rfl := Option.some.inj accepted
          exact tracks.settled_eq ▸ settles same
      }
  | false =>
      cases status : property.check setting.world.state value
      case kAudioHardwareNoError =>
        obtain ⟨unchanged, room⟩ := submits ⟨same, status⟩
        rw [tracks.undelivered, List.length_map, List.length_range] at room
        have leaves : property.get (property.change value setting.settled) = value :=
          (get_change_eq_iff value _).mpr unchanged
        simp only [AsyncProperty.setAsync, same, Bool.false_eq_true, if_false, status, if_true]
        cases queued : setting.world.configuration.enqueues with
        | true =>
            rw [requestConfigurationChange_enqueues queued]
            exact ⟨base, _, tracks.enqueue room queued leaves⟩
        | false =>
            obtain rfl := tracks.queue_nil queued
            rw [requestConfigurationChange_inPlace queued]
            refine ⟨base, [], ?_⟩
            exact {
              tracks with
              accepted := by
                intro other accepted
                obtain rfl := Option.some.inj accepted
                simpa [tracks.settled_eq] using leaves
            }
      all_goals
        refine ⟨base, queue, ?_⟩
        simpa only [AsyncProperty.setAsync, same, Bool.false_eq_true, if_false, status,
          reduceCtorEq] using tracks

/-- A delivery performs the head of the queue, and the rest is tracked from then on. -/
theorem Tracks.deliver (tracks : Tracks property setting base queue)
    (result : advance property setting .deliver = some next)
    : ∃ change rest,
        queue = change :: rest
        ∧ next.world.state = change setting.world.state
        ∧ Tracks property next (base + 1) rest := by
  obtain ⟨reqID, requested, rfl⟩ := Option.map_eq_some_iff.mp result
  obtain ⟨inRange, atFront⟩ := List.getElem?_eq_some_iff.mp requested
  have undelivered := tracks.undelivered
  rw [Setting.undelivered, List.drop_eq_getElem_cons inRange, atFront] at undelivered
  cases queue with
  | nil => simp at undelivered
  | cons change rest =>
      rw [List.length_cons, List.range_succ_eq_map, List.map_cons, List.map_map] at undelivered
      obtain ⟨rfl, later⟩ := List.cons.inj undelivered
      have shift : requestID base ∘ Nat.succ = requestID (base + 1) := by
        funext index
        simp [requestID, Nat.add_assoc, Nat.add_comm 1]
      refine ⟨change, rest, rfl, ?_⟩
      rw [performConfigurationChange_some (tracks.stored 0 change rfl)]
      have bounded := tracks.bounded
      rw [List.length_cons] at bounded
      have separate : ∀ index < rest.length, requestID base 0 ≠ requestID (base + 1) index := by
        intro index less
        rw [← shift]
        exact requestID_injective (Nat.succ_pos _) (by omega)
      exact ⟨rfl, {
        undelivered := by rw [Setting.undelivered, ← shift]; exact later
        bounded := Nat.le_of_succ_le bounded
        nextID := by
          rw [← shift]
          exact tracks.nextID
        stored := by
          intro index stored found
          have less := (List.getElem?_eq_some_iff.mp found).1
          simp only [Configuration.erase, OrderedMap.find?_erase]
          rw [if_neg (separate index less).symm, ← shift]
          exact tracks.stored (index + 1) stored found
        onlyQueued := by
          intro entry member
          obtain ⟨old, different⟩ := (OrderedMap.mem_erase ..).mp member
          obtain ⟨index, less, same⟩ := tracks.onlyQueued entry old
          cases index with
          | zero => exact absurd same different
          | succ index =>
              rw [List.length_cons] at less
              exact ⟨index, Nat.lt_of_succ_lt_succ less, by rw [same, ← shift]; rfl⟩
        handler := tracks.handler
        published := fun _ => tracks.published (by simp)
        delivered := inRange
        accepted := tracks.accepted
      }⟩

/-- An idle device is tracked with an empty queue. -/
theorem Idle.tracks (idle : Idle setting)
    : Tracks property setting setting.world.configuration.lastConfigurationRequestID [] where
  undelivered := by simp [Setting.undelivered, ← idle.nothingRequested]
  bounded := Nat.zero_le _
  nextID := (Nat.mod_eq_of_lt idle.nextID).symm
  stored := by simp
  onlyQueued := by simp [idle.nothingPending]
  handler := idle.handler
  published := by simp
  delivered := idle.nothingRequested.ge
  accepted := by simp [idle.noCall]

-----------------------------------------------------------------------------------------
-- Whole runs
-----------------------------------------------------------------------------------------

/-- A run of sound calls loses no update: whenever nothing is pending, the getter returns the
argument of the last call that was accepted.
-/
theorem last_accepted_update_applied (property : AsyncProperty State Value)
    {setting : Setting State Value}
    (reached : ((system property).restrict (SoundCall property)).Reachable setting)
    (settled : setting.world.configuration.pendingConfigurationRequests = .empty)
    {value : Value} (accepted : setting.lastAccepted = some value)
    : property.get setting.world.state = value := by
  have invariant : ((system property).restrict (SoundCall property)).Invariant
      (fun setting => ∃ base queue, Tracks property setting base queue) := {
    initial := fun setting idle => ⟨_, _, Idle.tracks idle⟩
    step := by
      rintro before event after ⟨base, queue, tracks⟩ ⟨sound, taken⟩
      cases event with
      | set value => exact tracks.set sound taken
      | deliver =>
          obtain ⟨_, rest, -, -, after⟩ := tracks.deliver taken
          exact ⟨base + 1, rest, after⟩
  }
  obtain ⟨base, queue, tracks⟩ := invariant.reachable reached
  cases queue with
  | nil => exact tracks.accepted value accepted
  | cons change rest =>
      have stored := tracks.stored 0 change rfl
      simp [settled] at stored

/-- A device with the default parameters, attached to its plugin while HAL is connected. -/
def publishedDevice : Setting DeviceState UInt32 where
  world := { configuration := { host := true, ownerObjectID := 1 }, state := {} }
  delivered := 0

theorem publishedDevice_idle
    : Idle publishedDevice where
  nothingPending := rfl
  nothingRequested := rfl
  nextID := Nat.zero_lt_succ _
  handler := rfl
  noCall := rfl

/-- Two queued latencies, delivered in order, leave the second one. -/
theorem last_accepted_update_applied_twice
    : ∃ setting : Setting DeviceState UInt32,
        setting.lastAccepted = some 7
        ∧ DeviceState.latencyProperty.get setting.world.state = 7 := by
  have start : ((system DeviceState.latencyProperty).restrict
      (SoundCall DeviceState.latencyProperty)).Reachable publishedDevice :=
    .initial publishedDevice_idle
  have first := start.step (.set 5) ⟨⟨by decide, fun _ => ⟨by decide, by decide⟩⟩, rfl⟩
  have second := first.step (.set 7) ⟨⟨by decide, fun _ => ⟨by decide, by decide⟩⟩, rfl⟩
  have third := second.step .deliver ⟨trivial, rfl⟩
  have fourth := third.step .deliver ⟨trivial, rfl⟩
  exact ⟨_, rfl, last_accepted_update_applied _ fourth rfl rfl⟩

/-- Setting the latency back while its change is queued is accepted and dropped, so not every
run ends with the value accepted last.
-/
theorem setting_back_is_dropped
    : ¬ ∀ setting : Setting DeviceState UInt32,
        (system DeviceState.latencyProperty).Reachable setting
        → setting.world.configuration.pendingConfigurationRequests = .empty
        → ∀ value,
            setting.lastAccepted = some value
            → DeviceState.latencyProperty.get setting.world.state = value := by
  intro always
  have start : (system DeviceState.latencyProperty).Reachable publishedDevice :=
    .initial publishedDevice_idle
  have changed := start.step (.set 5) rfl
  have setBack := changed.step (.set 0) rfl
  have delivered := setBack.step .deliver rfl
  exact absurd (always _ delivered rfl 0 rfl) (by decide)

end Aspl.Device.AsyncUpdates
