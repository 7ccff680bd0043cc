import Aspl.Base.System
import Aspl.Device.Configuration
import Mathlib.Data.List.Range
import Mathlib.Tactic.Tauto

/-! Queued execution refines in-place execution.
The submitted functions are named by their submission number, so that the order in which
they are executed can be compared with the order in which they were submitted.
-/

namespace Aspl.Device.ConfigurationOrder

universe u

/-- The device that functions change, and the numbers of the functions executed so far. -/
structure Executed (State : Type u) where
  device : State
  executed : List Nat

/-- A device with its submissions and the host's progress through `hostRequests`. -/
structure History (State : Type u) where
  world : World Nat (Executed State)
  submitted : Nat := 0
  aborted : List Nat := []
  delivered : Nat := 0

/-- What may happen: the host pointer is set, a non-empty function is submitted, the device is
attached or detached, the host performs or aborts the oldest request that it has not delivered
yet, or it does so with an ID under which nothing is stored.
-/
inductive Event where
  | setHost
  | submit
  | attach (owner : Nat)
  | detach (owner : Nat)
  | deliver (abort : Bool)
  | stale (reqID : Nat) (abort : Bool)

variable {State : Type u} (effect : Nat → State → State)

/-- Function `number` changes the device and is recorded as executed. -/
def runFunction (number : Nat) (before : Executed State) : Executed State where
  device := effect number before.device
  executed := before.executed ++ [number]

/-- The submission number stored under a request ID. -/
def storedNumber (world : World Nat (Executed State)) (reqID : Nat) : Option Nat :=
  (world.configuration.pendingConfigurationRequests.find? reqID).join

/-- The host performs or aborts a request. -/
def handleRequest (reqID : Nat) (abort : Bool) (history : History State)
    : History State :=
  if abort then
    {
      history with
      world := abortConfigurationChange reqID history.world
      aborted := history.aborted ++ (storedNumber history.world reqID).toList
    }
  else
    {
      history with
      world := performConfigurationChange (runFunction effect) reqID history.world
    }

/-- One event, if it can happen. -/
def advance (history : History State) : Event → Option (History State)
  | .setHost =>
      some
        {
          history with
          world.configuration.host := true
        }
  | .submit =>
      some
        {
          history with
          world :=
            (requestConfigurationChange (runFunction effect) (some history.submitted)
              history.world).1
          submitted := history.submitted + 1
        }
  | .attach owner =>
      some
        {
          history with
          world := (requestOwnershipChange (runFunction effect) owner true history.world).1
        }
  | .detach owner =>
      some
        {
          history with
          world := (requestOwnershipChange (runFunction effect) owner false history.world).1
        }
  | .deliver abort =>
      (history.world.configuration.hostRequests[history.delivered]?).map
        (fun reqID =>
          handleRequest effect reqID abort
            { history with delivered := history.delivered + 1 })
  | .stale reqID abort =>
      if history.world.configuration.pendingConfigurationRequests.find? reqID = none then
        some (handleRequest effect reqID abort history)
      else
        none

/-- A new device in state `device`: no owner, nothing stored, the host set or not. -/
def newDevice (device : State) (host : Bool) : History State where
  world := { configuration := { host }, state := { device, executed := [] } }

/-- The runs of a new device. -/
def system (device : State) : System (History State) Event :=
  .ofFunction (fun history => ∃ host, history = newDevice device host) (advance effect)

-----------------------------------------------------------------------------------------
-- Submission order without the aborted functions
-----------------------------------------------------------------------------------------

/-- The submission numbers in order, without the aborted ones: what in-place execution of the
functions that were not aborted executes.
-/
def History.expected (history : History State) : List Nat :=
  (List.range history.submitted).filter (fun number => number ∉ history.aborted)

/-- The entries of the pending map are `queue`, whose request IDs the host has been asked for
and has not delivered; what was executed and what is queued together are in submission order.
-/
structure Ordered (device : State) (history : History State) (queue : List (Nat × Nat))
    : Prop where
  stored
    : history.world.configuration.pendingConfigurationRequests.entries
      = queue.map (fun entry => (entry.1, some entry.2))
  requests
    : history.world.configuration.hostRequests
      = List.range history.world.configuration.hostRequests.length
  nextID
    : history.world.configuration.lastConfigurationRequestID
      = history.world.configuration.hostRequests.length % requestIDModulus
  handler : history.world.configuration.insideConfigurationHandler = 0
  delivered : history.delivered ≤ history.world.configuration.hostRequests.length
  inFlight
    : ∀ entry ∈ queue,
        history.delivered ≤ entry.1
        ∧ entry.1 < history.world.configuration.hostRequests.length
  published
    : queue ≠ []
      → history.world.configuration.host = true
        ∧ history.world.configuration.hasOwner = true
  order
    : history.world.state.executed ++ queue.map Prod.snd = history.expected
  abortedSubmitted : ∀ number ∈ history.aborted, number < history.submitted
  applied
    : history.world.state.device
      = history.world.state.executed.foldl (fun state number => effect number state) device

variable {effect} {device : State} {history next : History State} {queue : List (Nat × Nat)}

/-- One more submission extends the expected order by its number. -/
theorem expected_submit (fresh : ∀ number ∈ history.aborted, number < history.submitted)
    (world : World Nat (Executed State))
    : ({ history with world, submitted := history.submitted + 1 } : History State).expected
      = history.expected ++ [history.submitted] := by
  have kept : history.submitted ∉ history.aborted :=
    fun member => absurd (fresh _ member) (Nat.lt_irrefl _)
  simp [History.expected, List.range_succ, List.filter_append, kept]

/-- Nothing is executed or queued twice, by order and distinctness of submission numbers. -/
theorem Ordered.nodup (ordered : Ordered effect device history queue)
    : (history.world.state.executed ++ queue.map Prod.snd).Nodup := by
  rw [ordered.order]
  exact List.nodup_range.filter _

/-- Handling a request ID under which nothing is stored changes nothing. -/
theorem handleRequest_missing (history : History State) {reqID : Nat}
    (missing
      : history.world.configuration.pendingConfigurationRequests.find? reqID = none)
    (abort : Bool)
    : handleRequest effect reqID abort history = history := by
  cases abort with
  | false =>
      simp only [handleRequest, Bool.false_eq_true, if_false,
        performConfigurationChange_missing missing]
  | true =>
      simp [handleRequest, storedNumber, missing, abortConfigurationChange_missing missing]

/-- Filtering out one element of a list without duplicates drops that element. -/
theorem filter_ne_middle {left right : List Nat} {middle : Nat}
    (distinct : (left ++ middle :: right).Nodup)
    : (left ++ middle :: right).filter (fun other => other ≠ middle) = left ++ right := by
  rw [List.nodup_append, List.nodup_cons] at distinct
  obtain ⟨-, ⟨absent, -⟩, separate⟩ := distinct
  rw [List.filter_append, List.filter_cons_of_neg (by simp)]
  congr 1
  · exact List.filter_eq_self.mpr (fun other member => by
      simpa using separate other member middle (by simp))
  · refine List.filter_eq_self.mpr (fun other member => ?_)
    have different : other ≠ middle := fun same => absent (same ▸ member)
    simpa using different

/-- A device that is not published has an empty queue. -/
theorem Ordered.queue_nil (ordered : Ordered effect device history queue)
    (direct : history.world.configuration.enqueues = false)
    : queue = [] := by
  by_contra nonempty
  obtain ⟨host, owner⟩ := ordered.published nonempty
  simp [Configuration.enqueues, host, owner, ordered.handler] at direct

/-- Applying a queue of numbered functions records them in the order of the queue. -/
theorem foldl_runFunction (queue : List (Nat × Nat)) (before : Executed State)
    : queue.foldl (fun state entry => runFunction effect entry.2 state) before
      = {
          device :=
            (queue.map Prod.snd).foldl (fun state number => effect number state) before.device
          executed := before.executed ++ queue.map Prod.snd
        } := by
  induction queue generalizing before with
  | nil => simp
  | cons entry rest ih =>
      rw [List.foldl_cons, ih]
      simp [runFunction]

/-- A submission keeps the order while request IDs do not wrap: it is stored under an ID above
all others, or it runs at once when nothing is queued before it.
-/
theorem Ordered.submit (ordered : Ordered effect device history queue)
    (result : advance effect history .submit = some next)
    (few : next.world.configuration.hostRequests.length ≤ requestIDModulus)
    : ∃ queue, Ordered effect device next queue := by
  obtain rfl := Option.some.inj result
  cases direct : history.world.configuration.enqueues with
  | true =>
      simp only [requestConfigurationChange_enqueues direct, Configuration.enqueue,
        List.length_append, List.length_singleton] at few
      have nextID := ordered.nextID
      rw [Nat.mod_eq_of_lt (by omega)] at nextID
      refine ⟨queue ++ [(history.world.configuration.hostRequests.length, history.submitted)], ?_⟩
      rw [requestConfigurationChange_enqueues direct]
      simp only [Configuration.enqueues, Bool.and_eq_true] at direct
      exact {
        stored := by
          simp only [Configuration.enqueue, List.map_append, List.map_cons, List.map_nil, nextID]
          rw [OrderedMap.entries_insert_of_forall_lt, ordered.stored]
          intro entry member
          rw [ordered.stored] at member
          obtain ⟨queued, inQueue, rfl⟩ := List.mem_map.mp member
          exact (ordered.inFlight queued inQueue).2
        requests := by
          simp only [Configuration.enqueue, List.length_append, List.length_singleton,
            List.range_succ, nextID, ← ordered.requests]
        nextID := by simp [Configuration.enqueue, nextID]
        handler := ordered.handler
        delivered := by
          simp only [Configuration.enqueue, List.length_append, List.length_singleton]
          exact ordered.delivered.trans (Nat.le_succ _)
        inFlight := by
          intro entry member
          simp only [Configuration.enqueue, List.length_append, List.length_singleton]
          rcases List.mem_append.mp member with old | new
          · have bounds := ordered.inFlight entry old
            omega
          · obtain rfl := List.mem_singleton.mp new
            exact ⟨ordered.delivered, Nat.lt_succ_self _⟩
        published := fun _ => direct.1
        order := by
          rw [expected_submit ordered.abortedSubmitted, ← ordered.order]
          simp
        abortedSubmitted := fun number member =>
          (ordered.abortedSubmitted number member).trans (Nat.lt_succ_self _)
        applied := ordered.applied
      }
  | false =>
      obtain rfl := ordered.queue_nil direct
      refine ⟨[], ?_⟩
      rw [requestConfigurationChange_inPlace direct]
      exact {
        stored := ordered.stored
        requests := ordered.requests
        nextID := ordered.nextID
        handler := ordered.handler
        delivered := ordered.delivered
        inFlight := by simp
        published := by simp
        order := by
          rw [expected_submit ordered.abortedSubmitted, ← ordered.order]
          simp [runFunction]
        abortedSubmitted := fun number member =>
          (ordered.abortedSubmitted number member).trans (Nat.lt_succ_self _)
        applied := by simp [runFunction, ordered.applied]
      }

/-- Attaching keeps the order: a device without an owner has nothing queued. -/
theorem Ordered.attach (ordered : Ordered effect device history queue) {owner : Nat}
    (result : advance effect history (.attach owner) = some next)
    : Ordered effect device next queue := by
  obtain rfl := Option.some.inj result
  cases owned : history.world.configuration.hasOwner with
  | true => simpa only [requestOwnershipChange, owned, if_true] using ordered
  | false =>
      have direct : history.world.configuration.enqueues = false := by
        simp [Configuration.enqueues, owned]
      obtain rfl := ordered.queue_nil direct
      simp only [requestOwnershipChange, owned, if_true, Bool.false_eq_true, if_false]
      exact { ordered with published := by simp }

/-- Detaching keeps the order: the drain executes the whole queue, oldest request first. -/
theorem Ordered.detach (ordered : Ordered effect device history queue) {owner : Nat}
    (result : advance effect history (.detach owner) = some next)
    : ∃ queue, Ordered effect device next queue := by
  obtain rfl := Option.some.inj result
  cases owned : history.world.configuration.hasOwner with
  | false => exact ⟨queue, by simpa [requestOwnershipChange, owned] using ordered⟩
  | true =>
      refine ⟨[], ?_⟩
      simp only [requestOwnershipChange_detach owned ordered.stored, foldl_runFunction]
      exact {
        stored := rfl
        requests := ordered.requests
        nextID := ordered.nextID
        handler := ordered.handler
        delivered := ordered.delivered
        inFlight := by simp
        published := by simp
        order := by
          simp only [List.map_nil, List.append_nil]
          exact ordered.order
        abortedSubmitted := ordered.abortedSubmitted
        applied := by
          simp only [List.foldl_append]
          rw [ordered.applied]
      }

/-- A request ID stored in the map at the front of the host's requests is the head of the
queue: no queued ID is below the delivery front, and the queue is sorted.
-/
theorem Ordered.head_of_stored (ordered : Ordered effect device history queue)
    {value : Option Nat}
    (found
      : history.world.configuration.pendingConfigurationRequests.find? history.delivered
        = some value)
    : ∃ number rest, value = some number ∧ queue = (history.delivered, number) :: rest := by
  have member := (OrderedMap.find?_eq_some_iff _).mp found
  have sorted := history.world.configuration.pendingConfigurationRequests.sorted
  rw [ordered.stored] at member sorted
  obtain ⟨⟨reqID, number⟩, inQueue, same⟩ := List.mem_map.mp member
  obtain ⟨rfl, rfl⟩ := Prod.mk.inj same
  cases queue with
  | nil => simp at inQueue
  | cons first rest =>
      rcases List.mem_cons.mp inQueue with head | tail
      · exact ⟨number, rest, rfl, by rw [← head]⟩
      · have above := (List.pairwise_cons.mp sorted).1 _
          (List.mem_map.mpr ⟨_, tail, rfl⟩)
        have front := (ordered.inFlight first (by simp)).1
        simp only at above
        omega

/-- The host delivers a request under which nothing is stored any more. -/
theorem Ordered.deliver_missing (ordered : Ordered effect device history queue)
    (inRange : history.delivered < history.world.configuration.hostRequests.length)
    (found
      : history.world.configuration.pendingConfigurationRequests.find? history.delivered = none)
    : Ordered effect device { history with delivered := history.delivered + 1 } queue := by
  have passed : ∀ entry ∈ queue, history.delivered ≠ entry.1 := by
    intro entry member same
    refine (OrderedMap.find?_eq_none_iff _).mp found (some entry.2) ?_
    rw [ordered.stored]
    exact List.mem_map.mpr ⟨entry, member, by rw [same]⟩
  exact {
    ordered with
    delivered := inRange
    inFlight := fun entry member => by
      have bounds := ordered.inFlight entry member
      have different := passed entry member
      exact ⟨by simp only; omega, bounds.2⟩
  }

/-- What waits behind the request that the host delivers has not been delivered. -/
theorem Ordered.inFlight_rest {number : Nat} {rest : List (Nat × Nat)}
    (ordered : Ordered effect device history ((history.delivered, number) :: rest))
    : ∀ entry ∈ rest, history.delivered + 1 ≤ entry.1
        ∧ entry.1 < history.world.configuration.hostRequests.length := by
  have sorted := history.world.configuration.pendingConfigurationRequests.sorted
  rw [ordered.stored] at sorted
  intro entry member
  have above := (List.pairwise_cons.mp sorted).1 _ (List.mem_map.mpr ⟨entry, member, rfl⟩)
  exact ⟨above, (ordered.inFlight entry (List.mem_cons_of_mem _ member)).2⟩

/-- The host performs the request whose function is the first in the queue. -/
theorem Ordered.perform_first {number : Nat} {rest : List (Nat × Nat)}
    (ordered : Ordered effect device history ((history.delivered, number) :: rest))
    (inRange : history.delivered < history.world.configuration.hostRequests.length)
    (found
      : history.world.configuration.pendingConfigurationRequests.find? history.delivered
        = some (some number))
    : Ordered effect device
        (handleRequest effect history.delivered false
          { history with delivered := history.delivered + 1 })
        rest := by
  have order := ordered.order
  simp only [List.map_cons] at order
  simp only [handleRequest, Bool.false_eq_true, if_false]
  rw [performConfigurationChange_some found]
  exact {
    stored := OrderedMap.entries_erase_head _ ordered.stored
    requests := ordered.requests
    nextID := ordered.nextID
    handler := ordered.handler
    delivered := inRange
    inFlight := ordered.inFlight_rest
    published := fun _ => ordered.published (by simp)
    order := by simpa [runFunction, History.expected] using order
    abortedSubmitted := ordered.abortedSubmitted
    applied := by simp [runFunction, ordered.applied]
  }

/-- The host aborts the request whose function is the first in the queue. -/
theorem Ordered.abort_first {number : Nat} {rest : List (Nat × Nat)}
    (ordered : Ordered effect device history ((history.delivered, number) :: rest))
    (inRange : history.delivered < history.world.configuration.hostRequests.length)
    (found
      : history.world.configuration.pendingConfigurationRequests.find? history.delivered
        = some (some number))
    : Ordered effect device
        (handleRequest effect history.delivered true
          { history with delivered := history.delivered + 1 })
        rest := by
  have distinct := ordered.nodup
  have order := ordered.order
  simp only [List.map_cons] at distinct order
  have number? : storedNumber history.world history.delivered = some number := by
    simp [storedNumber, found]
  have submitted : number < history.submitted := by
    have member : number ∈ history.expected := by rw [← order]; simp
    exact List.mem_range.mp (List.mem_filter.mp member).1
  simp only [handleRequest, if_true, number?, Option.toList_some]
  exact {
    stored := OrderedMap.entries_erase_head _ ordered.stored
    requests := ordered.requests
    nextID := ordered.nextID
    handler := ordered.handler
    delivered := inRange
    inFlight := ordered.inFlight_rest
    published := fun _ => ordered.published (by simp)
    order := by
      have kept := filter_ne_middle distinct
      rw [order] at kept
      refine kept.symm.trans ?_
      simp only [History.expected, List.filter_filter]
      refine List.filter_congr (fun other _ => ?_)
      simp [and_comm]
    abortedSubmitted := by
      intro other member
      rcases List.mem_append.mp member with old | new
      · exact ordered.abortedSubmitted other old
      · exact List.mem_singleton.mp new ▸ submitted
    applied := ordered.applied
  }

/-- Delivering the oldest outstanding request keeps the order. Witness: its ID is stale and
nothing changes, or it is the head of the queue, which is then executed or aborted.
-/
theorem Ordered.deliver (ordered : Ordered effect device history queue) {abort : Bool}
    (result : advance effect history (.deliver abort) = some next)
    : ∃ queue, Ordered effect device next queue := by
  obtain ⟨reqID, requested, rfl⟩ := Option.map_eq_some_iff.mp result
  obtain ⟨inRange, atFront⟩ := List.getElem?_eq_some_iff.mp requested
  obtain rfl : reqID = history.delivered := by
    rw [← atFront, List.getElem_of_eq ordered.requests, List.getElem_range]
  cases found
    : history.world.configuration.pendingConfigurationRequests.find? history.delivered with
  | none =>
      have same : handleRequest effect history.delivered abort
          { history with delivered := history.delivered + 1 }
          = { history with delivered := history.delivered + 1 } :=
        handleRequest_missing { history with delivered := history.delivered + 1 } found abort
      rw [same]
      exact ⟨queue, ordered.deliver_missing inRange found⟩
  | some value =>
      obtain ⟨number, rest, rfl, rfl⟩ := ordered.head_of_stored found
      refine ⟨rest, ?_⟩
      cases abort with
      | false => exact ordered.perform_first inRange found
      | true => exact ordered.abort_first inRange found

-----------------------------------------------------------------------------------------
-- Whole runs
-----------------------------------------------------------------------------------------

/-- Draining asks the host for nothing, by induction on the rounds. -/
theorem applyPending_hostRequests (rounds : Nat) (world : World Nat (Executed State))
    : (applyPending (runFunction effect) rounds world).1.configuration.hostRequests
      = world.configuration.hostRequests := by
  induction rounds generalizing world with
  | zero => rfl
  | succ rounds ih =>
      simp only [applyPending]
      split
      · rfl
      · rfl
      · exact ih _

/-- Handling a request asks the host for nothing. -/
theorem handleRequest_hostRequests (reqID : Nat) (abort : Bool) (history : History State)
    : (handleRequest effect reqID abort history).world.configuration.hostRequests
      = history.world.configuration.hostRequests := by
  cases abort with
  | true => rfl
  | false =>
      simp only [handleRequest, Bool.false_eq_true, if_false, performConfigurationChange]
      split <;> rfl

/-- The requests made to the host only grow. -/
theorem advance_hostRequests {event : Event}
    (result : advance effect history event = some next)
    : history.world.configuration.hostRequests.length
      ≤ next.world.configuration.hostRequests.length := by
  cases event with
  | setHost =>
      obtain rfl := Option.some.inj result
      exact Nat.le_refl _
  | submit =>
      obtain rfl := Option.some.inj result
      simp only [requestConfigurationChange]
      split
      · simp [Configuration.enqueue]
      · exact Nat.le_refl _
  | attach owner =>
      obtain rfl := Option.some.inj result
      simp only [requestOwnershipChange, if_true]
      split <;> exact Nat.le_refl _
  | detach owner =>
      obtain rfl := Option.some.inj result
      simp only [requestOwnershipChange, Bool.false_eq_true, if_false]
      split
      · exact Nat.le_refl _
      · rw [applyPending_hostRequests]
        exact Nat.le_refl _
  | deliver abort =>
      obtain ⟨reqID, -, rfl⟩ := Option.map_eq_some_iff.mp result
      rw [handleRequest_hostRequests]
  | stale reqID abort =>
      simp only [advance] at result
      split at result
      · obtain rfl := Option.some.inj result
        rw [handleRequest_hostRequests]
      · cases result

/-- Every event keeps the order while the request IDs have not wrapped. -/
theorem Ordered.advance (ordered : Ordered effect device history queue) {event : Event}
    (result : ConfigurationOrder.advance effect history event = some next)
    (few : next.world.configuration.hostRequests.length ≤ requestIDModulus)
    : ∃ queue, Ordered effect device next queue := by
  cases event with
  | setHost =>
      obtain rfl := Option.some.inj result
      exact ⟨queue, { ordered with published := fun some => ⟨rfl, (ordered.published some).2⟩ }⟩
  | submit => exact ordered.submit result few
  | attach owner => exact ⟨queue, ordered.attach result⟩
  | detach owner => exact ordered.detach result
  | deliver abort => exact ordered.deliver result
  | stale reqID abort =>
      simp only [ConfigurationOrder.advance] at result
      split at result
      · rename_i missing
        obtain rfl := Option.some.inj result
        exact ⟨queue, (handleRequest_missing _ missing abort).symm ▸ ordered⟩
      · cases result

/-- In every run that has asked the host for at most `2 ^ 64` changes, executed and queued
functions are in submission order, by the invariant rule.
-/
theorem ordered_of_reachable (reached : (system effect device).Reachable history)
    (few : history.world.configuration.hostRequests.length ≤ requestIDModulus)
    : ∃ queue, Ordered effect device history queue := by
  have invariant : (system effect device).Invariant (fun history =>
      history.world.configuration.hostRequests.length ≤ requestIDModulus
      → ∃ queue, Ordered effect device history queue) := {
    initial := by
      rintro _ ⟨host, rfl⟩ -
      exact ⟨[], {
        stored := rfl
        requests := rfl
        nextID := rfl
        handler := rfl
        delivered := Nat.le_refl _
        inFlight := by simp
        published := by simp
        order := rfl
        abortedSubmitted := by simp [newDevice]
        applied := rfl
      }⟩
    step := by
      intro before event after holds taken bound
      obtain ⟨queue, ordered⟩ := holds ((advance_hostRequests taken).trans bound)
      exact ordered.advance taken bound
  }
  exact invariant.reachable reached few

/-- A published device to which `count` functions were submitted, each of them performed before
the next one was submitted.
-/
def cycled (count : Nat) : History Unit where
  world := {
    configuration := {
      host := true
      ownerObjectID := 1
      lastConfigurationRequestID := count % requestIDModulus
      hostRequests := (List.range count).map (· % requestIDModulus)
    }
    state := { device := (), executed := List.range count }
  }
  submitted := count
  delivered := count

/-- Such a state with one more submission, not performed yet. -/
def cycledSubmitted (count : Nat) : History Unit :=
  {
    cycled count with
    world.configuration := (cycled count).world.configuration.enqueue (some count)
    submitted := count + 1
  }

/-- Performing the last submission of such a state completes one more round. -/
theorem deliver_cycledSubmitted (count : Nat)
    : advance (fun _ device => device) (cycledSubmitted count) (.deliver false)
      = some (cycled (count + 1)) := by
  have requested : (cycledSubmitted count).world.configuration.hostRequests[count]?
      = some (count % requestIDModulus) := by
    simp [cycledSubmitted, cycled, Configuration.enqueue]
  have found : (cycledSubmitted count).world.configuration.pendingConfigurationRequests.find?
      (count % requestIDModulus) = some (some count) := by
    simp [cycledSubmitted, cycled, Configuration.enqueue, OrderedMap.find?_insert]
  have erased : ((OrderedMap.empty : OrderedMap Nat (Option Nat)).insert
      (count % requestIDModulus) (some count)).erase (count % requestIDModulus) = .empty :=
    OrderedMap.ext_find? (fun key => by
      simp +contextual [OrderedMap.find?_erase, OrderedMap.find?_insert])
  simp only [advance]
  rw [show (cycledSubmitted count).delivered = count from rfl, requested]
  simp only [Option.map_some, handleRequest, Bool.false_eq_true, if_false]
  rw [performConfigurationChange_some found]
  simp [cycledSubmitted, cycled, Configuration.enqueue, Configuration.erase, erased,
    runFunction, List.range_succ]

/-- Every such state is reachable, by one submission and one delivery after another. -/
theorem cycled_reachable (count : Nat)
    : (system (fun _ device => device) ()).Reachable (cycled count) := by
  induction count with
  | zero =>
      have attached : System.play (advance (fun _ device => device)) (newDevice () true)
          [.attach 1] = some (cycled 0) := rfl
      exact System.reachable_of_play ⟨true, rfl⟩ attached
  | succ count ih =>
      have submitted : (system (fun _ device => device) ()).Reachable (cycledSubmitted count) :=
        ih.step .submit rfl
      exact submitted.step (.deliver false) (deliver_cycledSubmitted count)

/-- A published device with two pending functions, the later one under the smaller ID. -/
def wrapped (count : Nat) : History Unit :=
  {
    cycledSubmitted count with
    world.configuration := (cycledSubmitted count).world.configuration.enqueue (some (count + 1))
    submitted := count + 2
  }

/-- When the IDs wrap between two pending functions, the drain applies the later one first. -/
theorem detach_wrapped (count : Nat) (wraps : count + 1 = requestIDModulus)
    : ∃ history,
        advance (fun _ device => device) (wrapped count) (.detach 1) = some history
        ∧ history.world.configuration.pendingConfigurationRequests = .empty
        ∧ history.world.state.executed = List.range count ++ [count + 1, count]
        ∧ history.expected = List.range (count + 2) := by
  have last : count % requestIDModulus = count := Nat.mod_eq_of_lt (by omega)
  have stored : (wrapped count).world.configuration.pendingConfigurationRequests.entries
      = [(0, count + 1), (count, count)].map (fun entry => (entry.1, some entry.2)) := by
    have positive : 0 < count := by simp only [requestIDModulus] at wraps; omega
    simp [wrapped, cycledSubmitted, cycled, Configuration.enqueue, last, wraps,
      OrderedMap.insert, positive]
  have owned : (wrapped count).world.configuration.hasOwner = true := rfl
  refine ⟨_, rfl, ?_, ?_, ?_⟩
  · rw [requestOwnershipChange_detach owned stored]
  · rw [requestOwnershipChange_detach owned stored]
    simp [runFunction, wrapped, cycledSubmitted, cycled]
  · simp [History.expected, wrapped, cycledSubmitted, cycled]

end Aspl.Device.ConfigurationOrder
