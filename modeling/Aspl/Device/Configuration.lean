import Aspl.Base.OrderedMap
import Mathlib.Data.Nat.Basic

/-! The configuration-change operations of `Device`.
A change is a stored function. Each operation runs as one step under the recursive
`writeMutex_`; the functions here do not call back into the device, and what running one
does to the rest of the device is the parameter `run`.
-/

namespace Aspl.Device

universe u v

/-- `UInt64` request IDs wrap to zero at this modulus. -/
def requestIDModulus : Nat := 18446744073709551616

/-- The configuration-change fields of a device whose stored functions are values of `F`.
A stored `none` is an empty `std::function`. `hostRequests` lists the request IDs passed to
`host->RequestDeviceConfigurationChange`, oldest first.
-/
structure Configuration (F : Type u) where
  host : Bool := false
  ownerObjectID : Nat := 0
  pendingConfigurationRequests : OrderedMap Nat (Option F) := .empty
  lastConfigurationRequestID : Nat := 0
  insideConfigurationHandler : Nat := 0
  hostRequests : List Nat := []

namespace Configuration

variable {F : Type u}

/-- `Object::HasOwner()`. -/
def hasOwner (configuration : Configuration F) : Bool :=
  configuration.ownerObjectID != 0

/-- The condition under which `RequestConfigurationChange()` enqueues its function. -/
def enqueues (configuration : Configuration F) : Bool :=
  configuration.host && configuration.hasOwner
  && configuration.insideConfigurationHandler == 0

/-- Store a function under the next request ID and ask the host to deliver that ID. -/
def enqueue (configuration : Configuration F) (func : Option F) : Configuration F :=
  let reqID := configuration.lastConfigurationRequestID
  {
    configuration with
    lastConfigurationRequestID := (reqID + 1) % requestIDModulus
    pendingConfigurationRequests :=
      configuration.pendingConfigurationRequests.insert reqID func
    hostRequests := configuration.hostRequests ++ [reqID]
  }

/-- `pendingConfigurationRequests_.erase(reqID)`. -/
def erase (configuration : Configuration F) (reqID : Nat) : Configuration F :=
  {
    configuration with
    pendingConfigurationRequests := configuration.pendingConfigurationRequests.erase reqID
  }

/-- `owner->AddOwnedObject(shared_from_this())` for a device without an owner. -/
def attachOwner (configuration : Configuration F) (owner : Nat) : Configuration F :=
  { configuration with ownerObjectID := owner }

/-- `owner->RemoveOwnedObject(GetID())`: only the owner that has the device removes it. -/
def detachOwner (configuration : Configuration F) (owner : Nat) : Configuration F :=
  {
    configuration with
    ownerObjectID :=
      if configuration.ownerObjectID = owner then 0 else configuration.ownerObjectID
  }

/-- `insideConfigurationHandler_++`. -/
def enterHandler (configuration : Configuration F) : Configuration F :=
  {
    configuration with
    insideConfigurationHandler := configuration.insideConfigurationHandler + 1
  }

/-- `insideConfigurationHandler_--`. -/
def leaveHandler (configuration : Configuration F) : Configuration F :=
  {
    configuration with
    insideConfigurationHandler := configuration.insideConfigurationHandler - 1
  }

end Configuration

-----------------------------------------------------------------------------------------
-- The operations
-----------------------------------------------------------------------------------------

/-- A device: its configuration-change fields and everything that stored functions change. -/
structure World (F : Type u) (State : Type v) where
  configuration : Configuration F
  state : State

/-- How a call ends: by returning, or with the `std::bad_function_call` of an empty function. -/
inductive Outcome where
  | returned
  | badFunctionCall
deriving DecidableEq

section Operations

variable {F : Type u} {State : Type v} (run : F → State → State)

/-- `Device::RequestConfigurationChange()`. -/
def requestConfigurationChange (func : Option F) (world : World F State)
    : World F State × Outcome :=
  if world.configuration.enqueues then
    ({ world with configuration := world.configuration.enqueue func }, .returned)
  else
    match func with
    | some func => ({ world with state := run func world.state }, .returned)
    | none => (world, .badFunctionCall)

/-- The loop of `RequestOwnershipChange()` that applies what is still pending, from lower to
higher request IDs. The stored functions add nothing to the map, so as many rounds as it has
entries empty it; an empty function throws out of the loop and stays in the map.
-/
def applyPending : Nat → World F State → World F State × Outcome
  | 0, world => (world, .returned)
  | rounds + 1, world =>
      match world.configuration.pendingConfigurationRequests.min? with
      | none => (world, .returned)
      | some (_, none) => (world, .badFunctionCall)
      | some (reqID, some func) =>
          applyPending rounds
            {
              configuration := world.configuration.erase reqID
              state := run func world.state
            }

/-- `Device::RequestOwnershipChange()`. -/
def requestOwnershipChange (owner : Nat) (shouldHaveOwnership : Bool) (world : World F State)
    : World F State × Outcome :=
  if shouldHaveOwnership then
    if world.configuration.hasOwner then
      (world, .returned)
    else
      ({ world with configuration := world.configuration.attachOwner owner }, .returned)
  else if !world.configuration.hasOwner then
    (world, .returned)
  else
    applyPending run world.configuration.pendingConfigurationRequests.size
      { world with configuration := world.configuration.detachOwner owner }

/-- `Device::PerformConfigurationChange()`. The `operator[]` of the source stores an empty
function under a missing ID; nothing runs before the erasure removes it again.
-/
def performConfigurationChange (reqID : Nat) (world : World F State) : World F State :=
  let entered := world.configuration.enterHandler
  match entered.pendingConfigurationRequests.find? reqID with
  | some (some func) =>
      {
        configuration := (entered.erase reqID).leaveHandler
        state := run func world.state
      }
  | _ => { world with configuration := (entered.erase reqID).leaveHandler }

/-- `Device::AbortConfigurationChange()`. -/
def abortConfigurationChange (reqID : Nat) (world : World F State) : World F State :=
  { world with configuration := world.configuration.erase reqID }

end Operations

-----------------------------------------------------------------------------------------
-- What each operation does
-----------------------------------------------------------------------------------------

section Specifications

variable {F : Type u} {State : Type v} {run : F → State → State} {world : World F State}

@[simp] theorem Configuration.leaveHandler_erase_enterHandler
    (configuration : Configuration F) (reqID : Nat)
    : (configuration.enterHandler.erase reqID).leaveHandler = configuration.erase reqID :=
  rfl

/-- On a published device outside the handler a request is only enqueued. -/
theorem requestConfigurationChange_enqueues {func : Option F}
    (queued : world.configuration.enqueues = true)
    : requestConfigurationChange run func world
      = ({ world with configuration := world.configuration.enqueue func }, .returned) := by
  simp [requestConfigurationChange, queued]

/-- Everywhere else a function runs before the request returns. -/
theorem requestConfigurationChange_inPlace {func : F}
    (direct : world.configuration.enqueues = false)
    : requestConfigurationChange run (some func) world
      = ({ world with state := run func world.state }, .returned) := by
  simp [requestConfigurationChange, direct]

/-- Performing a stored function runs it and erases its entry. -/
theorem performConfigurationChange_some {reqID : Nat} {func : F}
    (stored : world.configuration.pendingConfigurationRequests.find? reqID
      = some (some func))
    : performConfigurationChange run reqID world
      = {
          configuration := world.configuration.erase reqID
          state := run func world.state
        } := by
  simp only [performConfigurationChange]
  rw [show world.configuration.enterHandler.pendingConfigurationRequests.find? reqID
    = some (some func) from stored]
  rfl

/-- Erasing an unknown request ID changes no field. -/
theorem Configuration.erase_of_missing {configuration : Configuration F} {reqID : Nat}
    (missing : configuration.pendingConfigurationRequests.find? reqID = none)
    : configuration.erase reqID = configuration := by
  simp only [Configuration.erase, OrderedMap.erase_of_find?_none _ missing]

/-- Performing an unknown request ID changes nothing. -/
theorem performConfigurationChange_missing {reqID : Nat}
    (missing : world.configuration.pendingConfigurationRequests.find? reqID = none)
    : performConfigurationChange run reqID world = world := by
  simp only [performConfigurationChange]
  rw [show world.configuration.enterHandler.pendingConfigurationRequests.find? reqID = none
    from missing]
  simp only [Configuration.leaveHandler_erase_enterHandler,
    Configuration.erase_of_missing missing]

/-- Aborting an unknown request ID changes nothing. -/
theorem abortConfigurationChange_missing {reqID : Nat}
    (missing : world.configuration.pendingConfigurationRequests.find? reqID = none)
    : abortConfigurationChange reqID world = world := by
  simp only [abortConfigurationChange, Configuration.erase_of_missing missing]

/-- When no stored function is empty, the loop runs them all in the order of their IDs and
leaves the map empty. Witness: induction on the entries, one round for each.
-/
theorem applyPending_all {funcs : List (Nat × F)}
    (stored : world.configuration.pendingConfigurationRequests.entries
      = funcs.map (fun entry => (entry.1, some entry.2)))
    : applyPending run funcs.length world
      = (
          {
            configuration :=
              { world.configuration with pendingConfigurationRequests := .empty }
            state := funcs.foldl (fun state entry => run entry.2 state) world.state
          },
          .returned
        ) := by
  induction funcs generalizing world with
  | nil =>
      have emptied : world.configuration.pendingConfigurationRequests = .empty :=
        OrderedMap.ext stored
      simp only [List.length_nil, applyPending, List.foldl_nil, ← emptied]
  | cons entry rest ih =>
      obtain ⟨reqID, func⟩ := entry
      have first : world.configuration.pendingConfigurationRequests.min?
          = some (reqID, some func) := by
        simp [OrderedMap.min?, stored]
      have erased := world.configuration.pendingConfigurationRequests.entries_erase_head stored
      simp only [List.length_cons, applyPending, first, List.foldl_cons]
      exact ih erased

/-- Detaching a device whose stored functions are not empty runs them all. -/
theorem requestOwnershipChange_detach {owner : Nat} {funcs : List (Nat × F)}
    (owned : world.configuration.hasOwner = true)
    (stored : world.configuration.pendingConfigurationRequests.entries
      = funcs.map (fun entry => (entry.1, some entry.2)))
    : requestOwnershipChange run owner false world
      = (
          {
            configuration :=
              {
                world.configuration.detachOwner owner with
                pendingConfigurationRequests := .empty
              }
            state := funcs.foldl (fun state entry => run entry.2 state) world.state
          },
          .returned
        ) := by
  have rounds : world.configuration.pendingConfigurationRequests.size = funcs.length := by
    simp [OrderedMap.size, stored]
  simp only [requestOwnershipChange, owned, Bool.false_eq_true, if_false, Bool.not_true, rounds]
  exact applyPending_all stored

end Specifications

end Aspl.Device
