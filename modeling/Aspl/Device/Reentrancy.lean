import Aspl.Base.System
import Aspl.Device.Configuration

/-! Submitted functions that call back into their device.
The device keeps a stack of what it is in the middle of: functions that run, and calls of
`PerformConfigurationChange()` and drains that wait for the function they took from the map.
A function stays in the map while it runs.
-/

namespace Aspl.Device.Reentrancy

universe u

/-- The calls that submit no function, or an empty one. -/
inductive Operation where
  | requestEmpty
  | perform (reqID : Nat)
  | abort (reqID : Nat)
  | attach (owner : Nat)
  | detach (owner : Nat)

/-- A function that ends once the operations it calls return. After each call it goes on with
what it sees then, of the device or of anything else.
-/
inductive Body (Seen : Type u) where
  | done
  | request (func : Body Seen) (next : Seen → Body Seen)
  | call (operation : Operation) (next : Seen → Body Seen)

/-- A function with the number of its submission. -/
structure Submission (Seen : Type u) where
  tag : Nat
  body : Body Seen

/-- What happens to a submission. -/
inductive Event where
  | executed (tag : Nat)
  | aborted (tag : Nat)

def Event.tag : Event → Nat
  | .executed tag | .aborted tag => tag

-----------------------------------------------------------------------------------------
-- The device
-----------------------------------------------------------------------------------------

/-- What the device is in the middle of: a function that has to go on, the end of
`PerformConfigurationChange()`, the drain loop, or the erasure after a function in that loop.
-/
inductive Frame (Seen : Type u) where
  | code (body : Body Seen)
  | endPerform (reqID : Nat)
  | drain
  | eraseDrained (reqID : Nat)

/-- The request whose function the frame waits for. -/
def Frame.runningID {Seen : Type u} : Frame Seen → Option Nat
  | .endPerform reqID | .eraseDrained reqID => some reqID
  | _ => none

/-- The request whose function the frame waits for, when it runs inside the map. -/
def Frame.drainedID {Seen : Type u} : Frame Seen → Option Nat
  | .eraseDrained reqID => some reqID
  | _ => none

/-- The fields of a device, its stack, the number of submissions so far and what happened to
them.
-/
structure Machine (Seen : Type u) where
  configuration : Configuration (Submission Seen) := {}
  stack : List (Frame Seen) := []
  submitted : Nat := 0
  history : List Event := []

/-- A device, or what is left of it after a function object was destroyed while it ran. -/
inductive State (Seen : Type u) where
  | defined (machine : Machine Seen)
  | undefined

variable {Seen : Type u}

/-- Requests whose functions run. -/
def runningIDs (stack : List (Frame Seen)) : List Nat := stack.filterMap Frame.runningID

/-- Requests whose functions the drain loop runs inside the map. -/
def drainedIDs (stack : List (Frame Seen)) : List Nat := stack.filterMap Frame.drainedID

namespace Machine

variable (machine : Machine Seen)

/-- Run a submitted function. -/
def execute (submission : Submission Seen) : Machine Seen :=
  {
    machine with
    stack := .code submission.body :: machine.stack
    history := machine.history ++ [.executed submission.tag]
  }

/-- An empty `std::function` throws out of everything that the device is in the middle of. -/
def badFunctionCall : Machine Seen := { machine with stack := [] }

/-- `pendingConfigurationRequests_.erase()`, which destroys the function object. -/
def erase (reqID : Nat) : State Seen :=
  if reqID ∈ drainedIDs machine.stack then
    .undefined
  else
    .defined { machine with configuration := machine.configuration.erase reqID }

/-- Enqueue a function; where the request ID has wrapped this replaces a function object. -/
def enqueue (func : Option (Submission Seen)) : State Seen :=
  if machine.configuration.lastConfigurationRequestID ∈ drainedIDs machine.stack then
    .undefined
  else
    .defined { machine with configuration := machine.configuration.enqueue func }

/-- `Device::RequestConfigurationChange()` with a function. -/
def request (func : Body Seen) : State Seen :=
  let submission := { tag := machine.submitted, body := func }
  let counted := { machine with submitted := machine.submitted + 1 }
  if machine.configuration.enqueues then
    counted.enqueue (some submission)
  else
    .defined (counted.execute submission)

/-- `Device::RequestConfigurationChange()` with an empty function. -/
def requestEmpty : State Seen :=
  if machine.configuration.enqueues then
    machine.enqueue none
  else
    .defined machine.badFunctionCall

/-- `Device::PerformConfigurationChange()`, up to the call of the function. -/
def perform (reqID : Nat) : Machine Seen :=
  let entered := machine.configuration.enterHandler
  match machine.configuration.pendingConfigurationRequests.find? reqID with
  | some (some submission) =>
      { machine with configuration := entered, stack := .endPerform reqID :: machine.stack }.execute
        submission
  | _ => { machine with configuration := (entered.erase reqID).leaveHandler }

/-- `Device::AbortConfigurationChange()`. -/
def abort (reqID : Nat) : State Seen :=
  match machine.configuration.pendingConfigurationRequests.find? reqID with
  | none => .defined machine
  | some none => machine.erase reqID
  | some (some submission) =>
      { machine with history := machine.history ++ [Event.aborted submission.tag] }.erase reqID

/-- `Device::RequestOwnershipChange()` to have an owner. -/
def attach (owner : Nat) : Machine Seen :=
  if machine.configuration.hasOwner then
    machine
  else
    { machine with configuration := machine.configuration.attachOwner owner }

/-- `Device::RequestOwnershipChange()` to have none, up to the drain loop. -/
def detach (owner : Nat) : Machine Seen :=
  if machine.configuration.hasOwner then
    {
      machine with
      configuration := machine.configuration.detachOwner owner
      stack := .drain :: machine.stack
    }
  else
    machine

/-- A call that submits no function. -/
def operate : Operation → State Seen
  | .requestEmpty => machine.requestEmpty
  | .perform reqID => .defined (machine.perform reqID)
  | .abort reqID => machine.abort reqID
  | .attach owner => .defined (machine.attach owner)
  | .detach owner => .defined (machine.detach owner)

/-- One round of the drain loop, up to the call of the function. -/
def drainRound : Machine Seen :=
  match machine.configuration.pendingConfigurationRequests.min? with
  | none => machine
  | some (_, none) => machine.badFunctionCall
  | some (reqID, some submission) =>
      { machine with stack := .eraseDrained reqID :: machine.stack }.execute submission

/-- The next step of the innermost frame. A function that calls an operation goes on with what
it will have `seen` when the operation returns.
-/
def proceed (seen : Seen) : Option (State Seen) :=
  match machine.stack with
  | [] => none
  | .code .done :: rest => some (.defined { machine with stack := rest })
  | .code (.request func next) :: rest =>
      some ({ machine with stack := .code (next seen) :: rest }.request func)
  | .code (.call operation next) :: rest =>
      some ({ machine with stack := .code (next seen) :: rest }.operate operation)
  | .endPerform reqID :: rest =>
      some
        ({
          machine with
          configuration := machine.configuration.leaveHandler
          stack := rest
        }.erase reqID)
  | .drain :: rest => some (.defined { machine with stack := rest }.drainRound)
  | .eraseDrained reqID :: rest => some ({ machine with stack := .drain :: rest }.erase reqID)

end Machine

/-- A thread calls operations of the device, or the device goes on. -/
inductive Label (Seen : Type u) where
  | call (body : Body Seen)
  | proceed (seen : Seen)

/-- One step, if it can happen: calls of other threads wait for the recursive `writeMutex_`. -/
def advance : State Seen → Label Seen → Option (State Seen)
  | .undefined, _ => none
  | .defined machine, .call body =>
      match machine.stack with
      | [] => some (.defined { machine with stack := [.code body] })
      | _ => none
  | .defined machine, .proceed seen => machine.proceed seen

/-- A device on which nothing was submitted. -/
structure New (machine : Machine Seen) : Prop where
  pending : machine.configuration.pendingConfigurationRequests = .empty
  stack : machine.stack = []
  history : machine.history = []

/-- All runs of the operations, from a device in any state of publication. -/
def system (Seen : Type u) : System (State Seen) (Label Seen) :=
  .ofFunction (fun device => ∃ machine, New machine ∧ device = .defined machine) advance

/-- The next step does no harm to a function that was taken from the map and still runs:
it does not take that function again, in `PerformConfigurationChange()` or in the drain loop;
it does not destroy the function object that the drain loop runs, by aborting its request or
by reusing its request ID; and it does not throw past it.
-/
def Machine.Harmless (machine : Machine Seen) : Prop :=
  let pending := machine.configuration.pendingConfigurationRequests
  match machine.stack with
  | .code (.request _ _) :: rest =>
      machine.configuration.enqueues = true
      → machine.configuration.lastConfigurationRequestID ∉ drainedIDs rest
  | .code (.call .requestEmpty _) :: rest =>
      if machine.configuration.enqueues then
        machine.configuration.lastConfigurationRequestID ∉ drainedIDs rest
      else
        runningIDs rest = []
  | .code (.call (.perform reqID) _) :: rest =>
      (pending.find? reqID).join.isSome = true → reqID ∉ runningIDs rest
  | .code (.call (.abort reqID) _) :: rest =>
      (pending.find? reqID).isSome = true → reqID ∉ drainedIDs rest
  | .drain :: rest =>
      match pending.min? with
      | none => True
      | some (_, none) => runningIDs rest = []
      | some (reqID, some _) => reqID ∉ runningIDs rest
  | _ => True

/-- Every step of the device itself is harmless. -/
def Harmless : State Seen → Label Seen → Prop
  | .defined machine, .proceed _ => machine.Harmless
  | _, _ => True

end Aspl.Device.Reentrancy
