import Aspl.Base.References
import Aspl.Base.System
import Aspl.Device.Configuration
import Mathlib.Data.Finset.Basic
import Mathlib.Logic.Function.Basic

/-! Configuration changes of the streams of a `Device`, and the references to the streams.
An operation of the device is one step up to the stored function that it runs. That the function
runs is a step of its own, and so is each destruction of a stored function and of a copy of one,
so that the user may drop references in between. Streams are named by their object IDs.
-/

namespace Aspl.Device.StreamChanges

/-- Stream objects, numbered by the order of their construction. -/
abbrev Stream := Nat

inductive Direction where
  | input
  | output
deriving DecidableEq

/-- The functions that are passed to `RequestConfigurationChange()`: those of `AddStreamAsync()`
and `RemoveStreamAsync()` capture a `shared_ptr`, those of the `SetXAsync()` methods of the
stream capture `this`.
-/
inductive Closure where
  | addStream (stream : Stream) (dir : Direction)
  | removeStream (stream : Stream) (dir : Direction)
  | setProperty (stream : Stream)
deriving DecidableEq

/-- The stream that a closure changes. -/
def Closure.stream : Closure → Stream
  | .addStream stream _ | .removeStream stream _ | .setProperty stream => stream

/-- The stream that a closure keeps alive. -/
def Closure.captured : Closure → Option Stream
  | .addStream stream _ | .removeStream stream _ => some stream
  | .setProperty _ => none

/-- What holds a reference to a stream: a `shared_ptr` of the user, an element of `streams_`, of
`streamByID_` or of the owned objects, a stored closure, or the closure that an operation has
been given or has copied.
-/
inductive Holder where
  | user
  | streams (dir : Direction)
  | streamByID
  | owned
  | stored (reqID : Nat)
  | running
deriving DecidableEq

/-- What the operation that holds `writeMutex_` does next. -/
inductive Phase where
  | idle
  -- the rest of RequestConfigurationChange that does not store its function
  | applyInPlace (closure : Closure)
  -- the rest of PerformConfigurationChange, with its copy of the function
  | perform (reqID : Nat) (closure : Closure)
  | erase (reqID : Nat) (closure : Closure)
  -- the drain of RequestOwnershipChange
  | drain
  | drainCall (reqID : Nat) (closure : Closure)
  | drainErase (reqID : Nat) (closure : Closure)
  -- the destruction of a function that is not stored
  | destroy (closure : Closure)
deriving DecidableEq

/-- The configuration changes and streams of a device. `ownedObjects` has the scope under which
the device owns a stream.
-/
structure State where
  configuration : Configuration Closure
  streams : Direction → List Stream
  streamByID : Finset Stream
  ownedObjects : Stream → Option Direction
  numStreams : Direction → UInt32
  references : References Holder Stream
  phase : Phase
  constructed : Nat

/-- What the user, the host and the device do. The user constructs streams, copies and drops
`shared_ptr`s to them, and gets them from the device.
-/
inductive Label where
  | construct
  | copy (stream : Stream)
  | getStreamByID (stream : Stream)
  | drop (stream : Stream)
  | addStreamAsync (stream : Stream) (dir : Direction)
  | removeStreamAsync (stream : Stream) (dir : Direction)
  | setPropertyAsync (stream : Stream)
  | setHost
  | attachOwner (owner : Nat)
  | detachOwner (owner : Nat)
  | performConfigurationChange (reqID : Nat)
  | abortConfigurationChange (reqID : Nat)
  | proceed
deriving DecidableEq

namespace State

variable (state : State)

def acquire (holder : Holder) (stream : Stream) : State :=
  { state with references := state.references.acquire holder stream }

def release (holder : Holder) (stream : Stream) : State :=
  { state with references := state.references.release holder stream }

def goto (phase : Phase) : State := { state with phase := phase }

/-- A closure is copied or moved into a place that keeps what it captures. -/
def keepCaptured (holder : Holder) (closure : Closure) : State :=
  match closure.captured with
  | some stream => state.acquire holder stream
  | none => state

/-- A closure is destroyed. -/
def dropCaptured (holder : Holder) (closure : Closure) : State :=
  match closure.captured with
  | some stream => state.release holder stream
  | none => state

/-- The closure stored under a request ID. -/
def stored (reqID : Nat) : Option Closure :=
  (state.configuration.pendingConfigurationRequests.find? reqID).join

/-- The closure stored under a request ID is destroyed, as its entry is erased or assigned. -/
def dropStored (reqID : Nat) : State :=
  match state.stored reqID with
  | some closure => state.dropCaptured (.stored reqID) closure
  | none => state

/-- `RequestConfigurationChange()` up to the call of a function that is not stored. -/
def request (closure : Closure) : State :=
  if state.configuration.enqueues then
    let reqID := state.configuration.lastConfigurationRequestID
    {
      (state.dropStored reqID).keepCaptured (.stored reqID) closure with
      configuration := state.configuration.enqueue (some closure)
    }
  else (state.keepCaptured .running closure).goto (.applyInPlace closure)

/-- `AddStreamAsync()`. -/
def addStreamAsync (stream : Stream) (dir : Direction) : State :=
  let listed := {
    state.acquire (.streams dir) stream with
    streams := Function.update state.streams dir (state.streams dir ++ [stream])
  }
  let known :=
    if stream ∈ listed.streamByID then listed
    else { listed.acquire .streamByID stream with streamByID := insert stream listed.streamByID }
  known.request (.addStream stream dir)

/-- `RemoveStreamAsync()`. -/
def removeStreamAsync (stream : Stream) (dir : Direction) : State :=
  let unlisted := {
    state with
    streams := Function.update state.streams dir ((state.streams dir).filter (· ≠ stream))
    references := state.references.releaseAll (.streams dir) stream
  }
  let unknown := {
    unlisted with
    streamByID := unlisted.streamByID.erase stream
    references := unlisted.references.releaseAll .streamByID stream
  }
  unknown.request (.removeStream stream dir)

/-- What a closure does. Adding a stream that has an owner locks up: `AttachOwner()` asks the
owner to remove the stream, but the owner is still locked by `AddOwnedObject()`. `SetXImpl()`
changes nothing else than the stream.
-/
def apply : Closure → Option State
  | .addStream stream dir =>
      match state.ownedObjects stream with
      | some _ => none
      | none =>
          some
            {
              state.acquire .owned stream with
              numStreams := Function.update state.numStreams dir (state.numStreams dir + 1)
              ownedObjects := Function.update state.ownedObjects stream (some dir)
            }
  | .removeStream stream dir =>
      let counted := {
        state with
        numStreams := Function.update state.numStreams dir (state.numStreams dir - 1)
      }
      match state.ownedObjects stream with
      | none => some counted
      | some _ =>
          some
            {
              counted.release .owned stream with
              ownedObjects := Function.update state.ownedObjects stream none
            }
  | .setProperty _ => some state

/-- The next step of the operation that holds `writeMutex_`. -/
def proceed : Option State :=
  match state.phase with
  | .idle => none
  | .applyInPlace closure => (state.apply closure).map (·.goto (.destroy closure))
  | .perform reqID closure => (state.apply closure).map (·.goto (.erase reqID closure))
  | .erase reqID closure =>
      some
        {
          (state.dropStored reqID).goto (.destroy closure) with
          configuration := (state.configuration.erase reqID).leaveHandler
        }
  | .drain =>
      match state.configuration.pendingConfigurationRequests.min? with
      | none => some (state.goto .idle)
      | some (_, none) => none
      | some (reqID, some closure) => some (state.goto (.drainCall reqID closure))
  | .drainCall reqID closure => (state.apply closure).map (·.goto (.drainErase reqID closure))
  | .drainErase reqID _ =>
      some
        {
          (state.dropStored reqID).goto .drain with
          configuration := state.configuration.erase reqID
        }
  | .destroy closure => some ((state.dropCaptured .running closure).goto .idle)

/-- `PerformConfigurationChange()` up to the call of the function. -/
def performConfigurationChange (reqID : Nat) : State :=
  match state.stored reqID with
  | none => { state with configuration := state.configuration.erase reqID }
  | some closure =>
      {
        (state.keepCaptured .running closure).goto (.perform reqID closure) with
        configuration := state.configuration.enterHandler
      }

/-- `AbortConfigurationChange()`. -/
def abortConfigurationChange (reqID : Nat) : State :=
  { state.dropStored reqID with configuration := state.configuration.erase reqID }

end State

/-- One step, if it can happen. The operations of the device wait for `writeMutex_`, and the
user passes `shared_ptr`s that it has.
-/
def advance (state : State) : Label → Option State
  | .construct =>
      some { state.acquire .user state.constructed with constructed := state.constructed + 1 }
  | .copy stream =>
      if (.user, stream) ∈ state.references then some (state.acquire .user stream) else none
  | .getStreamByID stream =>
      if stream ∈ state.streamByID then some (state.acquire .user stream) else none
  | .drop stream =>
      if (.user, stream) ∈ state.references then some (state.release .user stream) else none
  | .addStreamAsync stream dir =>
      if state.phase = .idle ∧ (.user, stream) ∈ state.references then
        some (state.addStreamAsync stream dir)
      else none
  | .removeStreamAsync stream dir =>
      if state.phase = .idle ∧ (.user, stream) ∈ state.references then
        some (state.removeStreamAsync stream dir)
      else none
  | .setPropertyAsync stream =>
      if state.phase = .idle ∧ (.user, stream) ∈ state.references then
        some (state.request (.setProperty stream))
      else none
  | .setHost => some { state with configuration := { state.configuration with host := true } }
  | .attachOwner owner =>
      if state.phase = .idle ∧ !state.configuration.hasOwner then
        some { state with configuration := state.configuration.attachOwner owner }
      else none
  | .detachOwner owner =>
      if state.phase = .idle ∧ state.configuration.hasOwner then
        some { state.goto .drain with configuration := state.configuration.detachOwner owner }
      else none
  | .performConfigurationChange reqID =>
      if state.phase = .idle then some (state.performConfigurationChange reqID) else none
  | .abortConfigurationChange reqID =>
      if state.phase = .idle then some (state.abortConfigurationChange reqID) else none
  | .proceed => state.proceed

/-- A device without streams and pending changes. -/
structure New (state : State) : Prop where
  pending : state.configuration.pendingConfigurationRequests = .empty
  streams : ∀ dir, state.streams dir = []
  streamByID : state.streamByID = ∅
  ownedObjects : ∀ stream, state.ownedObjects stream = none
  references : state.references = 0
  phase : state.phase = .idle

/-- All runs of a device with its streams. -/
def system : System State Label := .ofFunction New advance

end Aspl.Device.StreamChanges
