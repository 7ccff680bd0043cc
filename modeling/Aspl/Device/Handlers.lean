import Aspl.Base.Locking
import Aspl.Base.References

/-! The handlers of `Device` and the threads that replace and call them, one lock operation,
copy, release or switch of a handler a step.
Each operation of the device copies the `shared_ptr` of its handler, keeps the raw pointer and
calls back through it under its own mutex; user code in a callback may call the device again.
-/

namespace Aspl.Device.Handlers

universe u

/-- Handler objects, numbered by the order of their construction. -/
abbrev Handler := Nat

/-- `controlHandler_` and `ioHandler_`. -/
inductive Slot where
  | controlHandler
  | ioHandler
deriving DecidableEq

inductive Mutex where
  | writeMutex
  | ioMutex
deriving DecidableEq

/-- The methods of the two handlers that the modelled operations invoke. -/
inductive Callback where
  | onAddClient
  | onRemoveClient
  | onStartIO
  | onStopIO
  | onReadClientInput
  | onProcessClientInput
  | onProcessClientOutput
  | onWriteClientOutput
  | onProcessMixedOutput
  | onWriteMixedOutput
deriving DecidableEq

/-- The `operationID` of `DoIOOperation()`; the device ignores `other` ones. -/
inductive IOOperation where
  | readInput
  | processInput
  | mixOutput
  | processMix
  | writeMix
  | other
deriving DecidableEq

inductive Operation where
  | addClient
  | removeClient
  | startIO
  | stopIO
  | doIOOperation (operationID : IOOperation)
deriving DecidableEq

namespace Operation

/-- The mutex that an operation holds. -/
def mutex : Operation → Mutex
  | addClient | removeClient => .writeMutex
  | startIO | stopIO | doIOOperation _ => .ioMutex

/-- The handler that an operation gets. -/
def slot : Operation → Slot
  | addClient | removeClient | startIO | stopIO => .controlHandler
  | doIOOperation _ => .ioHandler

/-- The methods that an operation invokes on its handler, in order. -/
def callbacks : Operation → List Callback
  | addClient => [.onAddClient]
  | removeClient => [.onRemoveClient]
  | startIO => Callback.onStartIO :: []
  | stopIO => Callback.onStopIO :: []
  | doIOOperation .readInput => [.onReadClientInput]
  | doIOOperation .processInput => [.onProcessClientInput]
  | doIOOperation .mixOutput => [.onProcessClientOutput, .onWriteClientOutput]
  | doIOOperation .processMix => [.onProcessMixedOutput]
  | doIOOperation .writeMix => [.onWriteMixedOutput]
  | doIOOperation .other => []

end Operation

/-- A callback that is running, and those that its operation invokes after it. -/
structure Call where
  operation : Operation
  handler : Handler
  callback : Callback
  rest : List Callback
deriving DecidableEq

/-- What holds a reference to a handler: a `shared_ptr` of the user, the current value of a
slot, the argument of a setter, the value that a setter has replaced and not yet destroyed, or
the copy from which an operation takes the raw pointer.
-/
inductive Holder (Thread : Type u) where
  | user
  | current (slot : Slot)
  | argument (thread : Thread)
  | replaced (thread : Thread)
  | copy (thread : Thread)
deriving DecidableEq

/-- The program points of a thread; each is named by what the thread does next. `outside` is
code of the host or of the user, also inside a callback. A setter's argument may be null.
-/
inductive Pc where
  | outside
  | lock (operation : Operation)
  | getHandler (operation : Operation)
  | destroyCopy (operation : Operation) (handler : Handler)
  | invoke (operation : Operation) (handler : Handler) (callback : Callback)
    (rest : List Callback)
  | unlock (operation : Operation)
  | lockSet (slot : Slot) (handler : Option Handler)
  | store (slot : Slot) (handler : Option Handler)
  | destroyReplaced (handler : Handler)
  | unlockSet
deriving DecidableEq

/-- The handlers of a device and its threads; `calls` has the callbacks that a thread is in,
the innermost first.
-/
structure State (Thread : Type u) where
  current : Slot → Handler
  references : References (Holder Thread) Handler
  mutex : Mutex → RecursiveLock Thread
  pc : Thread → Pc
  calls : Thread → List Call
  constructed : Nat

/-- What a thread does. Outside the device it constructs handlers, copies and drops `shared_ptr`s
to them, calls operations and setters, and returns from callbacks. Inside, it goes on, or it
leaves an operation early, on the branches that return before the handler is needed.
-/
inductive Move where
  | construct
  | copy (handler : Handler)
  | drop (handler : Handler)
  | call (operation : Operation)
  | set (slot : Slot) (handler : Option Handler)
  | returnCallback
  | proceed
  | leave
deriving DecidableEq

variable {Thread : Type u} [DecidableEq Thread]

namespace State

variable (state : State Thread)

def goto (thread : Thread) (pc : Pc) : State Thread :=
  { state with pc := Function.update state.pc thread pc }

def setCalls (thread : Thread) (calls : List Call) : State Thread :=
  { state with calls := Function.update state.calls thread calls }

def acquire (holder : Holder Thread) (handler : Handler) : State Thread :=
  { state with references := state.references.acquire holder handler }

def release (holder : Holder Thread) (handler : Handler) : State Thread :=
  { state with references := state.references.release holder handler }

def setMutex (mutex : Mutex) (lock : RecursiveLock Thread) : State Thread :=
  { state with mutex := Function.update state.mutex mutex lock }

/-- Lock a mutex and go on, unless another thread holds it. -/
def lockThen (thread : Thread) (mutex : Mutex) (pc : Pc) : Option (State Thread) :=
  ((state.mutex mutex).lock thread).map (fun lock => (state.setMutex mutex lock).goto thread pc)

/-- Unlock a mutex and return to the caller. -/
def unlockThen (thread : Thread) (mutex : Mutex) : State Thread :=
  (state.setMutex mutex (state.mutex mutex).unlock).goto thread .outside

/-- `DoubleBuffer::Set()` up to the switch: the slot takes over the reference of the new value,
and the setter keeps that of the old value until it destroys it.
-/
def switch (thread : Thread) (slot : Slot) (handler : Handler) : State Thread :=
  let old := state.current slot
  {
    (((state.release (.current slot) old).acquire (.replaced thread) old).acquire
      (.current slot) handler).goto thread (.destroyReplaced old) with
    current := Function.update state.current slot handler
  }

end State

/-- The next step of a thread inside the device. -/
def proceed (state : State Thread) (thread : Thread) : Pc → Option (State Thread)
  | .outside => none
  | .lock operation => state.lockThen thread operation.mutex (.getHandler operation)
  | .getHandler operation =>
      let handler := state.current operation.slot
      some ((state.acquire (.copy thread) handler).goto thread (.destroyCopy operation handler))
  | .destroyCopy operation handler =>
      match operation.callbacks with
      | [] => some ((state.release (.copy thread) handler).goto thread (.unlock operation))
      | callback :: rest =>
          some
            ((state.release (.copy thread) handler).goto thread
              (.invoke operation handler callback rest))
  | .invoke operation handler callback rest =>
      let call : Call := {
        operation := operation
        handler := handler
        callback := callback
        rest := rest
      }
      some ((state.setCalls thread (call :: state.calls thread)).goto thread .outside)
  | .unlock operation => some (state.unlockThen thread operation.mutex)
  | .lockSet slot handler => state.lockThen thread .writeMutex (.store slot handler)
  | .store slot (some handler) =>
      some ((state.release (.argument thread) handler).switch thread slot handler)
  | .store slot none =>
      -- a no-op handler takes the place of null
      let handler := state.constructed
      some ({ state with constructed := handler + 1 }.switch thread slot handler)
  | .destroyReplaced handler =>
      some ((state.release (.replaced thread) handler).goto thread .unlockSet)
  | .unlockSet => some (state.unlockThen thread .writeMutex)

/-- What a thread outside the device can do. -/
def actOutside (state : State Thread) (thread : Thread) : Move → Option (State Thread)
  | .construct =>
      let handler := state.constructed
      some ({ state with constructed := handler + 1 }.acquire .user handler)
  | .copy handler =>
      if (.user, handler) ∈ state.references then some (state.acquire .user handler) else none
  | .drop handler =>
      if (.user, handler) ∈ state.references then some (state.release .user handler) else none
  | .call operation => some (state.goto thread (.lock operation))
  | .set slot none => some (state.goto thread (.lockSet slot none))
  | .set slot (some handler) =>
      if (.user, handler) ∈ state.references then
        some ((state.acquire (.argument thread) handler).goto thread (.lockSet slot handler))
      else none
  | .returnCallback =>
      match state.calls thread with
      | [] => none
      | call :: outer =>
          match call.rest with
          | [] => some ((state.setCalls thread outer).goto thread (.unlock call.operation))
          | callback :: rest =>
              some
                ((state.setCalls thread outer).goto thread
                  (.invoke call.operation call.handler callback rest))
  | .proceed | .leave => none

/-- One step of one thread, if it can happen. -/
def advance (state : State Thread) : Thread × Move → Option (State Thread)
  | (thread, move) =>
      match state.pc thread, move with
      | .outside, move => actOutside state thread move
      | .getHandler operation, .leave => some (state.goto thread (.unlock operation))
      | pc, .proceed => proceed state thread pc
      | _, _ => none

/-- After the constructor has set no-op handlers, used by no thread yet. -/
structure Constructed (state : State Thread) : Prop where
  controlHandler : state.current .controlHandler = 0
  ioHandler : state.current .ioHandler = 1
  references
    : state.references = {(.current .controlHandler, 0), (.current .ioHandler, 1)}
  mutex : ∀ mutex, state.mutex mutex = .free
  pc : ∀ thread, state.pc thread = .outside
  calls : ∀ thread, state.calls thread = []
  constructed : state.constructed = 2

/-- All interleavings of the operations and setters with user code. -/
def system (Thread : Type u) [DecidableEq Thread] : System (State Thread) (Thread × Move) :=
  .ofFunction Constructed advance

end Aspl.Device.Handlers
