import Aspl.Base.SharedLock
import Aspl.Base.System
import Mathlib.Logic.Function.Basic

/-! `DoubleBuffer<T>`: threads that read and set the value, one atomic access, lock operation
or assignment a step.
Each call of `Set()` has a number: the constructor's is 0, the others count the order in which
they lock `writeMutex_`.
-/

namespace Aspl.DoubleBuffer

universe u v

/-- `std::numeric_limits<SInt64>::max()`. -/
def maxIndex : Int := 9223372036854775807

/-- The number of buffer indices that are not negative. -/
def indexCount : Nat := 9223372036854775808

/-- `newIndex` of `Set()`: the maximum overflows to zero. -/
def nextIndex (oldIndex : Int) : Int :=
  if oldIndex < maxIndex then oldIndex + 1 else 0

abbrev Slot := Fin 2

/-- `GetBufferAt()`: which of the two buffers has an index. -/
def getBufferAt (index : Int) : Slot := Fin.ofNat 2 (index % 2).toNat

structure Buffer (Thread : Type u) (Value : Type v) where
  value : Option Value := none
  index : Int := -1
  mutex : SharedLock Thread := .free

/-- The local variables of a read: the index that was loaded, how many calls of `Set()` had
begun and which one had switched last at that load, and which had returned when the read started.
-/
structure Read where
  index : Int
  begun : Nat
  observed : Nat
  since : Nat

/-- The local variables of a call of `Set()`, and its number. -/
structure SetCall (Value : Type v) where
  value : Value
  number : Nat
  oldIndex : Int

def SetCall.newIndex {Value : Type v} (call : SetCall Value) : Int := nextIndex call.oldIndex

/-- The program points of a thread; each is named by what the thread does next. -/
inductive Pc (Value : Type v) where
  | idle
  | load (since : Nat)
  | tryLock (read : Read)
  | recheck (read : Read)
  | retry (read : Read)
  | reading (read : Read)
  | lockWrite (value : Value)
  | loadIndex (value : Value) (number : Nat)
  | storeIndex (call : SetCall Value)
  | lockNew (call : SetCall Value)
  | storeValue (call : SetCall Value)
  | unlockNew (call : SetCall Value)
  | switch (call : SetCall Value)
  | invalidate (call : SetCall Value)
  | lockOld (call : SetCall Value)
  | destroy (call : SetCall Value)
  | unlockOld (call : SetCall Value)
  | unlockWrite (call : SetCall Value)

/-- The double buffer and its threads, the values of the calls of `Set()` that have begun, and
the numbers of the calls that switched and returned last.
-/
structure State (Thread : Type u) (Value : Type v) where
  buffers : Slot → Buffer Thread Value
  currentIndex : Int
  writeMutex : Option Thread
  pc : Thread → Pc Value
  stored : List Value
  switched : Nat
  returned : Nat

/-- A thread starts to read or to set a value, or goes on. -/
inductive Move (Value : Type v) where
  | read
  | set (value : Value)
  | proceed
  | failTryLock

variable {Thread : Type u} {Value : Type v} [DecidableEq Thread]

namespace State

variable (state : State Thread Value)

def bufferAt (index : Int) : Buffer Thread Value := state.buffers (getBufferAt index)

def goto (thread : Thread) (pc : Pc Value) : State Thread Value :=
  { state with pc := Function.update state.pc thread pc }

def setBuffer (index : Int) (buffer : Buffer Thread Value) : State Thread Value :=
  { state with buffers := Function.update state.buffers (getBufferAt index) buffer }

def setMutex (index : Int) (mutex : SharedLock Thread) : State Thread Value :=
  state.setBuffer index { state.bufferAt index with mutex := mutex }

def setIndex (index value : Int) : State Thread Value :=
  state.setBuffer index { state.bufferAt index with index := value }

def setValue (index : Int) (value : Option Value) : State Thread Value :=
  state.setBuffer index { state.bufferAt index with value := value }

end State

/-- The next step of a read. `std::shared_mutex::try_lock_shared()` may also fail spuriously. -/
def advanceRead (state : State Thread Value) (thread : Thread)
    : Pc Value → Move Value → Option (State Thread Value)
  | .load since, .proceed =>
      some
        (state.goto thread
          (.tryLock
            {
              index := state.currentIndex
              begun := state.stored.length
              observed := state.switched
              since := since
            }))
  | .tryLock read, .proceed =>
      match (state.bufferAt read.index).mutex.tryLockShared thread with
      | some locked => some ((state.setMutex read.index locked).goto thread (.recheck read))
      | none => some (state.goto thread (.load read.since))
  | .tryLock read, .failTryLock => some (state.goto thread (.load read.since))
  | .recheck read, .proceed =>
      if (state.bufferAt read.index).index = read.index then
        some (state.goto thread (.reading read))
      else
        some (state.goto thread (.retry read))
  | .retry read, .proceed =>
      some
        ((state.setMutex read.index
          ((state.bufferAt read.index).mutex.unlockShared thread)).goto thread
            (.load read.since))
  | .reading read, .proceed =>
      some
        ((state.setMutex read.index
          ((state.bufferAt read.index).mutex.unlockShared thread)).goto thread .idle)
  | _, _ => none

/-- The next step of `Set()`; `isTrivial` is `std::is_trivial<T>::value`. -/
def advanceSet (isTrivial : Bool) (state : State Thread Value) (thread : Thread)
    : Pc Value → Option (State Thread Value)
  | .lockWrite value =>
      match state.writeMutex with
      | some _ => none
      | none =>
          some
            {
              state.goto thread (.loadIndex value state.stored.length) with
              writeMutex := some thread
              stored := state.stored ++ [value]
            }
  | .loadIndex value number =>
      some
        (state.goto thread
          (.storeIndex { value := value, number := number, oldIndex := state.currentIndex }))
  | .storeIndex call =>
      some ((state.setIndex call.newIndex call.newIndex).goto thread (.lockNew call))
  | .lockNew call =>
      ((state.bufferAt call.newIndex).mutex.lock thread).map
        (fun locked => (state.setMutex call.newIndex locked).goto thread (.storeValue call))
  | .storeValue call =>
      some ((state.setValue call.newIndex (some call.value)).goto thread (.unlockNew call))
  | .unlockNew call =>
      some ((state.setMutex call.newIndex .free).goto thread (.switch call))
  | .switch call =>
      some
        {
          state.goto thread (if isTrivial then .unlockWrite call else .invalidate call) with
          currentIndex := call.newIndex
          switched := call.number
        }
  | .invalidate call => some ((state.setIndex call.oldIndex (-1)).goto thread (.lockOld call))
  | .lockOld call =>
      ((state.bufferAt call.oldIndex).mutex.lock thread).map
        (fun locked => (state.setMutex call.oldIndex locked).goto thread (.destroy call))
  | .destroy call => some ((state.setValue call.oldIndex none).goto thread (.unlockOld call))
  | .unlockOld call =>
      some ((state.setMutex call.oldIndex .free).goto thread (.unlockWrite call))
  | .unlockWrite call =>
      some { state.goto thread .idle with writeMutex := none, returned := call.number }
  | _ => none

/-- One step of one thread, if it can happen. -/
def advance (isTrivial : Bool) (state : State Thread Value)
    : Thread × Move Value → Option (State Thread Value)
  | (thread, move) =>
      match state.pc thread, move with
      | .idle, .read => some (state.goto thread (.load state.returned))
      | .idle, .set value => some (state.goto thread (.lockWrite value))
      | pc, .proceed =>
          (advanceRead state thread pc .proceed).or (advanceSet isTrivial state thread pc)
      | pc, move => advanceRead state thread pc move

/-- After the constructor has set a value no thread has done anything. -/
structure Constructed (state : State Thread Value) : Prop where
  currentIndex : state.currentIndex = 1
  other : state.buffers 0 = {}
  current : ∃ value, state.stored = [value] ∧ state.buffers 1 = { value := value, index := 1 }
  writeMutex : state.writeMutex = none
  pc : ∀ thread, state.pc thread = .idle
  switched : state.switched = 0
  returned : state.returned = 0

/-- All interleavings of reads and sets. -/
def system (Thread : Type u) (Value : Type v) [DecidableEq Thread] (isTrivial : Bool)
    : System (State Thread Value) (Thread × Move Value) :=
  .ofFunction Constructed (advance isTrivial)

end Aspl.DoubleBuffer
