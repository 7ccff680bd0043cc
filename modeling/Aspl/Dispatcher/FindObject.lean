import Aspl.Base.SharedLock
import Aspl.Base.System
import Aspl.Dispatcher.Registration
import Mathlib.Logic.Function.Basic

/-! Threads that find, register and unregister objects in `Dispatcher`: one atomic access, lock
operation or switch of the registration map a step.
A reader keeps the map that it has got, so that registrations stay within its reach that are no
longer in the current map. Each registration has a number, by the order of their construction.
-/

namespace Aspl.Dispatcher.Finding

open CoreAudio

universe u v

/-- `Dispatcher::Registration`, and the object that it was constructed with. -/
structure Registration (Thread : Type u) (Object : Type v) where
  target : Option Object := none
  object : Option Object := none
  mutex : SharedLock Thread := .free

abbrev Registrations := OrderedMap AudioObjectID Nat

/-- The program points of a thread; each is named by what the thread does next.
A call of `FindObject()` carries the registrations that had been unregistered when it started.
-/
inductive Pc (Object : Type v) where
  | idle
  -- FindObject
  | getReadLock (objectID : AudioObjectID) (since : List Nat)
  | find (objectID : AudioObjectID) (registeredObjects : Registrations) (since : List Nat)
  | tryLock (registration : Nat) (since : List Nat)
  | load (registration : Nat) (since : List Nat)
  | sharedFromThis (registration : Nat) (object : Object) (since : List Nat)
  | unlock (registration : Nat) (result : Option Object) (since : List Nat)
  | returnFound (found : Option (Nat × Object)) (since : List Nat)
  -- UnregisterObject
  | lockUnregister (objectID : AudioObjectID)
  | getUnregister (objectID : AudioObjectID)
  | storeNull (objectID : AudioObjectID) (registration : Nat)
    (registeredObjects : Registrations)
  | erase (objectID : AudioObjectID) (registration : Nat) (registeredObjects : Registrations)
  | lockRegistration (objectID : AudioObjectID) (registration : Nat)
  | unlockRegistration (objectID : AudioObjectID) (registration : Nat)
  | returnUnregister (removed : Option (AudioObjectID × Nat))
  -- RegisterObject
  | lockRegister (object : Object) (objectID : AudioObjectID)
  | getRegister (object : Object) (objectID : AudioObjectID)
  | insert (object : Object) (objectID : AudioObjectID) (registeredObjects : Registrations)
  | returnRegister (result : AudioObjectID)

/-- The dispatcher and its threads. `locked` and `returned` list the registrations that calls of
`UnregisterObject()` have locked, and for which they have returned.
-/
structure State (Thread : Type u) (Object : Type v) where
  allocator : Allocator
  registeredObjects : Registrations
  registrations : Nat → Registration Thread Object
  constructed : Nat
  registrationMutex : Option Thread
  pc : Thread → Pc Object
  locked : List Nat
  returned : List Nat

/-- A thread calls a method or goes on. To `fail` is to go on where `try_lock_shared()` fails
spuriously or `shared_from_this()` throws `std::bad_weak_ptr`.
-/
inductive Move (Object : Type v) where
  | find (objectID : AudioObjectID)
  | unregister (objectID : AudioObjectID)
  | register (object : Object) (objectID : AudioObjectID)
  | proceed
  | fail

variable {Thread : Type u} {Object : Type v} [DecidableEq Thread]

namespace State

variable (state : State Thread Object)

/-- The fields that `registrationMutex` guards. -/
def registry : Registry Nat where
  allocator := state.allocator
  registeredObjects := state.registeredObjects

def goto (thread : Thread) (pc : Pc Object) : State Thread Object :=
  { state with pc := Function.update state.pc thread pc }

def setRegistration (registration : Nat) (value : Registration Thread Object)
    : State Thread Object :=
  { state with registrations := Function.update state.registrations registration value }

def setMutex (registration : Nat) (mutex : SharedLock Thread) : State Thread Object :=
  state.setRegistration registration { state.registrations registration with mutex := mutex }

def storeObject (registration : Nat) (object : Option Object) : State Thread Object :=
  state.setRegistration registration { state.registrations registration with object := object }

end State

/-- The next step of `FindObject()`. -/
def advanceFind (state : State Thread Object) (thread : Thread)
    : Pc Object → Option (State Thread Object)
  | .getReadLock objectID since =>
      some (state.goto thread (.find objectID state.registeredObjects since))
  | .find objectID registeredObjects since =>
      match registeredObjects.find? objectID with
      | none => some (state.goto thread (.returnFound none since))
      | some registration => some (state.goto thread (.tryLock registration since))
  | .tryLock registration since =>
      match (state.registrations registration).mutex.tryLockShared thread with
      | none => some (state.goto thread (.returnFound none since))
      | some mutex =>
          some ((state.setMutex registration mutex).goto thread (.load registration since))
  | .load registration since =>
      match (state.registrations registration).object with
      | none => some (state.goto thread (.unlock registration none since))
      | some object =>
          some (state.goto thread (.sharedFromThis registration object since))
  | .sharedFromThis registration object since =>
      some (state.goto thread (.unlock registration (some object) since))
  | .unlock registration result since =>
      let mutex := (state.registrations registration).mutex.unlockShared thread
      some
        ((state.setMutex registration mutex).goto thread
          (.returnFound (result.map (fun object => (registration, object))) since))
  | .returnFound _ _ => some (state.goto thread .idle)
  | _ => none

/-- The next step of `FindObject()` where something that may fail does. -/
def failFind (state : State Thread Object) (thread : Thread)
    : Pc Object → Option (State Thread Object)
  | .tryLock _ since => some (state.goto thread (.returnFound none since))
  | .sharedFromThis registration _ since =>
      some (state.goto thread (.unlock registration none since))
  | _ => none

/-- Lock `registrationMutex_` and go on, if no thread holds it. -/
def lockMutex (state : State Thread Object) (thread : Thread) (pc : Pc Object)
    : Option (State Thread Object) :=
  match state.registrationMutex with
  | some _ => none
  | none => some { state.goto thread pc with registrationMutex := some thread }

/-- The next step of `UnregisterObject()`. The last one frees the ID and unlocks the mutex. -/
def advanceUnregister (state : State Thread Object) (thread : Thread)
    : Pc Object → Option (State Thread Object)
  | .lockUnregister objectID => lockMutex state thread (.getUnregister objectID)
  | .getUnregister objectID =>
      if objectID = kAudioObjectUnknown then
        some (state.goto thread (.returnUnregister none))
      else
        match state.registeredObjects.find? objectID with
        | none => some (state.goto thread (.returnUnregister none))
        | some registration =>
            some
              (state.goto thread (.storeNull objectID registration state.registeredObjects))
  | .storeNull objectID registration registeredObjects =>
      some
        ((state.storeObject registration none).goto thread
          (.erase objectID registration registeredObjects))
  | .erase objectID registration registeredObjects =>
      some
        {
          state.goto thread (.lockRegistration objectID registration) with
          registeredObjects := registeredObjects.erase objectID
        }
  | .lockRegistration objectID registration =>
      ((state.registrations registration).mutex.lock thread).map (fun mutex =>
        {
          (state.setMutex registration mutex).goto thread
            (.unlockRegistration objectID registration) with
          locked := registration :: state.locked
        })
  | .unlockRegistration objectID registration =>
      some
        ((state.setMutex registration .free).goto thread
          (.returnUnregister (some (objectID, registration))))
  | .returnUnregister none => some { state.goto thread .idle with registrationMutex := none }
  | .returnUnregister (some (objectID, registration)) =>
      some
        {
          state.goto thread .idle with
          allocator := state.allocator.freeID objectID
          registrationMutex := none
          returned := registration :: state.returned
        }
  | _ => none

/-- The next step of `RegisterObject()`. An ID is allocated if none was given, and is lost if it is
registered already.
-/
def advanceRegister (state : State Thread Object) (thread : Thread)
    : Pc Object → Option (State Thread Object)
  | .lockRegister object objectID => lockMutex state thread (.getRegister object objectID)
  | .getRegister object requested =>
      let chosen := state.registry.chooseID requested
      match state.registeredObjects.find? chosen.1 with
      | some _ =>
          some
            { state.goto thread (.returnRegister kAudioObjectUnknown) with allocator := chosen.2 }
      | none =>
          some
            {
              state.goto thread (.insert object chosen.1 state.registeredObjects) with
              allocator := chosen.2
            }
  | .insert object objectID registeredObjects =>
      some
        {
          (state.setRegistration state.constructed
            { target := some object, object := some object }).goto thread
              (.returnRegister objectID) with
          registeredObjects := registeredObjects.insert objectID state.constructed
          constructed := state.constructed + 1
        }
  | .returnRegister _ => some { state.goto thread .idle with registrationMutex := none }
  | _ => none

/-- One step of one thread, if it can happen. -/
def advance (state : State Thread Object)
    : Thread × Move Object → Option (State Thread Object)
  | (thread, move) =>
      match state.pc thread, move with
      | .idle, .find objectID => some (state.goto thread (.getReadLock objectID state.returned))
      | .idle, .unregister objectID => some (state.goto thread (.lockUnregister objectID))
      | .idle, .register object objectID =>
          some (state.goto thread (.lockRegister object objectID))
      | pc, .proceed =>
          ((advanceFind state thread pc).or (advanceUnregister state thread pc)).or
            (advanceRegister state thread pc)
      | pc, .fail => failFind state thread pc
      | _, _ => none

/-- A new dispatcher, used by no thread yet. -/
structure New (hintMaximumID : AudioObjectID) (state : State Thread Object) : Prop where
  allocator : state.allocator = { desiredMaximumID := hintMaximumID }
  registeredObjects : state.registeredObjects = .empty
  registrations : ∀ registration, state.registrations registration = {}
  constructed : state.constructed = 0
  registrationMutex : state.registrationMutex = none
  pc : ∀ thread, state.pc thread = .idle
  locked : state.locked = []
  returned : state.returned = []

/-- All interleavings of calls of the three methods. -/
def system (Thread : Type u) (Object : Type v) [DecidableEq Thread]
    (hintMaximumID : AudioObjectID)
    : System (State Thread Object) (Thread × Move Object) :=
  .ofFunction (New hintMaximumID) advance

end Aspl.Dispatcher.Finding
