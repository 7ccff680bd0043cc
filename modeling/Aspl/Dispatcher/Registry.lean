import Aspl.Base.Simulation
import Aspl.Dispatcher.FindObjectSafety

/-! A dispatcher is an atomic registry: what threads see of it, the results of their calls included,
they could also see of a registry that each call looks up or changes in one step.
-/

namespace Aspl.Dispatcher.Finding

open CoreAudio

universe u v

/-- What threads see: their calls, what they return, and that something in a call of `FindObject()`
has failed.
-/
inductive Event (Thread : Type u) (Object : Type v) where
  | findCalled (thread : Thread) (objectID : AudioObjectID)
  | findFailed (thread : Thread)
  | findReturned (thread : Thread) (result : Option Object)
  | registerCalled (thread : Thread) (object : Object) (objectID : AudioObjectID)
  | registerReturned (thread : Thread) (result : AudioObjectID)
  | unregisterCalled (thread : Thread) (objectID : AudioObjectID)
  | unregisterReturned (thread : Thread)

-----------------------------------------------------------------------------------------
-- The registry
-----------------------------------------------------------------------------------------

namespace Atomic

/-- A call has accessed the registry or not; if it has, it knows what to return. -/
inductive Pc (Object : Type v) where
  | idle
  | finding (objectID : AudioObjectID)
  | found (result : Option Object)
  | registering (object : Object) (objectID : AudioObjectID)
  | registered (result : AudioObjectID)
  | unregistering (objectID : AudioObjectID)
  | unregistered

structure State (Thread : Type u) (Object : Type v) where
  registry : Registry Object
  pc : Thread → Pc Object

/-- Any number of threads may look at the same moment. Only `enter` and `remove` change the
registry.
-/
inductive Move (Thread : Type u) (Object : Type v) where
  | find (thread : Thread) (objectID : AudioObjectID)
  | look (threads : Thread → Bool)
  | fail (thread : Thread)
  | register (thread : Thread) (object : Object) (objectID : AudioObjectID)
  | enter (thread : Thread)
  | unregister (thread : Thread) (objectID : AudioObjectID)
  | remove (thread : Thread)
  | leave (thread : Thread)

variable {Thread : Type u} {Object : Type v} [DecidableEq Thread]

def State.goto (atomic : State Thread Object) (thread : Thread) (pc : Pc Object)
    : State Thread Object :=
  { atomic with pc := Function.update atomic.pc thread pc }

/-- A thread that looks for an object looks at the registry. -/
def Pc.look (registry : Registry Object) : Pc Object → Pc Object
  | .finding objectID => .found (registry.registeredObjects.find? objectID)
  | pc => pc

omit [DecidableEq Thread] in
def State.look (atomic : State Thread Object) (threads : Thread → Bool) : State Thread Object :=
  { atomic with
    pc := fun thread =>
      if threads thread then (atomic.pc thread).look atomic.registry else atomic.pc thread }

def advance (atomic : State Thread Object)
    : Move Thread Object → Option (State Thread Object)
  | .find thread objectID =>
      match atomic.pc thread with
      | .idle => some (atomic.goto thread (.finding objectID))
      | _ => none
  | .look threads => some (atomic.look threads)
  | .fail thread =>
      match atomic.pc thread with
      | .finding _ | .found _ => some (atomic.goto thread (.found none))
      | _ => none
  | .register thread object objectID =>
      match atomic.pc thread with
      | .idle => some (atomic.goto thread (.registering object objectID))
      | _ => none
  | .enter thread =>
      match atomic.pc thread with
      | .registering object objectID =>
          let entered := atomic.registry.registerObject object objectID
          some { atomic.goto thread (.registered entered.1) with registry := entered.2 }
      | _ => none
  | .unregister thread objectID =>
      match atomic.pc thread with
      | .idle => some (atomic.goto thread (.unregistering objectID))
      | _ => none
  | .remove thread =>
      match atomic.pc thread with
      | .unregistering objectID =>
          some { atomic.goto thread .unregistered with
            registry := atomic.registry.unregisterObject objectID }
      | _ => none
  | .leave thread =>
      match atomic.pc thread with
      | .found _ | .registered _ | .unregistered => some (atomic.goto thread .idle)
      | _ => none

def event (atomic : State Thread Object) (move : Move Thread Object)
    (_ : State Thread Object)
    : Option (Event Thread Object) :=
  match move with
  | .find thread objectID => some (.findCalled thread objectID)
  | .fail thread => some (.findFailed thread)
  | .register thread object objectID => some (.registerCalled thread object objectID)
  | .unregister thread objectID => some (.unregisterCalled thread objectID)
  | .leave thread =>
      match atomic.pc thread with
      | .found result => some (.findReturned thread result)
      | .registered result => some (.registerReturned thread result)
      | .unregistered => some (.unregisterReturned thread)
      | _ => none
  | .look _ | .enter _ | .remove _ => none

/-- A new registry, used by no thread yet. -/
structure New (hintMaximumID : AudioObjectID) (atomic : State Thread Object) : Prop where
  registry : atomic.registry = .new hintMaximumID
  pc : ∀ thread, atomic.pc thread = .idle

def system (Thread : Type u) (Object : Type v) [DecidableEq Thread]
    (hintMaximumID : AudioObjectID)
    : System (State Thread Object) (Move Thread Object) :=
  .ofFunction (New hintMaximumID) advance

end Atomic

variable {Thread : Type u} {Object : Type v}

/-- What a step of the dispatcher shows. -/
def event (state : State Thread Object) (label : Thread × Move Object)
    (_ : State Thread Object)
    : Option (Event Thread Object) :=
  match state.pc label.1, label.2 with
  | .idle, .find objectID => some (.findCalled label.1 objectID)
  | .idle, .register object objectID => some (.registerCalled label.1 object objectID)
  | .idle, .unregister objectID => some (.unregisterCalled label.1 objectID)
  | .returnFound found _, .proceed => some (.findReturned label.1 (found.map Prod.snd))
  | .returnRegister result, .proceed => some (.registerReturned label.1 result)
  | .returnUnregister _, .proceed => some (.unregisterReturned label.1)
  | _, .fail => some (.findFailed label.1)
  | _, _ => none

-----------------------------------------------------------------------------------------
-- The registry that a dispatcher is
-----------------------------------------------------------------------------------------

/-- The object that is registered under an ID, unless its registration has been marked as unusable.
-/
def State.usable (state : State Thread Object) (objectID : AudioObjectID) : Option Object :=
  (state.registeredObjects.find? objectID).bind
    (fun registration => (state.registrations registration).object)

/-- A thread that has got a registration will find the object, which is in the registry still, or
knows that there is none.
-/
def Awaits (state : State Thread Object) (image : Atomic.Pc Object) (objectID : AudioObjectID)
    (registration : Nat)
    : Prop :=
  match (state.registrations registration).object with
  | none => image = .found none
  | some _ =>
      image = .finding objectID ∧ state.registeredObjects.find? objectID = some registration

theorem Awaits.marked {state : State Thread Object} {image : Atomic.Pc Object}
    {objectID : AudioObjectID} {registration : Nat}
    (awaited : Awaits state image objectID registration)
    (null : (state.registrations registration).object = none)
    : image = .found none := by
  rw [Awaits, null] at awaited
  exact awaited

theorem Awaits.unmarked {state : State Thread Object} {image : Atomic.Pc Object}
    {objectID : AudioObjectID} {registration : Nat}
    (awaited : Awaits state image objectID registration) {object : Object}
    (stored : (state.registrations registration).object = some object)
    : image = .finding objectID ∧ state.usable objectID = some object := by
  rw [Awaits, stored] at awaited
  refine ⟨awaited.1, ?_⟩
  rw [State.usable, awaited.2]
  exact stored

theorem Awaits.of_marked {state : State Thread Object} {objectID : AudioObjectID}
    {registration : Nat} (null : (state.registrations registration).object = none)
    : Awaits state (.found none) objectID registration := by
  rw [Awaits, null]

theorem Awaits.of_found {state : State Thread Object} {objectID : AudioObjectID}
    {registration : Nat} {object : Object}
    (stored : (state.registrations registration).object = some object)
    (found : state.registeredObjects.find? objectID = some registration)
    : Awaits state (.finding objectID) objectID registration := by
  rw [Awaits, stored]
  exact ⟨rfl, found⟩

/-- Only the pointer and the map matter, and the map only for what is not marked. -/
theorem Awaits.keep {state next : State Thread Object} {image : Atomic.Pc Object}
    {objectID : AudioObjectID} {registration : Nat}
    (awaited : Awaits state image objectID registration)
    (same : (next.registrations registration).object = (state.registrations registration).object)
    (stays
      : ∀ object, (state.registrations registration).object = some object
        → state.registeredObjects.find? objectID = some registration
        → next.registeredObjects.find? objectID = some registration)
    : Awaits next image objectID registration := by
  rw [Awaits] at awaited ⊢
  rw [same]
  cases stored : (state.registrations registration).object with
  | none =>
      rw [stored] at awaited
      exact awaited
  | some object =>
      rw [stored] at awaited
      exact ⟨awaited.1, stays object stored awaited.2⟩

/-- A call that finds an object looks at the registry when it loads the object, or earlier if there
is none to be found: when it gets the map, or when the object is marked as unusable. An object
enters the registry with its registration, and leaves it when it is marked.
-/
def PcImage (state : State Thread Object) (image : Atomic.Pc Object) : Pc Object → Prop
  | .idle => image = .idle
  | .getReadLock objectID _ => image = .finding objectID
  | .find objectID registeredObjects _ =>
      match registeredObjects.find? objectID with
      | none => image = .found none
      | some registration => Awaits state image objectID registration
  | .tryLock registration _ | .load registration _ =>
      ∃ objectID, Awaits state image objectID registration
  | .sharedFromThis _ object _ => image = .found (some object)
  | .unlock _ result _ => image = .found result
  | .returnFound found _ => image = .found (found.map Prod.snd)
  | .lockUnregister objectID | .getUnregister objectID => image = .unregistering objectID
  | .storeNull objectID _ _ =>
      image = .unregistering objectID ∧ objectID ≠ kAudioObjectUnknown
  | .erase _ _ _ | .lockRegistration _ _ | .unlockRegistration _ _ | .returnUnregister _ =>
      image = .unregistered
  | .lockRegister object objectID | .getRegister object objectID =>
      image = .registering object objectID
  | .insert object objectID registeredObjects =>
      (∃ requested, image = .registering object requested)
      ∧ registeredObjects.find? objectID = none
  | .returnRegister result => image = .registered result

/-- How the allocator of the registry compares with that of the dispatcher while a call holds the
mutex: an ID is allocated before the object enters, and freed after it has been removed.
-/
def AllocatorImage (allocator : Allocator) (registry : Registry Object) (image : Atomic.Pc Object)
    : Pc Object → Prop
  | .getUnregister _ | .storeNull _ _ _ | .returnUnregister none | .getRegister _ _
  | .returnRegister _ =>
      registry.allocator = allocator
  | .erase objectID _ _ | .lockRegistration objectID _ | .unlockRegistration objectID _
  | .returnUnregister (some (objectID, _)) =>
      registry.allocator = allocator.freeID objectID
  | .insert object objectID _ =>
      ∀ requested, image = .registering object requested
        → registry.chooseID requested = (objectID, allocator)
  | _ => True

/-- The registered objects of the registry are the usable ones. -/
structure Image (state : State Thread Object) (atomic : Atomic.State Thread Object)
    : Prop where
  sound : Sound state
  registered
    : ∀ objectID, atomic.registry.registeredObjects.find? objectID = state.usable objectID
  pc : ∀ thread, PcImage state (atomic.pc thread) (state.pc thread)
  held
    : ∀ thread,
        AllocatorImage state.allocator atomic.registry (atomic.pc thread) (state.pc thread)
  free : state.registrationMutex = none → atomic.registry.allocator = state.allocator
  marked
    : ∀ objectID registration,
        state.registeredObjects.find? objectID = some registration
        → (state.registrations registration).object = none
        → ∃ thread registeredObjects,
            state.pc thread = .erase objectID registration registeredObjects
  exclusive
    : ∀ registration writer,
        (state.registrations registration).mutex = .exclusive writer
        → (state.registrations registration).object = none

/-- What a thread has got stays usable, or marked, where others change nothing else. -/
theorem PcImage.keep {state next : State Thread Object} {thread : Thread}
    {image : Atomic.Pc Object} {pc : Pc Object} (point : At state thread pc)
    (objects
      : ∀ registration < state.constructed,
          (next.registrations registration).object = (state.registrations registration).object)
    (maps
      : ∀ objectID registration object,
          state.registeredObjects.find? objectID = some registration
          → (state.registrations registration).object = some object
          → next.registeredObjects.find? objectID = some registration)
    (related : PcImage state image pc)
    : PcImage next image pc := by
  have awaits {objectID : AudioObjectID} {registration : Nat}
      (constructed : registration < state.constructed)
      (awaited : Awaits state image objectID registration) :
      Awaits next image objectID registration :=
    awaited.keep (objects registration constructed)
      (fun object stored found => maps objectID registration object found stored)
  cases pc with
  | find objectID registeredObjects since =>
      rw [PcImage] at related ⊢
      cases found : registeredObjects.find? objectID with
      | none =>
          rw [found] at related
          exact related
      | some registration =>
          rw [found] at related
          exact awaits (point objectID registration found).constructed related
  | tryLock registration since =>
      obtain ⟨objectID, awaited⟩ := related
      exact ⟨objectID, awaits point.constructed awaited⟩
  | load registration since =>
      obtain ⟨objectID, awaited⟩ := related
      exact ⟨objectID, awaits point.1.constructed awaited⟩
  | _ => exact related

/-- Where another thread holds the mutex, a thread knows nothing of the allocators. -/
theorem AllocatorImage.of_other {state : State Thread Object} {thread other : Thread}
    {pc : Pc Object} (point : At state other pc) (holds : state.registrationMutex = some thread)
    (different : other ≠ thread) {allocator : Allocator} {registry : Registry Object}
    {image : Atomic.Pc Object}
    : AllocatorImage allocator registry image pc := by
  have elsewhere : state.registrationMutex ≠ some other := by
    rw [holds]
    exact fun same => different (Option.some.inj same).symm
  cases pc with
  | getUnregister | getRegister | returnRegister => exact absurd point elsewhere
  | storeNull | erase | lockRegistration | unlockRegistration | returnUnregister | insert =>
      exact absurd point.1 elsewhere
  | _ => trivial

/-- A thread that holds the mutex goes on, and only its own program point is to say something of the
allocators.
-/
theorem AllocatorImage.goto [DecidableEq Thread] {state : State Thread Object} {thread : Thread}
    (points : ∀ other, At state other (state.pc other))
    (holds : state.registrationMutex = some thread) {here : Pc Object} {allocator : Allocator}
    {registry : Registry Object} {images : Thread → Atomic.Pc Object}
    (arrives : AllocatorImage allocator registry (images thread) here) (other : Thread)
    : AllocatorImage allocator registry (images other)
        (Function.update state.pc thread here other) := by
  by_cases mine : other = thread
  · subst mine
    rw [Function.update_self]
    exact arrives
  · rw [Function.update_of_ne mine]
    exact .of_other (points other) holds mine

/-- Of the registry, only its allocator matters. -/
theorem AllocatorImage.congr {allocator : Allocator} {registry later : Registry Object}
    (same : later.allocator = registry.allocator) {image : Atomic.Pc Object} {pc : Pc Object}
    (held : AllocatorImage allocator registry image pc)
    : AllocatorImage allocator later image pc := by
  have chosen (requested : AudioObjectID) :
      later.chooseID requested = registry.chooseID requested := by
    simp only [Registry.chooseID, same]
  cases pc with
  | insert object objectID registeredObjects =>
      intro requested registering
      rw [chosen]
      exact held requested registering
  | returnUnregister removed =>
      cases removed <;> exact same.trans held
  | idle | getReadLock | find | tryLock | load | sharedFromThis | unlock | returnFound
  | lockUnregister | lockRegister => trivial
  | _ => exact same.trans held

variable {hintMaximumID : AudioObjectID}

variable [DecidableEq Thread] {state next : State Thread Object}
  {atomic after : Atomic.State Thread Object} {thread : Thread}

/-- The dispatcher and the registry have moved alike, and have shown the same. -/
def Answered (hintMaximumID : AudioObjectID) (state : State Thread Object)
    (atomic : Atomic.State Thread Object) (label : Thread × Move Object)
    (next : State Thread Object)
    : Prop :=
  (Atomic.system Thread Object hintMaximumID).CanShow Atomic.event atomic
    (event state label next).toList (Image next)

/-- A step that shows nothing is answered by no step. -/
theorem answered_of_silent {label : Thread × Move Object} (related : Image next atomic)
    (silent : event state label next = none)
    : Answered hintMaximumID state atomic label next := by
  rw [Answered, silent]
  exact .nil related

/-- A step is answered by one step that shows the same. -/
theorem answered_of_step {label : Thread × Move Object} {move : Atomic.Move Thread Object}
    (taken : Atomic.advance atomic move = some after)
    (same : Atomic.event atomic move after = event state label next)
    (related : Image next after)
    : Answered hintMaximumID state atomic label next := by
  rw [Answered, ← same]
  exact .single taken related

/-- A thread moves, and what is registered stays as it is. It does not leave the point where it
removes a marked registration, and only locks marked ones for writing.
-/
structure Quiet (thread : Thread) (state next : State Thread Object) : Prop where
  registeredObjects : next.registeredObjects = state.registeredObjects
  object
    : ∀ registration,
        (next.registrations registration).object = (state.registrations registration).object
  exclusive
    : ∀ registration writer,
        (next.registrations registration).mutex = .exclusive writer
        → (state.registrations registration).mutex = .exclusive writer
          ∨ (state.registrations registration).object = none
  here
    : ∀ objectID registration registeredObjects,
        state.pc thread ≠ .erase objectID registration registeredObjects

omit [DecidableEq Thread] in
theorem Quiet.usable (quiet : Quiet thread state next) (objectID : AudioObjectID)
    : next.usable objectID = state.usable objectID := by
  rw [State.usable, State.usable, quiet.registeredObjects]
  exact congrArg _ (funext quiet.object)

/-- The allocators before and after a step of a thread, which changes them only while it holds the
mutex, and leaves the mutex only when they are the same.
-/
structure Guarded (thread : Thread) (state next : State Thread Object)
    (registry later : Registry Object)
    : Prop where
  change
    : next.allocator = state.allocator ∧ later.allocator = registry.allocator
      ∨ state.registrationMutex = some thread
  free : next.registrationMutex = none → later.allocator = next.allocator

omit [DecidableEq Thread] in
/-- The other threads' program points say of the allocators what they said. -/
theorem Image.others (related : Image state atomic)
    (guarded : Guarded thread state next atomic.registry after.registry) {other : Thread}
    (different : other ≠ thread)
    : AllocatorImage next.allocator after.registry (atomic.pc other) (state.pc other) := by
  rcases guarded.change with ⟨same, sameToo⟩ | holds
  · rw [same]
    exact (related.held other).congr sameToo
  · exact .of_other (related.sound.points other) holds different

omit [DecidableEq Thread] in
/-- A step that leaves the allocators and the mutex alone. -/
theorem Image.guarded (related : Image state atomic) {later : Registry Object}
    (same : next.allocator = state.allocator)
    (sameToo : later.allocator = atomic.registry.allocator)
    (mutex : next.registrationMutex = state.registrationMutex)
    : Guarded thread state next atomic.registry later :=
  ⟨.inl ⟨same, sameToo⟩, fun free => by rw [same, sameToo, related.free (mutex ▸ free)]⟩

/-- After a quiet step, of which the registry has followed what the thread knows. -/
theorem Image.quiet (related : Image state atomic) (sound : Sound next)
    (quiet : Quiet thread state next) {pc : Pc Object} {image : Atomic.Pc Object}
    (moved : next.pc = Function.update state.pc thread pc)
    (followed : after.pc = Function.update atomic.pc thread image)
    (registered
      : after.registry.registeredObjects = atomic.registry.registeredObjects)
    (guarded : Guarded thread state next atomic.registry after.registry)
    (mine : PcImage next image pc)
    (held : AllocatorImage next.allocator after.registry image pc)
    : Image next after where
  sound := sound
  registered objectID := by
    rw [registered, related.registered, quiet.usable]
  pc := by
    intro other
    rw [moved, followed]
    by_cases same : other = thread
    · subst same
      rw [Function.update_self, Function.update_self]
      exact mine
    · rw [Function.update_of_ne same, Function.update_of_ne same]
      refine (related.pc other).keep (related.sound.points other)
        (fun registration _ => quiet.object registration) ?_
      intro objectID registration object found _
      rw [quiet.registeredObjects]
      exact found
  held := by
    intro other
    rw [moved, followed]
    by_cases same : other = thread
    · subst same
      rw [Function.update_self, Function.update_self]
      exact held
    · rw [Function.update_of_ne same, Function.update_of_ne same]
      exact related.others guarded same
  free := guarded.free
  marked := by
    intro objectID registration found null
    rw [quiet.registeredObjects] at found
    rw [quiet.object] at null
    obtain ⟨eraser, registeredObjects, point⟩ := related.marked objectID registration found null
    refine ⟨eraser, registeredObjects, ?_⟩
    have different : eraser ≠ thread := by
      rintro rfl
      exact quiet.here _ _ _ point
    rw [moved, Function.update_of_ne different, point]
  exclusive := by
    intro registration writer writes
    rw [quiet.object]
    rcases quiet.exclusive registration writer writes with before | null
    · exact related.exclusive registration writer before
    · exact null

/-- A thread moves in the dispatcher; in the registry it stays where it is. -/
theorem Image.stay (related : Image state atomic) (sound : Sound next)
    (quiet : Quiet thread state next) {pc : Pc Object}
    (moved : next.pc = Function.update state.pc thread pc)
    (guarded : Guarded thread state next atomic.registry atomic.registry)
    (mine : PcImage next (atomic.pc thread) pc)
    (held : AllocatorImage next.allocator atomic.registry (atomic.pc thread) pc)
    : Image next atomic :=
  related.quiet sound quiet moved (Function.update_eq_self ..).symm rfl guarded mine held

/-- Moving on touches nothing. -/
theorem quiet_goto {pc : Pc Object}
    (here
      : ∀ objectID registration registeredObjects,
          state.pc thread ≠ .erase objectID registration registeredObjects)
    : Quiet thread state (state.goto thread pc) :=
  ⟨rfl, fun _ => rfl, fun _ _ writes => .inl writes, here⟩

/-- Locking or unlocking a registration changes no object. -/
theorem quiet_setMutex {pc : Pc Object} {registration : Nat} {mutex : SharedLock Thread}
    (here
      : ∀ objectID registration registeredObjects,
          state.pc thread ≠ .erase objectID registration registeredObjects)
    (writes
      : ∀ writer, mutex = .exclusive writer
        → (state.registrations registration).mutex = .exclusive writer
          ∨ (state.registrations registration).object = none)
    : Quiet thread state ((state.setMutex registration mutex).goto thread pc) := by
  refine ⟨rfl, fun other => object_setMutex registration mutex other, ?_, here⟩
  intro other writer exclusive
  rw [State.goto, mutex_setMutex] at exclusive
  split at exclusive
  · rename_i same
    subst same
    exact writes writer exclusive
  · exact .inl exclusive

/-- The registry after one thread has looked at it. -/
theorem Atomic.look_single (atomic : Atomic.State Thread Object) {objectID : AudioObjectID}
    (finding : atomic.pc thread = .finding objectID)
    : Atomic.advance atomic (.look (fun other => decide (other = thread)))
      = some (atomic.goto thread
          (.found (atomic.registry.registeredObjects.find? objectID))) := by
  have pcs : (atomic.look (fun other => decide (other = thread))).pc
      = Function.update atomic.pc thread
          (.found (atomic.registry.registeredObjects.find? objectID)) := by
    funext other
    rw [Function.update_apply]
    by_cases same : other = thread
    · subst same
      simp [Atomic.State.look, Atomic.Pc.look, finding]
    · simp [Atomic.State.look, same]
  rw [Atomic.advance, Atomic.State.goto, ← pcs]
  rfl

-----------------------------------------------------------------------------------------
-- Steps
-----------------------------------------------------------------------------------------

/-- Getting the map: the call has looked if there is nothing to be found. -/
theorem Image.getReadLock (related : Image state atomic) {objectID : AudioObjectID}
    {since : List Nat} (point : state.pc thread = .getReadLock objectID since)
    (sound : Sound (state.goto thread (.find objectID state.registeredObjects since)))
    : Answered hintMaximumID state atomic (thread, .proceed)
        (state.goto thread (.find objectID state.registeredObjects since)) := by
  have image := related.pc thread
  rw [point] at image
  have quiet : Quiet thread state
      (state.goto thread (.find objectID state.registeredObjects since)) :=
    quiet_goto (by simp [point])
  cases unusable : state.usable objectID with
  | none =>
      have missing : atomic.registry.registeredObjects.find? objectID = none :=
        (related.registered objectID).trans unusable
      have looks := Atomic.look_single atomic image
      rw [missing] at looks
      refine answered_of_step looks (by simp [Atomic.event, event, point])
        (related.quiet sound quiet rfl rfl rfl (related.guarded rfl rfl rfl) ?_ trivial)
      rw [PcImage]
      cases found : state.registeredObjects.find? objectID with
      | none => rfl
      | some registration =>
          rw [State.usable, found] at unusable
          exact .of_marked unusable
  | some object =>
      refine answered_of_silent
        (related.stay sound quiet rfl (related.guarded rfl rfl rfl) ?_ trivial)
        (by simp [event, point])
      obtain ⟨registration, found, stored⟩ := Option.bind_eq_some_iff.mp unusable
      rw [PcImage, found, show atomic.pc thread = .finding objectID from image]
      exact .of_found stored found

/-- The steps of `FindObject()` are answered. -/
theorem Image.advanceFind (related : Image state atomic) (sound : Sound next)
    (taken : Finding.advanceFind state thread (state.pc thread) = some next)
    : Answered hintMaximumID state atomic (thread, .proceed) next := by
  have image := related.pc thread
  cases point : state.pc thread <;> rw [point] at taken image <;>
    simp only [Finding.advanceFind, reduceCtorEq, Option.some.injEq] at taken
  case getReadLock objectID since =>
    subst taken
    exact related.getReadLock point sound
  case find objectID registeredObjects since =>
    have silent : event state (thread, .proceed) next = none := by simp [event, point]
    rw [PcImage] at image
    cases found : registeredObjects.find? objectID with
    | none =>
        rw [found] at taken image
        obtain rfl := Option.some.inj taken
        exact answered_of_silent
          (related.stay sound (quiet_goto (by simp [point])) rfl (related.guarded rfl rfl rfl) image
            trivial)
          silent
    | some registration =>
        rw [found] at taken image
        obtain rfl := Option.some.inj taken
        exact answered_of_silent
          (related.stay sound (quiet_goto (by simp [point])) rfl (related.guarded rfl rfl rfl)
            ⟨objectID, image⟩ trivial)
          silent
  case tryLock registration since =>
    have silent : event state (thread, .proceed) next = none := by simp [event, point]
    obtain ⟨objectID, awaited⟩ := image
    split at taken <;> obtain rfl := Option.some.inj taken
    · -- the lock is held for writing, so the registration is marked
      rename_i refused
      obtain ⟨writer, writes⟩ := SharedLock.exists_writer refused
      have null := related.exclusive registration writer writes
      exact answered_of_silent
        (related.stay sound (quiet_goto (by simp [point])) rfl (related.guarded rfl rfl rfl)
          (awaited.marked null) trivial)
        silent
    · rename_i mutex locks
      refine answered_of_silent (related.stay sound (quiet_setMutex (by simp [point]) ?_) rfl
        (related.guarded rfl rfl rfl)
        ⟨objectID, awaited.keep (object_setMutex ..) (fun _ _ found => found)⟩ trivial) silent
      rintro writer rfl
      obtain ⟨reads, -⟩ := SharedLock.tryLockShared_spec locks
      exact reads.elim
  case load registration since =>
    obtain ⟨objectID, awaited⟩ := image
    have quiet {pc : Pc Object} : Quiet thread state (state.goto thread pc) :=
      quiet_goto (by simp [point])
    cases stored : (state.registrations registration).object with
    | none =>
        rw [stored] at taken
        obtain rfl := Option.some.inj taken
        exact answered_of_silent
          (related.stay sound quiet rfl (related.guarded rfl rfl rfl) (awaited.marked stored)
            trivial)
          (by simp [event, point])
    | some object =>
        rw [stored] at taken
        obtain rfl := Option.some.inj taken
        obtain ⟨finding, usable⟩ := awaited.unmarked stored
        have looks := Atomic.look_single atomic finding
        rw [related.registered, usable] at looks
        exact answered_of_step looks (by simp [Atomic.event, event, point])
          (related.quiet sound quiet rfl rfl rfl (related.guarded rfl rfl rfl) rfl trivial)
  case sharedFromThis registration object since =>
    subst taken
    refine answered_of_silent
      (related.stay sound (quiet_goto (by simp [point])) rfl (related.guarded rfl rfl rfl) image
        trivial) ?_
    simp [event, point]
  case unlock registration result since =>
    subst taken
    refine answered_of_silent
      (related.stay sound (quiet_setMutex (by simp [point]) ?_) rfl (related.guarded rfl rfl rfl)
        ?_ trivial)
      (by simp [event, point])
    · intro writer writes
      exact .inl (SharedLock.exclusive_of_unlockShared writes)
    · rw [PcImage, show atomic.pc thread = .found result from image]
      cases result <;> rfl
  case returnFound found since =>
    subst taken
    have leaves : Atomic.advance atomic (.leave thread)
        = some (atomic.goto thread .idle) := by
      simp only [Atomic.advance, show atomic.pc thread = _ from image]
    refine answered_of_step leaves ?_
      (related.quiet sound (quiet_goto (by simp [point])) rfl rfl rfl (related.guarded rfl rfl rfl)
        rfl trivial)
    simp [Atomic.event, event, point, show atomic.pc thread = _ from image]

/-- Where something fails, the registry answers that there is nothing. -/
theorem Image.failFind (related : Image state atomic) (sound : Sound next)
    (taken : Finding.failFind state thread (state.pc thread) = some next)
    : Answered hintMaximumID state atomic (thread, .fail) next := by
  have image := related.pc thread
  cases point : state.pc thread <;> rw [point] at taken image <;>
    simp only [Finding.failFind, reduceCtorEq, Option.some.injEq] at taken
  case tryLock registration since =>
    subst taken
    obtain ⟨objectID, awaited⟩ := image
    have fails : Atomic.advance atomic (.fail thread)
        = some (atomic.goto thread (.found none)) := by
      cases stored : (state.registrations registration).object with
      | none => simp only [Atomic.advance, awaited.marked stored]
      | some object => simp only [Atomic.advance, (awaited.unmarked stored).1]
    exact answered_of_step fails (by simp [Atomic.event, event, point])
      (related.quiet sound (quiet_goto (by simp [point])) rfl rfl rfl (related.guarded rfl rfl rfl)
        rfl trivial)
  case sharedFromThis registration object since =>
    subst taken
    have fails : Atomic.advance atomic (.fail thread)
        = some (atomic.goto thread (.found none)) := by
      simp only [Atomic.advance, show atomic.pc thread = _ from image]
    exact answered_of_step fails (by simp [Atomic.event, event, point])
      (related.quiet sound (quiet_goto (by simp [point])) rfl rfl rfl (related.guarded rfl rfl rfl)
        rfl trivial)

/-- The mutex is not part of what is registered. Where a thread has got it, the allocators are the
same.
-/
theorem Image.lockMutex (related : Image state atomic) {pc : Pc Object}
    (taken : lockMutex state thread pc = some next) (sound : Sound next)
    (here
      : ∀ objectID registration registeredObjects,
          state.pc thread ≠ .erase objectID registration registeredObjects)
    (mine : PcImage next (atomic.pc thread) pc)
    (held
      : atomic.registry.allocator = state.allocator
        → AllocatorImage state.allocator atomic.registry (atomic.pc thread) pc)
    : Image next atomic := by
  rw [Finding.lockMutex] at taken
  split at taken
  · cases taken
  · rename_i unlocked
    obtain rfl := Option.some.inj taken
    have quiet : Quiet thread state
        { state.goto thread pc with registrationMutex := some thread } :=
      ⟨rfl, fun _ => rfl, fun _ _ writes => .inl writes, here⟩
    exact related.stay sound quiet rfl ⟨.inl ⟨rfl, rfl⟩, fun free => by cases free⟩ mine
      (held (related.free unlocked))

omit [DecidableEq Thread] in
/-- A thread that holds the mutex finds no marked registration in the map: the one that marks
holds the mutex until it has removed the registration.
-/
theorem Image.exists_usable (related : Image state atomic)
    (holds : state.registrationMutex = some thread)
    (here
      : ∀ objectID registration registeredObjects,
          state.pc thread ≠ .erase objectID registration registeredObjects)
    {objectID : AudioObjectID} {registration : Nat}
    (found : state.registeredObjects.find? objectID = some registration)
    : ∃ object, state.usable objectID = some object := by
  rw [State.usable, found, Option.bind_some]
  refine Option.ne_none_iff_exists'.mp (fun null => ?_)
  obtain ⟨eraser, registeredObjects, erases⟩ := related.marked objectID registration found null
  have owns := related.sound.points eraser
  rw [erases] at owns
  obtain rfl := Option.some.inj (owns.1.symm.trans holds)
  exact here _ _ _ erases

/-- A call has got the registration, but not yet looked at its object. -/
def Pc.waitsFor (registration : Nat) : Pc Object → Bool
  | .find objectID registeredObjects _ => registeredObjects.find? objectID == some registration
  | .tryLock other _ | .load other _ => other == registration
  | _ => false

omit [DecidableEq Thread] in
/-- The objects after one of them has been marked. -/
theorem object_storeObject (state : State Thread Object) (registration other : Nat)
    : ((state.storeObject registration none).registrations other).object
      = if other = registration then none else (state.registrations other).object := by
  rw [State.storeObject, registrations_set]
  split <;> rfl

omit [DecidableEq Thread] in
/-- The marked object is usable no more. -/
theorem usable_storeObject (tidy : Tidy state) {objectID : AudioObjectID} {registration : Nat}
    (found : state.registeredObjects.find? objectID = some registration) (other : AudioObjectID)
    : (state.storeObject registration none).usable other
      = if other = objectID then none else state.usable other := by
  change (state.registeredObjects.find? other).bind _ = _
  simp only [object_storeObject]
  by_cases same : other = objectID
  · subst same
    rw [if_pos rfl, found, Option.bind_some, if_pos rfl]
  · rw [if_neg same, State.usable]
    refine Option.bind_congr (fun otherRegistration stored => if_neg ?_)
    rintro rfl
    exact same (tidy.unique other objectID _ stored found)

omit [DecidableEq Thread] in
/-- A call that waits for a marked object looks at the registry now, where it is no more. -/
theorem Awaits.mark (tidy : Tidy state) {objectID other : AudioObjectID}
    {registration awaitedRegistration : Nat} {image : Atomic.Pc Object}
    (found : state.registeredObjects.find? objectID = some registration)
    {registry : Registry Object}
    (removed : registry.registeredObjects.find? objectID = none)
    (awaited : Awaits state image other awaitedRegistration)
    : Awaits (state.storeObject registration none)
        (if awaitedRegistration == registration then image.look registry else image) other
        awaitedRegistration := by
  by_cases same : awaitedRegistration = registration
  · subst same
    have null : ((state.storeObject awaitedRegistration none).registrations
        awaitedRegistration).object = none := by
      rw [object_storeObject, if_pos rfl]
    have looked : image.look registry = .found none := by
      cases stored : (state.registrations awaitedRegistration).object with
      | none =>
          rw [awaited.marked stored]
          rfl
      | some object =>
          rw [Awaits, stored] at awaited
          obtain ⟨rfl, foundToo⟩ := awaited
          rw [Atomic.Pc.look, tidy.unique other objectID _ foundToo found, removed]
    rw [if_pos (beq_self_eq_true _), looked]
    exact .of_marked null
  · rw [if_neg (by simpa using same)]
    refine awaited.keep ?_ (fun _ _ stays => stays)
    rw [object_storeObject, if_neg same]

omit [DecidableEq Thread] in
/-- So do all calls that wait for it. -/
theorem PcImage.mark (tidy : Tidy state) {objectID : AudioObjectID} {registration : Nat}
    {image : Atomic.Pc Object} {pc : Pc Object}
    (found : state.registeredObjects.find? objectID = some registration)
    {registry : Registry Object}
    (removed : registry.registeredObjects.find? objectID = none)
    (related : PcImage state image pc)
    : PcImage (state.storeObject registration none)
        (if pc.waitsFor registration then image.look registry else image) pc := by
  cases pc with
  | find other registeredObjects since =>
      rw [PcImage] at related ⊢
      cases got : registeredObjects.find? other with
      | none =>
          rw [got] at related
          rw [Pc.waitsFor, got]
          exact related
      | some awaitedRegistration =>
          rw [got] at related
          rw [Pc.waitsFor, got]
          exact Awaits.mark tidy found removed related
  | tryLock awaitedRegistration since =>
      obtain ⟨other, awaited⟩ := related
      exact ⟨other, awaited.mark tidy found removed⟩
  | load awaitedRegistration since =>
      obtain ⟨other, awaited⟩ := related
      exact ⟨other, awaited.mark tidy found removed⟩
  | _ => exact related

/-- After the object has been marked, the calls that wait for it know that there is none. -/
theorem Image.storeNull (related : Image state atomic) {objectID : AudioObjectID}
    {registration : Nat} {registeredObjects : Registrations}
    (point : state.pc thread = .storeNull objectID registration registeredObjects)
    (sound
      : Sound ((state.storeObject registration none).goto thread
          (.erase objectID registration registeredObjects)))
    : Answered hintMaximumID state atomic (thread, .proceed)
        ((state.storeObject registration none).goto thread
          (.erase objectID registration registeredObjects)) := by
  have image := related.pc thread
  have before := related.sound.points thread
  rw [point] at image before
  have same := related.held thread
  rw [point] at same
  obtain ⟨unregistering, known⟩ := image
  obtain ⟨holds, rfl, found⟩ := before
  have tidy := related.sound.tidy
  obtain ⟨object, usable⟩ := related.exists_usable holds (by simp [point]) found
  have gone := Registry.unregisterObject_of_some known ((related.registered objectID).trans usable)
  set removed := atomic.registry.unregisterObject objectID
  have absent : removed.registeredObjects.find? objectID = none := by
    rw [gone, OrderedMap.find?_erase, if_pos rfl]
  set middle : Atomic.State Thread Object :=
    { atomic.goto thread .unregistered with registry := removed }
  have removes : (Atomic.system Thread Object hintMaximumID).step atomic (.remove thread)
      middle := by
    change Atomic.advance atomic (.remove thread) = some middle
    simp only [Atomic.advance, unregistering]
    rfl
  set waiting := fun other => (state.pc other).waitsFor registration
  have looks : (Atomic.system Thread Object hintMaximumID).step middle (.look waiting)
      (middle.look waiting) := rfl
  rw [Answered, show event state (thread, .proceed) _ = none by simp [event, point]]
  refine .cons removes
    (.single looks ⟨sound, ?registered, ?pc, ?held, ?free, ?marked, ?exclusive⟩)
  case registered =>
    intro other
    change removed.registeredObjects.find? other
      = (state.storeObject registration none).usable other
    rw [usable_storeObject tidy found, gone, OrderedMap.find?_erase, related.registered]
  case held =>
    refine AllocatorImage.goto related.sound.points holds ?_
    change AllocatorImage state.allocator removed
      (if waiting thread then (middle.pc thread).look removed else middle.pc thread) _
    rw [gone]
    exact congrArg (·.freeID objectID) same
  case free => exact fun free => absurd (holds.symm.trans free) (by simp)
  case pc =>
    intro other
    change PcImage _ (if waiting other then (middle.pc other).look removed else middle.pc other) _
    by_cases same : other = thread
    · subst same
      have still : middle.pc other = .unregistered := Function.update_self ..
      have marks : waiting other = false := by simp [waiting, point, Pc.waitsFor]
      have arrived : ((state.storeObject registration none).goto other
          (.erase objectID registration state.registeredObjects)).pc other
          = .erase objectID registration state.registeredObjects := Function.update_self ..
      rw [marks, still, arrived]
      rfl
    · have still : middle.pc other = atomic.pc other := Function.update_of_ne same ..
      have waits : ((state.storeObject registration none).goto thread
          (.erase objectID registration state.registeredObjects)).pc other = state.pc other :=
        Function.update_of_ne same ..
      rw [still, waits]
      exact (related.pc other).mark tidy found absent
  case marked =>
    intro other otherRegistration stored null
    change state.registeredObjects.find? other = some otherRegistration at stored
    by_cases same : otherRegistration = registration
    · subst same
      obtain rfl := tidy.unique other objectID _ stored found
      exact ⟨thread, state.registeredObjects, Function.update_self ..⟩
    · change ((state.storeObject registration none).registrations _).object = none at null
      rw [object_storeObject, if_neg same] at null
      obtain ⟨eraser, registeredObjects, erases⟩ :=
        related.marked other otherRegistration stored null
      refine ⟨eraser, registeredObjects, ?_⟩
      have different : eraser ≠ thread := by
        rintro rfl
        rw [point] at erases
        cases erases
      exact (Function.update_of_ne different ..).trans erases
  case exclusive =>
    intro other writer writes
    change ((state.storeObject registration none).registrations other).object = none
    rw [object_storeObject]
    split
    · rfl
    · rename_i different
      refine related.exclusive other writer ?_
      change ((state.storeObject registration none).registrations other).mutex = _ at writes
      rw [State.storeObject, registrations_set, if_neg different] at writes
      exact writes

/-- A marked registration is removed from the map; what is usable stays as it is. -/
theorem Image.erase (related : Image state atomic) {objectID : AudioObjectID}
    {registration : Nat} {registeredObjects : Registrations}
    (point : state.pc thread = .erase objectID registration registeredObjects)
    (sound
      : Sound {
          state.goto thread (.lockRegistration objectID registration) with
          registeredObjects := registeredObjects.erase objectID
        })
    : Image {
        state.goto thread (.lockRegistration objectID registration) with
        registeredObjects := registeredObjects.erase objectID
      } atomic := by
  have image := related.pc thread
  have before := related.sound.points thread
  rw [point] at image before
  obtain ⟨holds, rfl, found, -, null⟩ := before
  refine ⟨sound, ?registered, ?pc, ?held, ?free, ?marked, related.exclusive⟩
  case registered =>
    intro other
    rw [related.registered]
    change (state.registeredObjects.find? other).bind _
      = ((state.registeredObjects.erase objectID).find? other).bind _
    rw [OrderedMap.find?_erase]
    split
    · rename_i same
      rw [same, found]
      exact null
    · rfl
  case pc =>
    intro other
    by_cases same : other = thread
    · subst same
      have arrived : (state.goto other (.lockRegistration objectID registration)).pc other
          = .lockRegistration objectID registration := Function.update_self ..
      rw [arrived]
      exact image
    · have waits : (state.goto thread (.lockRegistration objectID registration)).pc other
          = state.pc other := Function.update_of_ne same ..
      rw [waits]
      refine (related.pc other).keep (related.sound.points other) (fun _ _ => rfl) ?_
      intro otherID otherRegistration object stored usable
      refine OrderedMap.find?_erase_eq_some_iff.mpr ⟨?_, stored⟩
      rintro rfl
      rw [found] at stored
      obtain rfl := Option.some.inj stored
      rw [null] at usable
      cases usable
  case held =>
    refine AllocatorImage.goto related.sound.points holds ?_
    have same := related.held thread
    rw [point] at same
    exact same
  case free => exact fun free => absurd (holds.symm.trans free) (by simp)
  case marked =>
    intro other otherRegistration stored unusable
    obtain ⟨different, stillStored⟩ := OrderedMap.find?_erase_eq_some_iff.mp stored
    obtain ⟨eraser, registeredObjects, erases⟩ :=
      related.marked other otherRegistration stillStored unusable
    refine ⟨eraser, registeredObjects, ?_⟩
    have elsewhere : eraser ≠ thread := by
      rintro rfl
      rw [point] at erases
      exact different (Pc.erase.inj erases).1.symm
    exact (Function.update_of_ne elsewhere ..).trans erases

/-- The steps of `UnregisterObject()` are answered. -/
theorem Image.advanceUnregister (related : Image state atomic) (sound : Sound next)
    (taken : Finding.advanceUnregister state thread (state.pc thread) = some next)
    : Answered hintMaximumID state atomic (thread, .proceed) next := by
  have image := related.pc thread
  have before := related.sound.points thread
  have held := related.held thread
  cases point : state.pc thread <;> rw [point] at taken image before held <;>
    simp only [Finding.advanceUnregister, reduceCtorEq, Option.some.injEq] at taken
  case lockUnregister objectID =>
    exact answered_of_silent
      (related.lockMutex taken sound (by simp [point]) image (fun same => same))
      (by simp [event, point])
  case getUnregister objectID =>
    have quiet {pc : Pc Object} : Quiet thread state (state.goto thread pc) :=
      quiet_goto (by simp [point])
    have removes
        (absent : objectID = kAudioObjectUnknown ∨ state.registeredObjects.find? objectID = none) :
        Atomic.advance atomic (.remove thread) = some (atomic.goto thread .unregistered) := by
      have missing : objectID = kAudioObjectUnknown
          ∨ atomic.registry.registeredObjects.find? objectID = none :=
        absent.imp_right (fun missing => by
          rw [related.registered, State.usable, missing]
          rfl)
      simp only [Atomic.advance, show atomic.pc thread = .unregistering objectID from image,
        Registry.unregisterObject_of_none missing]
      rfl
    split at taken
    · rename_i unknown
      obtain rfl := Option.some.inj taken
      exact answered_of_step (removes (.inl unknown)) (by simp [Atomic.event, event, point])
        (related.quiet sound quiet rfl rfl rfl (related.guarded rfl rfl rfl) rfl held)
    · split at taken <;> obtain rfl := Option.some.inj taken
      · rename_i missing
        exact answered_of_step (removes (.inr missing)) (by simp [Atomic.event, event, point])
          (related.quiet sound quiet rfl rfl rfl (related.guarded rfl rfl rfl) rfl held)
      · rename_i known _ _ _
        exact answered_of_silent
          (related.stay sound quiet rfl (related.guarded rfl rfl rfl) ⟨image, known⟩ held)
          (by simp [event, point])
  case storeNull objectID registration registeredObjects =>
    subst taken
    exact related.storeNull point sound
  case erase objectID registration registeredObjects =>
    subst taken
    exact answered_of_silent (related.erase point sound) (by simp [event, point])
  case lockRegistration objectID registration =>
    obtain ⟨-, -, null, -⟩ := before
    obtain ⟨mutex, locks, rfl⟩ := Option.map_eq_some_iff.mp taken
    have quiet : Quiet thread state ((state.setMutex registration mutex).goto thread
        (.unlockRegistration objectID registration)) :=
      quiet_setMutex (by simp [point]) (fun _ _ => .inr null)
    exact answered_of_silent
      (related.stay sound ⟨quiet.registeredObjects, quiet.object, quiet.exclusive, quiet.here⟩
        rfl (related.guarded rfl rfl rfl) image held) (by simp [event, point])
  case unlockRegistration objectID registration =>
    subst taken
    exact answered_of_silent
      (related.stay sound (quiet_setMutex (by simp [point]) (fun _ same => by cases same)) rfl
        (related.guarded rfl rfl rfl) image held)
      (by simp [event, point])
  case returnUnregister removed =>
    have leaves : Atomic.advance atomic (.leave thread) = some (atomic.goto thread .idle) := by
      simp only [Atomic.advance, show atomic.pc thread = _ from image]
    cases removed with
    | none | some =>
        obtain rfl := Option.some.inj taken
        refine answered_of_step leaves ?_
          (related.quiet sound
            ⟨rfl, fun _ => rfl, fun _ _ writes => .inl writes, by simp [point]⟩
            rfl rfl rfl ⟨.inr before.1, fun _ => held⟩ rfl trivial)
        simp [Atomic.event, event, point, show atomic.pc thread = _ from image]

/-- An object becomes usable together with its registration. -/
theorem Image.insert (related : Image state atomic) {object : Object}
    {objectID : AudioObjectID} {registeredObjects : Registrations}
    (point : state.pc thread = .insert object objectID registeredObjects)
    (sound
      : Sound {
          (state.setRegistration state.constructed
            { target := some object, object := some object }).goto thread
              (.returnRegister objectID) with
          registeredObjects := registeredObjects.insert objectID state.constructed
          constructed := state.constructed + 1
        })
    : Image {
        (state.setRegistration state.constructed
          { target := some object, object := some object }).goto thread
            (.returnRegister objectID) with
        registeredObjects := registeredObjects.insert objectID state.constructed
        constructed := state.constructed + 1
      } {
        atomic.goto thread (.registered objectID) with
        registry := {
          allocator := state.allocator
          registeredObjects := atomic.registry.registeredObjects.insert objectID object
        }
      } := by
  have image := related.pc thread
  have before := related.sound.points thread
  rw [point] at image before
  obtain ⟨registering, missing⟩ := image
  obtain ⟨holds, rfl⟩ := before
  set constructed : Registration Thread Object := { target := some object, object := some object }
  have same : ∀ other, other < state.constructed →
      (state.setRegistration state.constructed constructed).registrations other
        = state.registrations other := by
    intro other earlier
    rw [registrations_set, if_neg earlier.ne]
  have new : (state.setRegistration state.constructed constructed).registrations
      state.constructed = constructed := by
    rw [registrations_set, if_pos rfl]
  refine ⟨sound, ?registered, ?pc, ?held, ?free, ?marked, ?exclusive⟩
  case registered =>
    intro other
    change (atomic.registry.registeredObjects.insert objectID object).find? other
      = ((state.registeredObjects.insert objectID state.constructed).find? other).bind
          (fun registration =>
            ((state.setRegistration state.constructed constructed).registrations
              registration).object)
    rw [OrderedMap.find?_insert, OrderedMap.find?_insert]
    split
    · rw [Option.bind_some, new]
    · rw [related.registered, State.usable]
      refine Option.bind_congr (fun registration stored => ?_)
      rw [same registration (related.sound.tidy.registered _ _ stored).1]
  case pc =>
    intro other
    by_cases mine : other = thread
    · subst mine
      have arrived : ((state.setRegistration state.constructed constructed).goto other
          (.returnRegister objectID)).pc other = .returnRegister objectID :=
        Function.update_self ..
      rw [arrived]
      exact Function.update_self ..
    · have waits : ((state.setRegistration state.constructed constructed).goto thread
          (.returnRegister objectID)).pc other = state.pc other := Function.update_of_ne mine ..
      have still : (atomic.goto thread (.registered objectID)).pc other = atomic.pc other :=
        Function.update_of_ne mine ..
      rw [waits, still]
      refine (related.pc other).keep (related.sound.points other)
        (fun registration earlier => congrArg Registration.object (same registration earlier)) ?_
      intro otherID registration stored found _
      refine OrderedMap.find?_insert_eq_some_iff.mpr (.inr ⟨?_, found⟩)
      rintro rfl
      rw [missing] at found
      cases found
  case held =>
    refine AllocatorImage.goto related.sound.points holds ?_
    rfl
  case free => exact fun _ => rfl
  case marked =>
    intro other registration found null
    change ((state.setRegistration state.constructed constructed).registrations
      registration).object = none at null
    rcases OrderedMap.find?_insert_eq_some_iff.mp found with ⟨-, rfl⟩ | ⟨-, earlier⟩
    · rw [new] at null
      cases null
    · rw [same registration (related.sound.tidy.registered _ _ earlier).1] at null
      obtain ⟨eraser, registeredObjects, erases⟩ :=
        related.marked other registration earlier null
      refine ⟨eraser, registeredObjects, ?_⟩
      have elsewhere : eraser ≠ thread := by
        rintro rfl
        rw [point] at erases
        cases erases
      exact (Function.update_of_ne elsewhere ..).trans erases
  case exclusive =>
    intro registration writer writes
    change ((state.setRegistration state.constructed constructed).registrations
      registration).mutex = _ at writes
    change ((state.setRegistration state.constructed constructed).registrations
      registration).object = none
    rw [registrations_set] at writes ⊢
    split
    · rename_i isNew
      rw [if_pos isNew] at writes
      cases writes
    · rename_i isOld
      rw [if_neg isOld] at writes
      exact related.exclusive registration writer writes

/-- The steps of `RegisterObject()` are answered. -/
theorem Image.advanceRegister (related : Image state atomic) (sound : Sound next)
    (taken : Finding.advanceRegister state thread (state.pc thread) = some next)
    : Answered hintMaximumID state atomic (thread, .proceed) next := by
  have image := related.pc thread
  have before := related.sound.points thread
  have held := related.held thread
  cases point : state.pc thread <;> rw [point] at taken image before held <;>
    simp only [Finding.advanceRegister, reduceCtorEq, Option.some.injEq] at taken
  case lockRegister object objectID =>
    exact answered_of_silent
      (related.lockMutex taken sound (by simp [point]) image (fun same => same))
      (by simp [event, point])
  case getRegister object requested =>
    have chosen : atomic.registry.chooseID requested = state.registry.chooseID requested := by
      simp only [Registry.chooseID, show atomic.registry.allocator = state.allocator from held]
      rfl
    have quiet {pc : Pc Object} {allocator : Allocator} :
        Quiet thread state { state.goto thread pc with allocator := allocator } :=
      ⟨rfl, fun _ => rfl, fun _ _ writes => .inl writes, by simp [point]⟩
    split at taken <;> obtain rfl := Option.some.inj taken
    · -- the ID is taken, in the registry as well
      rename_i registration found
      obtain ⟨stored, usable⟩ := related.exists_usable before (by simp [point]) found
      have inUse : atomic.registry.registeredObjects.find? (atomic.registry.chooseID requested).1
          ≠ none := by
        rw [chosen, related.registered, usable]
        exact Option.some_ne_none stored
      obtain ⟨-, refused⟩ := (atomic.registry.registerObject_cases object requested).resolve_right
        (fun unused => inUse unused.1)
      have enters : Atomic.advance atomic (.enter thread)
          = some {
            atomic.goto thread (.registered kAudioObjectUnknown) with
            registry := {
              atomic.registry with allocator := (state.registry.chooseID requested).2 } } := by
        simp only [Atomic.advance, show atomic.pc thread = _ from image, refused, chosen]
      exact answered_of_step enters (by simp [Atomic.event, event, point])
        (related.quiet sound quiet rfl rfl rfl ⟨.inr before, fun _ => rfl⟩ rfl rfl)
    · rename_i missing
      refine answered_of_silent
        (related.stay sound quiet rfl ⟨.inr before, fun free => ?_⟩
          ⟨⟨requested, image⟩, missing⟩ ?_)
        (by simp [event, point])
      · exact absurd (before.symm.trans free) (by simp)
      · intro other registering
        rw [show atomic.pc thread = _ from image] at registering
        obtain ⟨-, rfl⟩ := Atomic.Pc.registering.inj registering
        exact chosen
  case insert object objectID registeredObjects =>
    subst taken
    obtain ⟨⟨requested, registering⟩, missing⟩ := image
    obtain ⟨-, rfl⟩ := before
    have chosen := held requested registering
    have unused : atomic.registry.registeredObjects.find? (atomic.registry.chooseID requested).1
        = none := by
      rw [chosen, related.registered, State.usable, missing]
      rfl
    obtain ⟨-, entered⟩ := (atomic.registry.registerObject_cases object requested).resolve_left
      (fun inUse => inUse.1 unused)
    rw [chosen] at entered
    have enters : Atomic.advance atomic (.enter thread)
        = some {
          atomic.goto thread (.registered objectID) with
          registry := {
            allocator := state.allocator
            registeredObjects := atomic.registry.registeredObjects.insert objectID object
          }
        } := by
      simp only [Atomic.advance, registering, entered]
    exact answered_of_step enters (by simp [Atomic.event, event, point])
      (related.insert point sound)
  case returnRegister result =>
    subst taken
    have leaves : Atomic.advance atomic (.leave thread) = some (atomic.goto thread .idle) := by
      simp only [Atomic.advance, show atomic.pc thread = _ from image]
    refine answered_of_step leaves ?_
      (related.quiet sound ⟨rfl, fun _ => rfl, fun _ _ writes => .inl writes, by simp [point]⟩
        rfl rfl rfl ⟨.inr before, fun _ => held⟩ rfl trivial)
    simp [Atomic.event, event, point, show atomic.pc thread = _ from image]

/-- Every step is answered. -/
theorem Image.advance (related : Image state atomic) {label : Thread × Move Object}
    (taken : Finding.advance state label = some next)
    : Answered hintMaximumID state atomic label next := by
  obtain ⟨thread, move⟩ := label
  have sound := related.sound.advance taken
  have image := related.pc thread
  simp only [Finding.advance] at taken
  split at taken
  · rename_i objectID idle
    obtain rfl := Option.some.inj taken
    rw [idle] at image
    have called : Atomic.advance atomic (.find thread objectID)
        = some (atomic.goto thread (.finding objectID)) := by
      simp only [Atomic.advance, show atomic.pc thread = .idle from image]
    exact answered_of_step called (by simp [Atomic.event, event, idle])
      (related.quiet sound (quiet_goto (by simp [idle])) rfl rfl rfl (related.guarded rfl rfl rfl)
        rfl trivial)
  · rename_i objectID idle
    obtain rfl := Option.some.inj taken
    rw [idle] at image
    have called : Atomic.advance atomic (.unregister thread objectID)
        = some (atomic.goto thread (.unregistering objectID)) := by
      simp only [Atomic.advance, show atomic.pc thread = .idle from image]
    exact answered_of_step called (by simp [Atomic.event, event, idle])
      (related.quiet sound (quiet_goto (by simp [idle])) rfl rfl rfl (related.guarded rfl rfl rfl)
        rfl trivial)
  · rename_i object objectID idle
    obtain rfl := Option.some.inj taken
    rw [idle] at image
    have called : Atomic.advance atomic (.register thread object objectID)
        = some (atomic.goto thread (.registering object objectID)) := by
      simp only [Atomic.advance, show atomic.pc thread = .idle from image]
    exact answered_of_step called (by simp [Atomic.event, event, idle])
      (related.quiet sound (quiet_goto (by simp [idle])) rfl rfl rfl (related.guarded rfl rfl rfl)
        rfl trivial)
  · rcases Option.or_eq_some_iff.mp taken with earlier | ⟨-, registers⟩
    · rcases Option.or_eq_some_iff.mp earlier with finds | ⟨-, unregisters⟩
      · exact related.advanceFind sound finds
      · exact related.advanceUnregister sound unregisters
    · exact related.advanceRegister sound registers
  · exact related.failFind sound taken
  · cases taken

omit [DecidableEq Thread] in
/-- A new dispatcher is a new registry. -/
theorem New.image (new : New hintMaximumID state)
    : ∃ atomic : Atomic.State Thread Object,
        Atomic.New hintMaximumID atomic ∧ Image state atomic := by
  refine ⟨⟨.new hintMaximumID, fun _ => .idle⟩, ⟨rfl, fun _ => rfl⟩, new.sound, ?_, ?_, ?_, ?_, ?_,
    ?_⟩
  · intro objectID
    rw [State.usable, new.registeredObjects]
    rfl
  · intro thread
    rw [new.pc]
    rfl
  · intro thread
    rw [new.pc]
    trivial
  · exact fun _ => new.allocator.symm
  · intro objectID registration found
    rw [new.registeredObjects] at found
    cases found
  · intro registration writer writes
    rw [new.registrations] at writes
    cases writes

/-- The registry answers the dispatcher. -/
theorem simulation (Thread : Type u) (Object : Type v) [DecidableEq Thread]
    (hintMaximumID : AudioObjectID)
    : System.Simulation (system Thread Object hintMaximumID)
        (Atomic.system Thread Object hintMaximumID) event Atomic.event Image where
  initial _ new := New.image new
  step _ _ _ _ related taken := related.advance taken

/-- What threads see of a dispatcher they could also see of an atomic registry: calls and returns
in this order, with the same results, where each call of `FindObject()` in which nothing has failed
returns what was registered under the ID at some moment during the call. In the end the registered
objects are the usable ones.
-/
theorem refines_registry {start finish : State Thread Object} (new : New hintMaximumID start)
    {shown : List (Event Thread Object)}
    (run : (system Thread Object hintMaximumID).Shows event start shown finish)
    : ∃ atomic after,
        Atomic.New hintMaximumID atomic
        ∧ (Atomic.system Thread Object hintMaximumID).Shows Atomic.event atomic shown after
        ∧ ∀ objectID, after.registry.registeredObjects.find? objectID = finish.usable objectID := by
  obtain ⟨atomic, after, isNew, shows, image⟩ :=
    (simulation Thread Object hintMaximumID).refines new run
  exact ⟨atomic, after, isNew, shows, image.registered⟩

/-- A dispatcher that no thread has called. -/
def emptyDispatcher : State Bool Nat where
  allocator := { desiredMaximumID := 1000 }
  registeredObjects := .empty
  registrations _ := {}
  constructed := 0
  registrationMutex := none
  pc _ := .idle
  locked := []
  returned := []

theorem emptyDispatcher_new : New 1000 emptyDispatcher :=
  ⟨rfl, rfl, fun _ => rfl, rfl, rfl, fun _ => rfl, rfl, rfl⟩

/-- An object that has got an allocated ID is marked while it is looked for. Then the ID is taken by
another object, and refused to a third one.
-/
def markedLookup : List (Bool × Move Nat) :=
  (false, .register 7 kAudioObjectUnknown) :: .replicate 4 (false, .proceed)
  ++ (true, .find 2) :: (true, .proceed)
  :: (false, .unregister 2) :: .replicate 3 (false, .proceed)
  ++ .replicate 5 (true, .proceed)
  ++ .replicate 4 (false, .proceed)
  ++ (true, .register 8 2) :: .replicate 4 (true, .proceed)
  ++ (true, .register 9 2) :: .replicate 3 (true, .proceed)

theorem refines_registry_marked
    : ∃ atomic after : Atomic.State Bool Nat,
        Atomic.New 1000 atomic
        ∧ (Atomic.system Bool Nat 1000).Shows Atomic.event atomic
            [.registerCalled false 7 0, .registerReturned false 2, .findCalled true 2,
              .unregisterCalled false 2, .findReturned true none, .unregisterReturned false,
              .registerCalled true 8 2, .registerReturned true 2, .registerCalled true 9 2,
              .registerReturned true 0] after := by
  have shown
      : (System.playShown advance event emptyDispatcher markedLookup).map Prod.fst
        = some [.registerCalled false 7 0, .registerReturned false 2, .findCalled true 2,
            .unregisterCalled false 2, .findReturned true none, .unregisterReturned false,
            .registerCalled true 8 2, .registerReturned true 2, .registerCalled true 9 2,
            .registerReturned true 0] :=
    rfl
  obtain ⟨⟨_, finish⟩, played, rfl⟩ := Option.map_eq_some_iff.mp shown
  obtain ⟨atomic, after, isNew, shows, -⟩ :=
    refines_registry emptyDispatcher_new (System.shows_of_playShown played)
  exact ⟨atomic, after, isNew, shows⟩

end Aspl.Dispatcher.Finding
