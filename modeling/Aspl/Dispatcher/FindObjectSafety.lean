import Aspl.Dispatcher.FindObject

/-! `FindObject()` never touches an unregistered object: a raw pointer is in use only while its
registration is locked for reading, and `UnregisterObject()` locks the registration for writing
after it has set the pointer to null and removed the registration from the map.
-/

namespace Aspl.Dispatcher.Finding

open CoreAudio

universe u v

variable {Thread : Type u} {Object : Type v}

/-- A registration that was constructed, and that had not been unregistered at some time. -/
structure Known (constructed registration : Nat) (since : List Nat) : Prop where
  constructed : registration < constructed
  recent : registration ∉ since

/-- What holds of the rest of the dispatcher when a thread is at a program point. -/
def At (state : State Thread Object) (thread : Thread) : Pc Object → Prop
  | .idle | .lockUnregister _ | .lockRegister _ _ => True
  | .getReadLock _ since => since ⊆ state.returned
  | .find _ registeredObjects since =>
      ∀ objectID registration,
        registeredObjects.find? objectID = some registration
        → Known state.constructed registration since
  | .tryLock registration since => Known state.constructed registration since
  | .load registration since =>
      Known state.constructed registration since
      ∧ (state.registrations registration).mutex.ReadBy thread
  | .sharedFromThis registration object since =>
      Known state.constructed registration since
      ∧ (state.registrations registration).mutex.ReadBy thread
      ∧ (state.registrations registration).target = some object
      ∧ registration ∉ state.locked
  | .unlock registration result since =>
      Known state.constructed registration since
      ∧ (state.registrations registration).mutex.ReadBy thread
      ∧ ∀ object, result = some object
        → (state.registrations registration).target = some object
  | .returnFound found since =>
      ∀ registration object, found = some (registration, object)
        → Known state.constructed registration since
          ∧ (state.registrations registration).target = some object
  | .getUnregister _ | .getRegister _ _ | .returnRegister _ =>
      state.registrationMutex = some thread
  | .storeNull objectID registration registeredObjects =>
      state.registrationMutex = some thread
      ∧ registeredObjects = state.registeredObjects
      ∧ registeredObjects.find? objectID = some registration
  | .erase objectID registration registeredObjects =>
      state.registrationMutex = some thread
      ∧ registeredObjects = state.registeredObjects
      ∧ registeredObjects.find? objectID = some registration
      ∧ registration < state.constructed
      ∧ (state.registrations registration).object = none
  | .lockRegistration _ registration =>
      state.registrationMutex = some thread
      ∧ registration < state.constructed
      ∧ (state.registrations registration).object = none
      ∧ ∀ objectID, state.registeredObjects.find? objectID ≠ some registration
  | .unlockRegistration _ registration =>
      state.registrationMutex = some thread
      ∧ registration < state.constructed
      ∧ (state.registrations registration).mutex = .exclusive thread
      ∧ registration ∈ state.locked
  | .returnUnregister removed =>
      state.registrationMutex = some thread
      ∧ ∀ objectID registration, removed = some (objectID, registration)
        → registration ∈ state.locked
  | .insert _ _ registeredObjects =>
      state.registrationMutex = some thread
      ∧ registeredObjects = state.registeredObjects

/-- What holds of the dispatcher whatever its threads do: a registration is in the map under one
ID at most, and once it has been locked by `UnregisterObject()`, its pointer is null and it is
in the map no longer.
-/
structure Tidy (state : State Thread Object) : Prop where
  registered
    : ∀ objectID registration,
        state.registeredObjects.find? objectID = some registration
        → registration < state.constructed ∧ registration ∉ state.locked
  unique
    : ∀ first second registration,
        state.registeredObjects.find? first = some registration
        → state.registeredObjects.find? second = some registration
        → first = second
  locked
    : ∀ registration ∈ state.locked,
        registration < state.constructed ∧ (state.registrations registration).object = none
  target
    : ∀ registration object,
        (state.registrations registration).object = some object
        → (state.registrations registration).target = some object
  returned : state.returned ⊆ state.locked

/-- The invariant of the dispatcher and its threads. -/
structure Sound (state : State Thread Object) : Prop where
  tidy : Tidy state
  points : ∀ thread, At state thread (state.pc thread)

/-- What a step of one thread leaves as it is for the others. -/
structure Keeps (thread : Thread) (state next : State Thread Object) : Prop where
  constructed : state.constructed ≤ next.constructed
  owner
    : ∀ other ≠ thread, state.registrationMutex = some other
      → next.registrationMutex = some other
        ∧ next.registeredObjects = state.registeredObjects
  target
    : ∀ registration < state.constructed,
        (next.registrations registration).target = (state.registrations registration).target
  nulled
    : ∀ registration < state.constructed,
        (state.registrations registration).object = none
        → (next.registrations registration).object = none
  mutex
    : ∀ registration < state.constructed,
        SharedLock.KeepsOthers thread (state.registrations registration).mutex
          (next.registrations registration).mutex
  returned : state.returned ⊆ next.returned
  locked : state.locked ⊆ next.locked
  unread
    : ∀ registration ∈ next.locked, registration ∉ state.locked
      → ∀ other, ¬(state.registrations registration).mutex.ReadBy other

/-- A known registration stays known. -/
theorem Known.keep {state next : State Thread Object} {thread : Thread}
    (keeps : Keeps thread state next) {registration : Nat} {since : List Nat}
    (known : Known state.constructed registration since)
    : Known next.constructed registration since :=
  ⟨known.constructed.trans_le keeps.constructed, known.recent⟩

/-- The other threads' program points stay sound in a step of one thread. -/
theorem At.kept {state next : State Thread Object} {thread other : Thread}
    (keeps : Keeps thread state next) (different : other ≠ thread) {pc : Pc Object}
    (sound : At state other pc)
    : At next other pc := by
  cases pc with
  | idle | lockUnregister | lockRegister => trivial
  | getReadLock => exact fun registration member => keeps.returned (sound member)
  | find =>
      intro objectID registration found
      exact (sound objectID registration found).keep keeps
  | tryLock => exact Known.keep keeps sound
  | load registration since =>
      obtain ⟨known, reads⟩ := sound
      exact ⟨known.keep keeps, (keeps.mutex _ known.constructed).shared other different reads⟩
  | sharedFromThis registration object since =>
      obtain ⟨known, reads, target, unlocked⟩ := sound
      refine ⟨known.keep keeps, (keeps.mutex _ known.constructed).shared other different reads,
        (keeps.target _ known.constructed).trans target, ?_⟩
      intro locked
      exact keeps.unread registration locked unlocked other reads
  | unlock registration result since =>
      obtain ⟨known, reads, target⟩ := sound
      refine ⟨known.keep keeps, (keeps.mutex _ known.constructed).shared other different reads, ?_⟩
      intro object same
      exact (keeps.target _ known.constructed).trans (target object same)
  | returnFound found since =>
      intro registration object same
      obtain ⟨known, target⟩ := sound registration object same
      exact ⟨known.keep keeps, (keeps.target _ known.constructed).trans target⟩
  | getUnregister | getRegister | returnRegister => exact (keeps.owner other different sound).1
  | storeNull objectID registration registeredObjects =>
      obtain ⟨owner, same, found⟩ := sound
      obtain ⟨stillOwner, sameMap⟩ := keeps.owner other different owner
      exact ⟨stillOwner, same.trans sameMap.symm, found⟩
  | erase objectID registration registeredObjects =>
      obtain ⟨owner, same, found, constructed, null⟩ := sound
      obtain ⟨stillOwner, sameMap⟩ := keeps.owner other different owner
      exact ⟨stillOwner, same.trans sameMap.symm, found,
        constructed.trans_le keeps.constructed, keeps.nulled _ constructed null⟩
  | lockRegistration objectID registration =>
      obtain ⟨owner, constructed, null, removed⟩ := sound
      obtain ⟨stillOwner, sameMap⟩ := keeps.owner other different owner
      exact ⟨stillOwner, constructed.trans_le keeps.constructed,
        keeps.nulled _ constructed null, sameMap ▸ removed⟩
  | unlockRegistration objectID registration =>
      obtain ⟨owner, constructed, writes, locked⟩ := sound
      exact ⟨(keeps.owner other different owner).1, constructed.trans_le keeps.constructed,
        (keeps.mutex _ constructed).exclusive other different writes, keeps.locked locked⟩
  | returnUnregister removed =>
      obtain ⟨owner, locked⟩ := sound
      exact ⟨(keeps.owner other different owner).1,
        fun objectID registration same => keeps.locked (locked objectID registration same)⟩
  | insert object objectID registeredObjects =>
      obtain ⟨owner, same⟩ := sound
      obtain ⟨stillOwner, sameMap⟩ := keeps.owner other different owner
      exact ⟨stillOwner, same.trans sameMap.symm⟩

variable [DecidableEq Thread] {state next : State Thread Object} {thread : Thread}

/-- One thread moves, and leaves the others what they rely on. -/
theorem Sound.step (sound : Sound state) {pc : Pc Object}
    (moved : next.pc = Function.update state.pc thread pc) (keeps : Keeps thread state next)
    (tidy : Tidy next) (arrives : At next thread pc)
    : Sound next := by
  refine ⟨tidy, fun other => ?_⟩
  by_cases same : other = thread
  · subst same
    rw [moved, Function.update_self]
    exact arrives
  · rw [moved, Function.update_of_ne same]
    exact (sound.points other).kept keeps same

omit [DecidableEq Thread] in
/-- A step that leaves the registrations alone keeps what the other threads rely on. -/
theorem Keeps.of_registrations
    (owner
      : ∀ other ≠ thread, state.registrationMutex = some other
        → next.registrationMutex = some other
          ∧ next.registeredObjects = state.registeredObjects)
    (constructed : next.constructed = state.constructed)
    (registrations : next.registrations = state.registrations)
    (locked : next.locked = state.locked) (returned : state.returned ⊆ next.returned)
    : Keeps thread state next where
  constructed := constructed.ge
  owner := owner
  target _ _ := by rw [registrations]
  nulled _ _ null := by rwa [registrations]
  mutex _ _ := by rw [registrations]; exact .refl thread _
  returned := returned
  locked := by rw [locked]; exact fun _ member => member
  unread _ member unlocked := absurd (locked ▸ member) unlocked

/-- A thread moves, and touches nothing but the allocator. -/
theorem Sound.choose (sound : Sound state) {pc : Pc Object} (allocator : Allocator)
    (arrives : At state thread pc)
    : Sound { state.goto thread pc with allocator := allocator } := by
  refine sound.step rfl
    (.of_registrations (fun _ _ owner => ⟨owner, rfl⟩) rfl rfl rfl (fun _ member => member)) ?_
    (by cases pc <;> exact arrives)
  exact { sound.tidy with }

/-- A thread moves without touching anything. -/
theorem Sound.goto (sound : Sound state) {pc : Pc Object} (arrives : At state thread pc)
    : Sound (state.goto thread pc) :=
  sound.choose state.allocator arrives

omit [DecidableEq Thread] in
/-- The registrations after an update of one of them. -/
theorem registrations_set (state : State Thread Object) (registration : Nat)
    (value : Registration Thread Object) (other : Nat)
    : (state.setRegistration registration value).registrations other
      = if other = registration then value else state.registrations other :=
  Function.update_apply ..

omit [DecidableEq Thread] in
theorem target_setMutex (registration : Nat) (mutex : SharedLock Thread) (other : Nat)
    : ((state.setMutex registration mutex).registrations other).target
      = (state.registrations other).target := by
  rw [State.setMutex, registrations_set]
  split
  · rename_i same; rw [same]
  · rfl

omit [DecidableEq Thread] in
theorem object_setMutex (registration : Nat) (mutex : SharedLock Thread) (other : Nat)
    : ((state.setMutex registration mutex).registrations other).object
      = (state.registrations other).object := by
  rw [State.setMutex, registrations_set]
  split
  · rename_i same; rw [same]
  · rfl

omit [DecidableEq Thread] in
theorem mutex_setMutex (registration : Nat) (mutex : SharedLock Thread) (other : Nat)
    : ((state.setMutex registration mutex).registrations other).mutex
      = if other = registration then mutex else (state.registrations other).mutex := by
  rw [State.setMutex, registrations_set]
  split <;> rfl

/-- A thread moves, locking or unlocking a registration. Locking for writing, which needs that
there are no readers, is the way to make a registration count as locked.
-/
theorem Sound.setMutex (sound : Sound state) {pc : Pc Object} {registration : Nat}
    {mutex : SharedLock Thread} {locked : List Nat}
    (keeps : SharedLock.KeepsOthers thread (state.registrations registration).mutex mutex)
    (grows : state.locked ⊆ locked)
    (newlyLocked
      : ∀ other ∈ locked, other ∉ state.locked
        → other < state.constructed
          ∧ (state.registrations other).object = none
          ∧ (state.registrations other).mutex = .free
          ∧ ∀ objectID, state.registeredObjects.find? objectID ≠ some other)
    (moved
      : next = { (state.setMutex registration mutex).goto thread pc with locked := locked })
    (arrives : At next thread pc)
    : Sound next := by
  subst moved
  refine sound.step rfl ?_ ?_ arrives
  · exact {
      constructed := le_rfl
      owner := fun _ _ owner => ⟨owner, rfl⟩
      target := fun other _ => target_setMutex registration mutex other
      nulled := fun other _ null => (object_setMutex registration mutex other).trans null
      mutex := by
        intro other _
        rw [State.goto, mutex_setMutex]
        split
        · rename_i same; exact same ▸ keeps
        · exact .refl thread _
      returned := fun _ member => member
      locked := grows
      unread := by
        intro other member unlocked reader reads
        obtain ⟨-, -, free, -⟩ := newlyLocked other member unlocked
        rw [free] at reads
        exact Finset.notMem_empty reader reads
    }
  · exact {
      registered := by
        intro objectID other found
        obtain ⟨constructed, unlocked⟩ := sound.tidy.registered objectID other found
        refine ⟨constructed, fun member => ?_⟩
        exact (newlyLocked other member unlocked).2.2.2 objectID found
      unique := sound.tidy.unique
      locked := by
        intro other member
        have null : other < state.constructed ∧ (state.registrations other).object = none := by
          by_cases before : other ∈ state.locked
          · exact sound.tidy.locked other before
          · exact ⟨(newlyLocked other member before).1, (newlyLocked other member before).2.1⟩
        exact ⟨null.1, (object_setMutex registration mutex other).trans null.2⟩
      target := by
        intro other object stored
        rw [State.goto, object_setMutex] at stored
        exact (target_setMutex registration mutex other).trans
          (sound.tidy.target other object stored)
      returned := fun other member => grows (sound.tidy.returned member)
    }

/-- A thread moves, locking a registration for reading or unlocking it. -/
theorem Sound.setReaders (sound : Sound state) {pc : Pc Object} {registration : Nat}
    {mutex : SharedLock Thread}
    (keeps : SharedLock.KeepsOthers thread (state.registrations registration).mutex mutex)
    (arrives : At ((state.setMutex registration mutex).goto thread pc) thread pc)
    : Sound ((state.setMutex registration mutex).goto thread pc) :=
  sound.setMutex keeps (fun _ member => member)
    (fun _ member unlocked => absurd member unlocked) rfl arrives

/-- The steps of `FindObject()`. -/
theorem Sound.advanceFind (sound : Sound state) {pc : Pc Object}
    (before : At state thread pc) (taken : advanceFind state thread pc = some next)
    : Sound next := by
  cases pc with
  | getReadLock objectID since =>
      obtain rfl := Option.some.inj taken
      refine sound.goto (fun other registration found => ?_)
      obtain ⟨constructed, unlocked⟩ := sound.tidy.registered other registration found
      exact ⟨constructed, fun member => unlocked (sound.tidy.returned (before member))⟩
  | find objectID registeredObjects since =>
      simp only [Finding.advanceFind] at taken
      cases found : registeredObjects.find? objectID with
      | none =>
          rw [found] at taken
          obtain rfl := Option.some.inj taken
          exact sound.goto (fun _ _ none => by cases none)
      | some registration =>
          rw [found] at taken
          obtain rfl := Option.some.inj taken
          exact sound.goto (before objectID registration found)
  | tryLock registration since =>
      simp only [Finding.advanceFind] at taken
      cases locks : (state.registrations registration).mutex.tryLockShared thread with
      | none =>
          rw [locks] at taken
          obtain rfl := Option.some.inj taken
          exact sound.goto (fun _ _ none => by cases none)
      | some mutex =>
          rw [locks] at taken
          obtain rfl := Option.some.inj taken
          refine sound.setReaders (.tryLockShared locks) ⟨before, ?_⟩
          rw [State.goto, mutex_setMutex, if_pos rfl]
          exact (SharedLock.tryLockShared_spec locks).1
  | load registration since =>
      obtain ⟨known, reads⟩ := before
      simp only [Finding.advanceFind] at taken
      cases stored : (state.registrations registration).object with
      | none =>
          rw [stored] at taken
          obtain rfl := Option.some.inj taken
          exact sound.goto ⟨known, reads, fun _ none => by cases none⟩
      | some object =>
          rw [stored] at taken
          obtain rfl := Option.some.inj taken
          refine sound.goto ⟨known, reads, sound.tidy.target _ _ stored, fun locked => ?_⟩
          -- a locked registration has a null pointer
          have null := (sound.tidy.locked registration locked).2
          rw [stored] at null
          cases null
  | sharedFromThis registration object since =>
      obtain ⟨known, reads, target, -⟩ := before
      obtain rfl := Option.some.inj taken
      refine sound.goto ⟨known, reads, fun other same => ?_⟩
      exact Option.some.inj same ▸ target
  | unlock registration result since =>
      obtain ⟨known, -, target⟩ := before
      obtain rfl := Option.some.inj taken
      refine sound.setReaders (.unlockShared _ thread) (fun other object same => ?_)
      obtain ⟨value, stored, pair⟩ := Option.map_eq_some_iff.mp same
      obtain ⟨rfl, rfl⟩ := Prod.mk.inj pair
      exact ⟨known, (target_setMutex ..).trans (target value stored)⟩
  | returnFound =>
      obtain rfl := Option.some.inj taken
      exact sound.goto trivial
  | _ => cases taken

/-- The steps of `FindObject()` where something fails. -/
theorem Sound.failFind (sound : Sound state) {pc : Pc Object}
    (before : At state thread pc) (taken : failFind state thread pc = some next)
    : Sound next := by
  cases pc with
  | tryLock registration since =>
      obtain rfl := Option.some.inj taken
      exact sound.goto (fun _ _ none => by cases none)
  | sharedFromThis registration object since =>
      obtain ⟨known, reads, -⟩ := before
      obtain rfl := Option.some.inj taken
      exact sound.goto ⟨known, reads, fun _ none => by cases none⟩
  | _ => cases taken

/-- Locking `registrationMutex_`, which nobody held. -/
theorem Sound.lockMutex (sound : Sound state) {pc : Pc Object}
    (arrives : At { state with registrationMutex := some thread } thread pc)
    (taken : lockMutex state thread pc = some next)
    : Sound next := by
  rw [Finding.lockMutex] at taken
  cases free : state.registrationMutex with
  | some owner => rw [free] at taken; cases taken
  | none =>
      rw [free] at taken
      obtain rfl := Option.some.inj taken
      refine sound.step rfl
        (.of_registrations (fun _ _ owner => ?_) rfl rfl rfl (fun _ member => member)) ?_
        (by cases pc <;> exact arrives)
      · rw [free] at owner
        cases owner
      · exact { sound.tidy with }

omit [DecidableEq Thread] in
/-- No other thread relies on what a thread changes that holds `registrationMutex_`. -/
theorem sole_owner (holds : state.registrationMutex = some thread)
    : ∀ other ≠ thread, state.registrationMutex = some other
      → next.registrationMutex = some other
        ∧ next.registeredObjects = state.registeredObjects := by
  intro other different otherHolds
  exact absurd (Option.some.inj (otherHolds.symm.trans holds)) different

/-- Storing null into a registration. -/
theorem Sound.storeNull (sound : Sound state) {objectID : AudioObjectID} {registration : Nat}
    {registeredObjects : Registrations}
    (before : At state thread (.storeNull objectID registration registeredObjects))
    : Sound ((state.storeObject registration none).goto thread
        (.erase objectID registration registeredObjects)) := by
  obtain ⟨holds, same, found⟩ := before
  have constructed := (sound.tidy.registered objectID registration (same ▸ found)).1
  have after := registrations_set state registration
    { state.registrations registration with object := none }
  have target : ∀ other,
      ((state.storeObject registration none).registrations other).target
        = (state.registrations other).target := by
    intro other
    rw [State.storeObject, after]
    split
    · rename_i this; rw [this]
    · rfl
  have nulled : ∀ other, (state.registrations other).object = none
      → ((state.storeObject registration none).registrations other).object = none := by
    intro other null
    rw [State.storeObject, after]
    split
    · rfl
    · exact null
  refine sound.step rfl ?_ ?_ ?_
  · exact {
      constructed := le_rfl
      owner := sole_owner holds
      target := fun other _ => target other
      nulled := fun other _ => nulled other
      mutex := by
        intro other _
        rw [State.goto, State.storeObject, after]
        split
        · rename_i this; rw [this]; exact .refl thread _
        · exact .refl thread _
      returned := fun _ member => member
      locked := fun _ member => member
      unread := fun _ locked unlocked => absurd locked unlocked
    }
  · exact {
      registered := sound.tidy.registered
      unique := sound.tidy.unique
      locked := fun other member =>
        ⟨(sound.tidy.locked other member).1, nulled other (sound.tidy.locked other member).2⟩
      target := by
        intro other object stored
        refine (target other).trans (sound.tidy.target other object ?_)
        rw [State.goto, State.storeObject, after] at stored
        split at stored
        · cases stored
        · exact stored
      returned := sound.tidy.returned
    }
  · refine ⟨holds, same, found, constructed, ?_⟩
    rw [State.goto, State.storeObject, after, if_pos rfl]

/-- Switching to the map without a registration, which was in the map once. -/
theorem Sound.erase (sound : Sound state) {objectID : AudioObjectID} {registration : Nat}
    {registeredObjects : Registrations}
    (before : At state thread (.erase objectID registration registeredObjects))
    : Sound {
        state.goto thread (.lockRegistration objectID registration) with
        registeredObjects := registeredObjects.erase objectID
      } := by
  obtain ⟨holds, rfl, found, constructed, null⟩ := before
  have remains : ∀ {other otherRegistration},
      (state.registeredObjects.erase objectID).find? other = some otherRegistration
      → other ≠ objectID ∧ state.registeredObjects.find? other = some otherRegistration :=
    OrderedMap.find?_erase_eq_some_iff.mp
  refine sound.step rfl
    (.of_registrations (sole_owner holds) rfl rfl rfl (fun _ member => member)) ?_ ?_
  · exact {
      registered := fun other removed stored =>
        sound.tidy.registered other removed (remains stored).2
      unique := fun first second shared inFirst inSecond =>
        sound.tidy.unique first second shared (remains inFirst).2 (remains inSecond).2
      locked := sound.tidy.locked
      target := sound.tidy.target
      returned := sound.tidy.returned
    }
  · refine ⟨holds, constructed, null, fun other stored => ?_⟩
    obtain ⟨different, stillStored⟩ := remains stored
    exact different (sound.tidy.unique other objectID registration stillStored found)

/-- The steps of `UnregisterObject()`. -/
theorem Sound.advanceUnregister (sound : Sound state) {pc : Pc Object}
    (before : At state thread pc) (taken : advanceUnregister state thread pc = some next)
    : Sound next := by
  cases pc with
  | lockUnregister objectID =>
      have arrives : At { state with registrationMutex := some thread } thread
          (.getUnregister objectID : Pc Object) := rfl
      exact sound.lockMutex arrives taken
  | getUnregister objectID =>
      have leaves : At state thread (.returnUnregister none : Pc Object) :=
        ⟨before, fun _ _ none => by cases none⟩
      simp only [Finding.advanceUnregister] at taken
      split at taken
      · obtain rfl := Option.some.inj taken
        exact sound.goto leaves
      · split at taken
        · obtain rfl := Option.some.inj taken
          exact sound.goto leaves
        · rename_i registration found
          obtain rfl := Option.some.inj taken
          exact sound.goto ⟨before, rfl, found⟩
  | storeNull objectID registration registeredObjects =>
      obtain rfl := Option.some.inj taken
      exact sound.storeNull before
  | erase objectID registration registeredObjects =>
      obtain rfl := Option.some.inj taken
      exact sound.erase before
  | lockRegistration objectID registration =>
      obtain ⟨holds, constructed, null, removed⟩ := before
      obtain ⟨mutex, locks, rfl⟩ := Option.map_eq_some_iff.mp taken
      obtain ⟨free, rfl⟩ := SharedLock.lock_spec locks
      refine sound.setMutex (.lock locks) (fun _ => List.mem_cons_of_mem _) ?_ rfl ?_
      · intro other member unlocked
        obtain rfl := (List.mem_cons.mp member).resolve_right unlocked
        exact ⟨constructed, null, free, removed⟩
      · refine ⟨holds, constructed, ?_, List.mem_cons_self⟩
        exact (mutex_setMutex registration _ registration).trans (if_pos rfl)
  | unlockRegistration objectID registration =>
      obtain ⟨holds, constructed, writes, locked⟩ := before
      obtain rfl := Option.some.inj taken
      refine sound.setReaders (writes ▸ .unlock thread) ⟨holds, fun _ removed same => ?_⟩
      obtain ⟨-, rfl⟩ := Prod.mk.inj (Option.some.inj same)
      exact locked
  | returnUnregister removed =>
      obtain ⟨holds, locked⟩ := before
      cases removed with
      | none =>
          obtain rfl := Option.some.inj taken
          refine sound.step rfl
            (.of_registrations (sole_owner holds) rfl rfl rfl (fun _ member => member)) ?_ trivial
          exact { sound.tidy with }
      | some removed =>
          obtain rfl := Option.some.inj taken
          refine sound.step rfl
            (.of_registrations (sole_owner holds) rfl rfl rfl (List.subset_cons_self _ _)) ?_
            trivial
          refine { sound.tidy with returned := ?_ }
          intro registration member
          rcases List.mem_cons.mp member with rfl | earlier
          · exact locked removed.1 removed.2 rfl
          · exact sound.tidy.returned earlier
  | _ => cases taken

/-- Switching to the map with a new registration. -/
theorem Sound.insert (sound : Sound state) {object : Object} {objectID : AudioObjectID}
    {registeredObjects : Registrations}
    (before : At state thread (.insert object objectID registeredObjects))
    : Sound {
        (state.setRegistration state.constructed
          { target := some object, object := some object }).goto thread
            (.returnRegister objectID) with
        registeredObjects := registeredObjects.insert objectID state.constructed
        constructed := state.constructed + 1
      } := by
  obtain ⟨holds, rfl⟩ := before
  have after := registrations_set state state.constructed
    { target := some object, object := some object }
  have old : ∀ other < state.constructed,
      (state.setRegistration state.constructed
        { target := some object, object := some object }).registrations other
      = state.registrations other := by
    intro other earlier
    rw [after, if_neg earlier.ne]
  have entry : ∀ {other registration},
      (state.registeredObjects.insert objectID state.constructed).find? other = some registration
      → (other = objectID ∧ registration = state.constructed)
        ∨ (registration < state.constructed
          ∧ state.registeredObjects.find? other = some registration) := by
    intro other registration stored
    rcases OrderedMap.find?_insert_eq_some_iff.mp stored with isNew | ⟨-, before⟩
    · exact Or.inl isNew
    · exact Or.inr ⟨(sound.tidy.registered _ _ before).1, before⟩
  refine sound.step rfl ?_ ?_ holds
  · exact {
      constructed := Nat.le_succ _
      owner := sole_owner holds
      target := fun other earlier => congrArg Registration.target (old other earlier)
      nulled := fun other earlier null =>
        (congrArg Registration.object (old other earlier)).trans null
      mutex := fun other earlier => by
        rw [State.goto, old other earlier]
        exact .refl thread _
      returned := fun _ member => member
      locked := fun _ member => member
      unread := fun _ locked unlocked => absurd locked unlocked
    }
  · exact {
      registered := by
        intro other registration stored
        rcases entry stored with ⟨-, rfl⟩ | ⟨earlier, found⟩
        · exact ⟨Nat.lt_succ_self _,
            fun locked => lt_irrefl _ (sound.tidy.locked _ locked).1⟩
        · exact ⟨earlier.trans (Nat.lt_succ_self _), (sound.tidy.registered _ _ found).2⟩
      unique := by
        intro first second registration inFirst inSecond
        rcases entry inFirst with ⟨rfl, rfl⟩ | ⟨earlier, foundFirst⟩
        · rcases entry inSecond with ⟨rfl, -⟩ | ⟨earlier, -⟩
          · rfl
          · exact absurd earlier (lt_irrefl _)
        · rcases entry inSecond with ⟨-, rfl⟩ | ⟨-, foundSecond⟩
          · exact absurd earlier (lt_irrefl _)
          · exact sound.tidy.unique first second registration foundFirst foundSecond
      locked := by
        intro registration member
        obtain ⟨earlier, null⟩ := sound.tidy.locked registration member
        exact ⟨earlier.trans (Nat.lt_succ_self _),
          (congrArg Registration.object (old registration earlier)).trans null⟩
      target := by
        intro registration stored held
        rw [State.goto, after] at held ⊢
        split at held
        · rename_i same
          rw [if_pos same]
          exact held
        · rename_i different
          rw [if_neg different]
          exact sound.tidy.target registration stored held
      returned := sound.tidy.returned
    }

/-- The steps of `RegisterObject()`. -/
theorem Sound.advanceRegister (sound : Sound state) {pc : Pc Object}
    (before : At state thread pc) (taken : advanceRegister state thread pc = some next)
    : Sound next := by
  cases pc with
  | lockRegister object objectID =>
      have arrives : At { state with registrationMutex := some thread } thread
          (.getRegister object objectID) := rfl
      exact sound.lockMutex arrives taken
  | getRegister object objectID =>
      simp only [Finding.advanceRegister] at taken
      split at taken
      · obtain rfl := Option.some.inj taken
        exact sound.choose _ before
      · obtain rfl := Option.some.inj taken
        exact sound.choose _ ⟨before, rfl⟩
  | insert object objectID registeredObjects =>
      obtain rfl := Option.some.inj taken
      exact sound.insert before
  | returnRegister result =>
      have holds : state.registrationMutex = some thread := before
      obtain rfl := Option.some.inj taken
      refine sound.step rfl
        (.of_registrations (sole_owner holds) rfl rfl rfl (fun _ member => member)) ?_ trivial
      exact { sound.tidy with }
  | _ => cases taken

/-- Every step keeps the invariant. -/
theorem Sound.advance (sound : Sound state) {move : Move Object}
    (taken : advance state (thread, move) = some next)
    : Sound next := by
  have before := sound.points thread
  simp only [Finding.advance] at taken
  split at taken
  · obtain rfl := Option.some.inj taken
    exact sound.goto (fun _ member => member)
  · obtain rfl := Option.some.inj taken
    exact sound.goto trivial
  · obtain rfl := Option.some.inj taken
    exact sound.goto trivial
  · rcases Option.or_eq_some_iff.mp taken with earlier | ⟨-, register⟩
    · rcases Option.or_eq_some_iff.mp earlier with find | ⟨-, unregister⟩
      · exact sound.advanceFind before find
      · exact sound.advanceUnregister before unregister
    · exact sound.advanceRegister before register
  · exact sound.failFind before taken
  · cases taken

omit [DecidableEq Thread] in
/-- A new dispatcher satisfies the invariant. -/
theorem New.sound {hintMaximumID : AudioObjectID} (new : New hintMaximumID state)
    : Sound state := by
  constructor
  · exact {
      registered := fun objectID registration found => by
        rw [new.registeredObjects] at found
        cases found
      unique := fun first second registration found => by
        rw [new.registeredObjects] at found
        cases found
      locked := fun registration member => by
        rw [new.locked] at member
        cases member
      target := fun registration object stored => by
        rw [new.registrations] at stored
        cases stored
      returned := fun registration member => by
        rw [new.returned] at member
        cases member
    }
  · intro thread
    rw [new.pc]
    trivial

/-- The invariant holds in every reachable state. -/
theorem sound_of_reachable {hintMaximumID : AudioObjectID}
    (reached : (system Thread Object hintMaximumID).Reachable state)
    : Sound state := by
  have invariant : (system Thread Object hintMaximumID).Invariant Sound :=
    ⟨fun _ new => New.sound new, fun _ _ _ sound taken => Sound.advance sound taken⟩
  exact invariant.reachable reached

/-- The guarantee of `UnregisterObject()`: no call of `FindObject()` is about to use the pointer
of a registration for which it has returned, and none that started after it had returned for
every registration of an object yields the object.
-/
structure Safe (state : State Thread Object) : Prop where
  untouched
    : ∀ thread registration object since,
        state.pc thread = .sharedFromThis registration object since
        → registration ∉ state.returned
  recent
    : ∀ thread registration object since,
        state.pc thread = .returnFound (some (registration, object)) since
        → registration ∉ since
  current
    : ∀ thread registration object since,
        state.pc thread = .returnFound (some (registration, object)) since
        → ¬∀ other, (state.registrations other).target = some object → other ∈ since

/-- In every interleaving, `FindObject()` does not touch unregistered objects. -/
theorem find_object_safe {hintMaximumID : AudioObjectID}
    (reached : (system Thread Object hintMaximumID).Reachable state)
    : Safe state := by
  have sound := sound_of_reachable reached
  constructor
  · intro thread registration object since point returned
    have here := sound.points thread
    rw [point] at here
    obtain ⟨-, -, -, unlocked⟩ := here
    exact unlocked (sound.tidy.returned returned)
  · intro thread registration object since point
    have here := sound.points thread
    rw [point] at here
    exact (here registration object rfl).1.recent
  · intro thread registration object since point all
    have here := sound.points thread
    rw [point] at here
    obtain ⟨known, target⟩ := here registration object rfl
    exact known.recent (all registration target)

/-- A thread is about to use an object while another one waits to have it unregistered. -/
theorem find_object_safe_while_unregistering
    : ∃ state : State Bool Unit,
        state.pc true = .sharedFromThis 0 () []
        ∧ state.pc false = .lockRegistration 2 0
        ∧ Safe state := by
  let start : State Bool Unit := {
    allocator := { desiredMaximumID := 1000 }
    registeredObjects := .empty
    registrations := fun _ => {}
    constructed := 0
    registrationMutex := none
    pc := fun _ => .idle
    locked := []
    returned := []
  }
  have new : New 1000 start := ⟨rfl, rfl, fun _ => rfl, rfl, rfl, fun _ => rfl, rfl, rfl⟩
  let labels : List (Bool × Move Unit) :=
    (false, .register () 2) :: List.replicate 4 (false, .proceed)
    ++ (true, .find 2) :: List.replicate 4 (true, .proceed)
    ++ (false, .unregister 2) :: List.replicate 4 (false, .proceed)
  obtain ⟨state, played⟩ : ∃ state, System.play advance start labels = some state := ⟨_, rfl⟩
  have reached : (system Bool Unit 1000).Reachable state := System.reachable_of_play new played
  obtain rfl := Option.some.inj played
  exact ⟨_, rfl, rfl, find_object_safe reached⟩

end Aspl.Dispatcher.Finding
