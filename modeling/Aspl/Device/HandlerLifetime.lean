import Aspl.Device.Handlers

/-! Handlers outlive their callbacks, if nobody releases the last reference to a handler that an
operation uses. Clients are added and removed under the mutex of the setters, so that only
setters called from their own callbacks can interfere; the other operations are not protected.
-/

namespace Aspl.Device.Handlers

universe u

/-- The operation that has got a handler and is going to invoke a method on it. -/
def Pc.uses : Pc → List (Operation × Handler)
  | .destroyCopy operation handler =>
      if operation.callbacks = [] then [] else [(operation, handler)]
  | .invoke operation handler _ _ => [(operation, handler)]
  | _ => []

def Call.uses (call : Call) : Operation × Handler := (call.operation, call.handler)

/-- The operations of a thread that use a handler: from the moment they have got the pointer
until the last callback returns.
-/
def State.uses {Thread : Type u} (state : State Thread) (thread : Thread)
    : List (Operation × Handler) :=
  (state.pc thread).uses ++ (state.calls thread).map Call.uses

/-- Something other than the copies that operations take has a reference to a handler. -/
def Kept {Thread : Type u} (references : References (Holder Thread) Handler)
    (handler : Handler) : Prop :=
  ∃ holder, (∀ thread, holder ≠ .copy thread) ∧ (holder, handler) ∈ references

variable {Thread : Type u} [DecidableEq Thread]

/-- The user does not drop the last reference to a handler in use. A setter does not destroy the
last reference to a replaced handler while `DoIOOperation()`, `StartIO()` or `StopIO()` use it,
nor if the setter was called from a callback of the handler.
-/
def Permitted (state : State Thread) : Thread × Move → Prop
  | (thread, move) =>
      match state.pc thread, move with
      | .outside, .drop handler =>
          Kept (state.references.release .user handler) handler
          ∨ ∀ other operation, (operation, handler) ∉ state.uses other
      | .destroyReplaced handler, .proceed =>
          Kept (state.references.release (.replaced thread) handler) handler
          ∨ ∀ other operation, (operation, handler) ∈ state.uses other
            → operation.mutex = .writeMutex ∧ other ≠ thread
      | _, _ => True

/-- Every handler in use has a nonzero reference count. -/
def Safe (state : State Thread) : Prop :=
  ∀ thread operation handler,
    (operation, handler) ∈ state.uses thread → state.references.count handler ≠ 0

-----------------------------------------------------------------------------------------
-- The invariant
-----------------------------------------------------------------------------------------

/-- How many times a program point holds `writeMutex_`. -/
def Pc.writeDepth : Pc → Nat
  | .getHandler operation | .destroyCopy operation _ | .invoke operation _ _ _
  | .unlock operation => if operation.mutex = .writeMutex then 1 else 0
  | .store _ _ | .destroyReplaced _ | .unlockSet => 1
  | _ => 0

/-- How many times the callbacks of a thread hold `writeMutex_`. -/
def callsDepth (calls : List Call) : Nat :=
  calls.countP (fun call => call.operation.mutex = .writeMutex)

theorem callsDepth_cons (call : Call) (calls : List Call)
    : callsDepth (call :: calls)
      = callsDepth calls + if call.operation.mutex = .writeMutex then 1 else 0 := by
  rw [callsDepth, callsDepth, List.countP_cons]
  simp only [decide_eq_true_eq]

/-- Each thread has locked `writeMutex_` as often as its operations and setters say, each slot
has a reference to its handler, and each handler in use is kept.
-/
structure Sound (state : State Thread) : Prop where
  depth
    : ∀ thread,
        (state.mutex .writeMutex).depth thread
        = (state.pc thread).writeDepth + callsDepth (state.calls thread)
  current : ∀ slot, (.current slot, state.current slot) ∈ state.references
  kept
    : ∀ thread operation handler,
        (operation, handler) ∈ state.uses thread → Kept state.references handler

variable {state next : State Thread} {thread : Thread}

omit [DecidableEq Thread] in
/-- Kept handlers are kept where references are only added or copies released. -/
theorem Kept.mono {references after : References (Holder Thread) Handler} {handler : Handler}
    (kept : Kept references handler)
    (grows : ∀ holder, (∀ thread, holder ≠ .copy thread)
      → (holder, handler) ∈ references → (holder, handler) ∈ after)
    : Kept after handler := by
  obtain ⟨holder, lasting, member⟩ := kept
  exact ⟨holder, lasting, grows holder lasting member⟩

/-- One thread moves between program points and callbacks. -/
theorem Sound.step (sound : Sound state) (pc : Pc) (calls : List Call)
    (movedPc : next.pc = Function.update state.pc thread pc)
    (movedCalls : next.calls = Function.update state.calls thread calls)
    (depth
      : (next.mutex .writeMutex).depth thread = pc.writeDepth + callsDepth calls)
    (others
      : ∀ other ≠ thread,
          (next.mutex .writeMutex).depth other = (state.mutex .writeMutex).depth other)
    (current : ∀ slot, (.current slot, next.current slot) ∈ next.references)
    (kept
      : ∀ other operation handler, (operation, handler) ∈ state.uses other
        → Kept state.references handler → Kept next.references handler)
    (uses
      : ∀ operation handler, (operation, handler) ∈ pc.uses ++ calls.map Call.uses
        → (operation, handler) ∈ state.uses thread ∨ Kept next.references handler)
    : Sound next where
  depth := by
    intro other
    rw [movedPc, movedCalls]
    by_cases same : other = thread
    · subst same
      rw [Function.update_self, Function.update_self]
      exact depth
    · rw [Function.update_of_ne same, Function.update_of_ne same]
      exact (others other same).trans (sound.depth other)
  current := current
  kept := by
    intro other operation handler used
    rw [State.uses, movedPc, movedCalls] at used
    by_cases same : other = thread
    · subst same
      rw [Function.update_self, Function.update_self] at used
      rcases uses operation handler used with before | after
      · exact kept other operation handler before (sound.kept other operation handler before)
      · exact after
    · rw [Function.update_of_ne same, Function.update_of_ne same] at used
      exact kept other operation handler used (sound.kept other operation handler used)

/-- A thread moves to a program point with the same callbacks and locks, and no new uses, and
references are only added or copies released.
-/
theorem Sound.goto (sound : Sound state) {pc : Pc}
    (movedPc : next.pc = Function.update state.pc thread pc)
    (sameCalls : next.calls = state.calls) (sameMutex : next.mutex = state.mutex)
    (sameCurrent : next.current = state.current)
    (grows : ∀ holder handler, (∀ thread, holder ≠ .copy thread)
      → (holder, handler) ∈ state.references → (holder, handler) ∈ next.references)
    (depth : pc.writeDepth = (state.pc thread).writeDepth)
    (uses : ∀ used ∈ pc.uses, used ∈ (state.pc thread).uses ∨ Kept next.references used.2)
    : Sound next := by
  refine sound.step pc (state.calls thread) movedPc ?_ ?_ ?_ ?_ ?_ ?_
  · rw [sameCalls, Function.update_eq_self]
  · rw [sameMutex, depth]
    exact sound.depth thread
  · intro other _
    rw [sameMutex]
  · intro slot
    rw [sameCurrent]
    exact grows _ _ (fun _ same => by cases same) (sound.current slot)
  · intro other operation handler _ kept
    exact kept.mono (fun holder => grows holder handler)
  · intro operation handler used
    rcases List.mem_append.mp used with here | outer
    · exact (uses _ here).imp_left (List.mem_append_left _)
    · exact Or.inl (List.mem_append_right _ outer)

/-- A thread locks or unlocks a mutex. -/
theorem Sound.setMutex (sound : Sound state) {pc : Pc} {mutex : Mutex}
    {lock : RecursiveLock Thread}
    (depth
      : mutex = .writeMutex
        → lock.depth thread = pc.writeDepth + callsDepth (state.calls thread))
    (otherDepth : mutex = .writeMutex → ∀ other ≠ thread,
      lock.depth other = (state.mutex .writeMutex).depth other)
    (same : mutex ≠ .writeMutex → pc.writeDepth = (state.pc thread).writeDepth)
    (uses : pc.uses = [])
    : Sound ((state.setMutex mutex lock).goto thread pc) := by
  have after : ((state.setMutex mutex lock).goto thread pc).mutex .writeMutex
      = if .writeMutex = mutex then lock else state.mutex .writeMutex :=
    Function.update_apply ..
  refine sound.step pc (state.calls thread) rfl (Function.update_eq_self ..).symm ?_ ?_
    sound.current (fun _ _ _ _ kept => kept) ?_
  · rw [after]
    split
    · rename_i this
      exact depth this.symm
    · rename_i this
      rw [same (Ne.symm this)]
      exact sound.depth thread
  · intro other different
    rw [after]
    split
    · rename_i this
      exact otherDepth this.symm other different
    · rfl
  · intro operation handler used
    rw [uses, List.nil_append] at used
    exact Or.inl (List.mem_append_right _ used)

/-- Locking a mutex. -/
theorem Sound.lockThen (sound : Sound state) {pc : Pc} {mutex : Mutex}
    (free : (state.pc thread).writeDepth = 0)
    (holds : pc.writeDepth = if mutex = .writeMutex then 1 else 0) (uses : pc.uses = [])
    (taken : state.lockThen thread mutex pc = some next)
    : Sound next := by
  obtain ⟨lock, locks, rfl⟩ := Option.map_eq_some_iff.mp taken
  apply sound.setMutex _ _ _ uses
  · intro this
    subst this
    rw [RecursiveLock.depth_lock locks, if_pos rfl, sound.depth, free, holds, if_pos rfl,
      Nat.zero_add, Nat.add_comm]
  · intro this other different
    subst this
    rw [RecursiveLock.depth_lock locks, if_neg different, Nat.add_zero]
  · intro this
    rw [holds, if_neg this, free]

/-- Unlocking a mutex. -/
theorem Sound.unlockThen (sound : Sound state) {mutex : Mutex}
    (holds : (state.pc thread).writeDepth = if mutex = .writeMutex then 1 else 0)
    : Sound (state.unlockThen thread mutex) := by
  by_cases this : mutex = .writeMutex
  · subst this
    have depth : (state.mutex .writeMutex).depth thread
        = 1 + callsDepth (state.calls thread) := by
      rw [sound.depth, holds, if_pos rfl]
    have locked : (state.mutex .writeMutex).depth thread ≠ 0 := by omega
    apply sound.setMutex _ _ (fun different => absurd rfl different) rfl
    · intro _
      rw [RecursiveLock.depth_unlock locked, if_pos rfl, depth, Nat.add_sub_cancel_left]
      exact (Nat.zero_add _).symm
    · intro _ other different
      rw [RecursiveLock.depth_unlock locked, if_neg different, Nat.sub_zero]
  · apply sound.setMutex (fun same => absurd same this) (fun same => absurd same this) _ rfl
    intro _
    rw [holds, if_neg this]
    rfl

/-- A setter stores a handler whose reference it had as its argument, or a new one. What the
slot held before is kept by the setter, and what the argument kept is kept by the slot.
-/
theorem Sound.switch (sound : Sound state) {slot : Slot} {handler : Handler}
    {references : References (Holder Thread) Handler} {constructed : Nat}
    (depth : (state.pc thread).writeDepth = 1)
    (loses
      : ∀ holder other, (holder, other) ∈ state.references
        → (holder, other) ∈ references ∨ (holder = .argument thread ∧ other = handler))
    : Sound ({ state with references := references, constructed := constructed }.switch thread slot
        handler) := by
  let next :=
    ({ state with references := references, constructed := constructed }.switch thread slot handler)
  have stored : ∀ {holder other}, (holder, other) ∈ next.references
      ↔ (holder = .current slot ∧ other = handler)
        ∨ (holder = .replaced thread ∧ other = state.current slot)
        ∨ (holder, other) ∈ references.release (.current slot) (state.current slot) :=
    References.mem_acquire.trans (or_congr_right References.mem_acquire)
  refine sound.step (.destroyReplaced _) (state.calls thread) rfl
    (Function.update_eq_self ..).symm ?_ (fun _ _ => rfl) ?_ ?_ ?_
  · exact (sound.depth thread).trans (by rw [depth]; rfl)
  · intro other
    have after : next.current other = if other = slot then handler else state.current other :=
      Function.update_apply ..
    refine stored.mpr ?_
    by_cases same : other = slot
    · subst same
      exact Or.inl ⟨rfl, after.trans (if_pos rfl)⟩
    · have different : (Holder.current other : Holder Thread) ≠ .current slot :=
        fun this => same (Holder.current.inj this)
      have before := (loses _ _ (sound.current other)).resolve_right (fun lost => by cases lost.1)
      rw [show next.current other = _ from after, if_neg same]
      exact Or.inr (Or.inr (References.mem_release_of_holder before different))
  · intro _ _ used _ kept
    obtain ⟨holder, lasting, member⟩ := kept
    rcases loses _ _ member with remains | ⟨-, rfl⟩
    · by_cases sameHolder : holder = .current slot
      · by_cases sameHandler : used = state.current slot
        · exact ⟨.replaced thread, fun _ same => (by cases same),
            stored.mpr (Or.inr (Or.inl ⟨rfl, sameHandler⟩))⟩
        · exact ⟨holder, lasting,
            stored.mpr (Or.inr (Or.inr (References.mem_release_of_object remains sameHandler)))⟩
      · exact ⟨holder, lasting,
          stored.mpr (Or.inr (Or.inr (References.mem_release_of_holder remains sameHolder)))⟩
    · exact ⟨.current slot, fun _ same => (by cases same), stored.mpr (Or.inl ⟨rfl, rfl⟩)⟩
  · intro operation used member
    exact Or.inl (List.mem_append_right _ member)

/-- A client that is being added or removed holds `writeMutex_`. -/
theorem Sound.locked_of_uses (sound : Sound state) {operation : Operation} {handler : Handler}
    (used : (operation, handler) ∈ state.uses thread) (locks : operation.mutex = .writeMutex)
    : (state.mutex .writeMutex).depth thread ≠ 0 := by
  rw [sound.depth]
  rcases List.mem_append.mp used with here | outer
  · have counted : (state.pc thread).writeDepth = 1 := by
      cases point : state.pc thread <;> rw [point] at here
      case destroyCopy getting got =>
        simp only [Pc.uses] at here
        split at here
        · cases here
        · obtain ⟨rfl, -⟩ := Prod.mk.inj (List.mem_singleton.mp here)
          exact if_pos locks
      case invoke getting got callback rest =>
        obtain ⟨rfl, -⟩ := Prod.mk.inj (List.mem_singleton.mp here)
        exact if_pos locks
      all_goals cases here
    omega
  · obtain ⟨call, member, same⟩ := List.mem_map.mp outer
    have counted : 0 < callsDepth (state.calls thread) := by
      refine List.countP_pos_iff.mpr ⟨call, member, decide_eq_true ?_⟩
      rw [(Prod.mk.inj same).1]
      exact locks
    omega

/-- The destruction of a replaced handler. `AddClient()` and `RemoveClient()` in other threads
do not use it: they and the setter hold `writeMutex_`.
-/
theorem Sound.destroyReplaced (sound : Sound state) {handler : Handler}
    (point : state.pc thread = .destroyReplaced handler)
    (permitted : Permitted state (thread, .proceed))
    : Sound ((state.release (.replaced thread) handler).goto thread .unlockSet) := by
  have depth := sound.depth thread
  rw [point] at depth
  have holds : (state.mutex .writeMutex).depth thread ≠ 0 := by
    rw [depth, Pc.writeDepth]; omega
  refine sound.step .unlockSet (state.calls thread) rfl (Function.update_eq_self ..).symm depth
    (fun _ _ => rfl) ?_ ?_ ?_
  · intro slot
    exact References.mem_release_of_holder (sound.current slot) (fun same => by cases same)
  · intro other operation used member kept
    by_cases same : used = handler
    · subst same
      simp only [Permitted, point] at permitted
      rcases permitted with remains | unused
      · exact remains
      · -- the operation would hold `writeMutex_` as well
        exfalso
        obtain ⟨locks, different⟩ := unused other operation member
        exact different (RecursiveLock.depth_exclusive (sound.locked_of_uses member locks) holds)
    · exact kept.mono (fun holder _ remains => References.mem_release_of_object remains same)
  · intro operation used member
    exact Or.inl (List.mem_append_right _ member)

/-- The steps of a thread inside the device. -/
theorem Sound.proceed (sound : Sound state)
    (permitted : Permitted state (thread, .proceed))
    (taken : proceed state thread (state.pc thread) = some next)
    : Sound next := by
  cases point : state.pc thread with
  | outside => rw [point] at taken; cases taken
  | lock operation =>
      rw [point] at taken
      exact sound.lockThen (by rw [point]; rfl) rfl rfl taken
  | getHandler operation =>
      rw [point] at taken
      obtain rfl := Option.some.inj taken
      refine sound.goto rfl rfl rfl rfl
        (fun _ _ _ => References.mem_acquire_of_mem) (by rw [point]; rfl) ?_
      intro used member
      have got : used.2 = state.current operation.slot := by
        simp only [Pc.uses] at member
        split at member
        · cases member
        · rw [List.mem_singleton.mp member]
      refine Or.inr ⟨.current operation.slot, fun _ same => (by cases same), ?_⟩
      rw [got]
      exact References.mem_acquire_of_mem (sound.current operation.slot)
  | destroyCopy operation handler =>
      rw [point] at taken
      have lasting : ∀ holder other, (∀ thread, holder ≠ .copy thread)
          → (holder, other) ∈ state.references
          → (holder, other) ∈ state.references.release (.copy thread) handler :=
        fun _ _ notCopy member => References.mem_release_of_holder member (notCopy thread)
      simp only [Handlers.proceed] at taken
      split at taken
      · obtain rfl := Option.some.inj taken
        exact sound.goto rfl rfl rfl rfl lasting (by rw [point]; rfl) (fun _ none => by cases none)
      · rename_i callback rest more
        obtain rfl := Option.some.inj taken
        refine sound.goto rfl rfl rfl rfl lasting (by rw [point]; rfl) (fun used member => ?_)
        rw [point, Pc.uses, if_neg (by rw [more]; exact List.cons_ne_nil _ _)]
        exact Or.inl member
  | invoke operation handler callback rest =>
      rw [point] at taken
      obtain rfl := Option.some.inj taken
      have depth := sound.depth thread
      rw [point] at depth
      refine sound.step .outside _ rfl rfl ?_ (fun _ _ => rfl)
        sound.current (fun _ _ _ _ kept => kept) ?_
      · rw [callsDepth_cons]
        exact depth.trans ((Nat.add_comm ..).trans (Nat.zero_add _).symm)
      · intro used usedHandler member
        rcases List.mem_cons.mp member with here | outer
        · rw [State.uses, point]
          exact Or.inl (List.mem_append_left _ (List.mem_singleton.mpr here))
        · exact Or.inl (List.mem_append_right _ outer)
  | unlock operation =>
      rw [point] at taken
      obtain rfl := Option.some.inj taken
      exact sound.unlockThen (by rw [point]; rfl)
  | lockSet slot handler =>
      rw [point] at taken
      exact sound.lockThen (by rw [point]; rfl) rfl rfl taken
  | store slot handler =>
      rw [point] at taken
      cases handler with
      | none =>
          obtain rfl := Option.some.inj taken
          exact sound.switch (by rw [point]; rfl) (fun _ _ member => Or.inl member)
      | some handler =>
          obtain rfl := Option.some.inj taken
          refine sound.switch (by rw [point]; rfl) (fun holder other member => ?_)
          by_cases mine : holder = .argument thread
          · by_cases same : other = handler
            · exact Or.inr ⟨mine, same⟩
            · exact Or.inl (References.mem_release_of_object member same)
          · exact Or.inl (References.mem_release_of_holder member mine)
  | destroyReplaced handler =>
      rw [point] at taken
      obtain rfl := Option.some.inj taken
      exact sound.destroyReplaced point permitted
  | unlockSet =>
      rw [point] at taken
      obtain rfl := Option.some.inj taken
      exact sound.unlockThen (by rw [point]; rfl)

/-- The user drops a reference: what operations use on other threads is kept by another one. -/
theorem Sound.drop (sound : Sound state) (point : state.pc thread = .outside) {handler : Nat}
    (permitted : Permitted state (thread, .drop handler))
    : Sound (state.release .user handler) := by
  have stays : state.pc = Function.update state.pc thread .outside := by
    rw [← point, Function.update_eq_self]
  refine sound.step .outside _ stays (Function.update_eq_self ..).symm ?_ (fun _ _ => rfl) ?_ ?_ ?_
  · exact (sound.depth thread).trans (by rw [point]; rfl)
  · intro slot
    exact References.mem_release_of_holder (sound.current slot) (fun same => by cases same)
  · intro other operation used member kept
    by_cases same : used = handler
    · subst same
      simp only [Permitted, point] at permitted
      exact permitted.resolve_right (fun unused => unused other operation member)
    · exact kept.mono (fun holder _ remains => References.mem_release_of_object remains same)
  · intro operation used member
    exact Or.inl (List.mem_append_right _ member)

/-- A callback returns into the operation that invoked it, which goes on with what it uses. -/
theorem Sound.returnCallback (sound : Sound state) (point : state.pc thread = .outside)
    {call : Call} {outer : List Call} (inside : state.calls thread = call :: outer) {pc : Pc}
    (depth : pc.writeDepth = if call.operation.mutex = .writeMutex then 1 else 0)
    (uses : ∀ used ∈ pc.uses, used = call.uses)
    : Sound ((state.setCalls thread outer).goto thread pc) := by
  refine sound.step pc outer rfl rfl ?_ (fun _ _ => rfl) sound.current (fun _ _ _ _ kept => kept) ?_
  · have before := sound.depth thread
    rw [point, inside, callsDepth_cons] at before
    rw [depth]
    exact before.trans ((Nat.zero_add _).trans (Nat.add_comm ..))
  · intro operation used member
    rw [State.uses, inside, List.map_cons]
    refine Or.inl (List.mem_append_right _ ?_)
    rcases List.mem_append.mp member with here | rest
    · rw [uses _ here]
      exact List.mem_cons_self
    · exact List.mem_cons_of_mem _ rest

/-- What a thread does outside the device. -/
theorem Sound.actOutside (sound : Sound state) (point : state.pc thread = .outside) {move : Move}
    (permitted : Permitted state (thread, move))
    (taken : actOutside state thread move = some next)
    : Sound next := by
  have acquires : ∀ {after : State Thread} {pc : Pc},
      after.pc = Function.update state.pc thread pc → after.calls = state.calls
      → after.mutex = state.mutex → after.current = state.current
      → (∀ reference ∈ state.references, reference ∈ after.references)
      → pc.writeDepth = 0 → pc.uses = []
      → Sound after := by
    intro after pc movedPc sameCalls sameMutex sameCurrent grows depth uses
    refine sound.goto movedPc sameCalls sameMutex sameCurrent (fun _ _ _ => grows _)
      (by rw [point, depth]; rfl) (fun used member => ?_)
    rw [uses] at member
    cases member
  have stays : state.pc = Function.update state.pc thread .outside := by
    rw [← point, Function.update_eq_self]
  cases move with
  | construct =>
      obtain rfl := Option.some.inj taken
      exact acquires stays rfl rfl rfl (fun _ => References.mem_acquire_of_mem) rfl rfl
  | copy handler =>
      obtain ⟨-, ⟨⟩⟩ := Option.ite_none_right_eq_some.mp taken
      exact acquires stays rfl rfl rfl (fun _ => References.mem_acquire_of_mem) rfl rfl
  | drop handler =>
      obtain ⟨-, ⟨⟩⟩ := Option.ite_none_right_eq_some.mp taken
      exact sound.drop point permitted
  | call operation =>
      obtain rfl := Option.some.inj taken
      exact acquires rfl rfl rfl rfl (fun _ member => member) rfl rfl
  | set slot handler =>
      cases handler with
      | none =>
          obtain rfl := Option.some.inj taken
          exact acquires rfl rfl rfl rfl (fun _ member => member) rfl rfl
      | some handler =>
          obtain ⟨-, ⟨⟩⟩ := Option.ite_none_right_eq_some.mp taken
          exact acquires rfl rfl rfl rfl (fun _ => References.mem_acquire_of_mem) rfl rfl
  | returnCallback =>
      simp only [Handlers.actOutside] at taken
      split at taken
      · cases taken
      · rename_i inside
        split at taken
        · obtain rfl := Option.some.inj taken
          exact sound.returnCallback point inside rfl (fun _ none => by cases none)
        · obtain rfl := Option.some.inj taken
          exact sound.returnCallback point inside rfl (fun _ member => List.mem_singleton.mp member)
  | proceed | leave => cases taken

/-- Every permitted step keeps the invariant. -/
theorem Sound.advance (sound : Sound state) {label : Thread × Move}
    (permitted : Permitted state label) (taken : advance state label = some next)
    : Sound next := by
  obtain ⟨thread, move⟩ := label
  simp only [Handlers.advance] at taken
  split at taken
  · rename_i point
    exact sound.actOutside point permitted taken
  · rename_i operation point
    obtain rfl := Option.some.inj taken
    exact sound.goto rfl rfl rfl rfl (fun _ _ _ member => member) (by rw [point]; rfl)
      (fun _ none => by cases none)
  · exact sound.proceed permitted taken
  · cases taken

/-- A constructed device satisfies the invariant. -/
theorem Constructed.sound (constructed : Constructed state) : Sound state where
  depth := by
    intro thread
    rw [constructed.mutex, constructed.pc, constructed.calls]
    rfl
  current := by
    intro slot
    rw [constructed.references]
    cases slot with
    | controlHandler => rw [constructed.controlHandler]; simp
    | ioHandler => rw [constructed.ioHandler]; simp
  kept := by
    intro thread operation handler used
    rw [State.uses, constructed.pc, constructed.calls] at used
    cases used

/-- In every interleaving of permitted steps, each handler has a nonzero reference count from
the moment an operation has got its pointer until the operation's last callback returns.
-/
theorem handlers_outlive_callbacks
    (reached : ((system Thread).restrict Permitted).Reachable state)
    : Safe state := by
  have invariant : ((system Thread).restrict Permitted).Invariant Sound :=
    ⟨fun _ constructed => Constructed.sound constructed,
      fun _ _ _ sound taken => sound.advance taken.1 taken.2⟩
  have sound := invariant.reachable reached
  intro thread operation handler used
  obtain ⟨holder, -, member⟩ := sound.kept thread operation handler used
  exact References.count_ne_zero_iff.mpr ⟨holder, member⟩

/-- A device with the no-op handlers of its constructor. -/
def constructedDevice : State Bool where
  current
    | .controlHandler => 0
    | .ioHandler => 1
  references := {(.current .controlHandler, 0), (.current .ioHandler, 1)}
  mutex _ := .free
  pc _ := .outside
  calls _ := []
  constructed := 2

theorem constructedDevice_constructed : Constructed constructedDevice :=
  ⟨rfl, rfl, rfl, fun _ => rfl, fun _ => rfl, fun _ => rfl, rfl⟩

/-- A setter waits while the handler that it is going to replace adds a client. -/
theorem handlers_outlive_callbacks_add_client
    : ∃ state : State Bool,
        state.calls true = [⟨.addClient, 0, .onAddClient, []⟩]
        ∧ state.pc false = .lockSet .controlHandler none
        ∧ Safe state := by
  have start : ((system Bool).restrict Permitted).Reachable constructedDevice :=
    .initial constructedDevice_constructed
  have called := start.step (true, .call .addClient) ⟨trivial, rfl⟩
  have locked := called.step (true, .proceed) ⟨trivial, rfl⟩
  have copied := locked.step (true, .proceed) ⟨trivial, rfl⟩
  have obtained := copied.step (true, .proceed) ⟨trivial, rfl⟩
  have inside := obtained.step (true, .proceed) ⟨trivial, rfl⟩
  have setting := inside.step (false, .set .controlHandler none) ⟨trivial, rfl⟩
  exact ⟨_, rfl, rfl, handlers_outlive_callbacks setting⟩

/-- The user sets an I/O handler and keeps no reference, and sets another one while the first
one is in a callback: the running handler's count drops to zero.
-/
theorem running_handler_is_destroyed
    : ¬∀ state : State Bool, (system Bool).Reachable state → Safe state := by
  intro safe
  have start : (system Bool).Reachable constructedDevice :=
    .initial constructedDevice_constructed
  have made := start.step (false, .construct) rfl
  have passed := made.step (false, .set .ioHandler (some 2)) rfl
  have locked := passed.step (false, .proceed) rfl
  have stored := locked.step (false, .proceed) rfl
  have destroyed := stored.step (false, .proceed) rfl
  have returned := destroyed.step (false, .proceed) rfl
  have dropped := returned.step (false, .drop 2) rfl
  have reading := dropped.step (true, .call (.doIOOperation .readInput)) rfl
  have inDevice := reading.step (true, .proceed) rfl
  have copied := inDevice.step (true, .proceed) rfl
  have obtained := copied.step (true, .proceed) rfl
  have inside := obtained.step (true, .proceed) rfl
  have replacing := inside.step (false, .set .ioHandler none) rfl
  have lockedAgain := replacing.step (false, .proceed) rfl
  have storedAgain := lockedAgain.step (false, .proceed) rfl
  have destroyedAgain := storedAgain.step (false, .proceed) rfl
  exact safe _ destroyedAgain true (.doIOOperation .readInput) 2 List.mem_cons_self rfl

end Aspl.Device.Handlers
