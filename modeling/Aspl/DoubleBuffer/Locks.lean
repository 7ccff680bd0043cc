import Aspl.DoubleBuffer.Model

/-! Which locks the threads of a double buffer hold: at most one thread is inside `Set()`,
readers have locked their buffer for reading, and assignments happen under an exclusive lock.
-/

namespace Aspl.DoubleBuffer

universe u v

variable {Thread : Type u} {Value : Type v} [DecidableEq Thread]

/-- The call of `Set()` has locked `writeMutex_`. -/
def Pc.inSet : Pc Value → Bool
  | .loadIndex _ _ | .storeIndex _ | .lockNew _ | .storeValue _ | .unlockNew _ | .switch _
  | .invalidate _ | .lockOld _ | .destroy _ | .unlockOld _ | .unlockWrite _ => true
  | _ => false

/-- The index of the buffer that is locked for reading. -/
def Pc.sharedIndex : Pc Value → Option Int
  | .recheck read | .retry read | .reading read => some read.index
  | _ => none

/-- The index of the buffer that is locked for writing. -/
def Pc.exclusiveIndex : Pc Value → Option Int
  | .storeValue call | .unlockNew call => some call.newIndex
  | .destroy call | .unlockOld call => some call.oldIndex
  | _ => none

/-- The index of the buffer whose value the next step modifies or destroys. -/
def Pc.assignedIndex : Pc Value → Option Int
  | .storeValue call => some call.newIndex
  | .destroy call => some call.oldIndex
  | _ => none

/-- Assignments are made under the exclusive lock. -/
theorem Pc.exclusiveIndex_of_assignedIndex {pc : Pc Value} {index : Int}
    (assigned : pc.assignedIndex = some index)
    : pc.exclusiveIndex = some index := by
  cases pc <;> first | exact assigned | cases assigned

/-- Every thread holds the locks that its program point says. -/
structure Locked (state : State Thread Value) : Prop where
  writer : ∀ thread, (state.pc thread).inSet = true → state.writeMutex = some thread
  shared
    : ∀ thread index,
        (state.pc thread).sharedIndex = some index
        → (state.bufferAt index).mutex.ReadBy thread
  exclusive
    : ∀ thread index,
        (state.pc thread).exclusiveIndex = some index
        → (state.bufferAt index).mutex = .exclusive thread

variable {state next : State Thread Value} {thread : Thread}

/-- One thread moves and changes locks that it may change. -/
theorem Locked.update (locked : Locked state) {pc : Pc Value}
    (moved : next.pc = Function.update state.pc thread pc)
    (writer : pc.inSet = true → next.writeMutex = some thread)
    (otherWriters : ∀ other ≠ thread, state.writeMutex = some other
      → next.writeMutex = some other)
    (shared : ∀ index, pc.sharedIndex = some index → (next.bufferAt index).mutex.ReadBy thread)
    (exclusive : ∀ index, pc.exclusiveIndex = some index
      → (next.bufferAt index).mutex = .exclusive thread)
    (kept
      : ∀ slot,
          SharedLock.KeepsOthers thread (state.buffers slot).mutex (next.buffers slot).mutex)
    : Locked next where
  writer := by
    intro other inSet
    by_cases same : other = thread
    · subst same
      rw [moved, Function.update_self] at inSet
      exact writer inSet
    · rw [moved, Function.update_of_ne same] at inSet
      exact otherWriters other same (locked.writer other inSet)
  shared := by
    intro other index reads
    by_cases same : other = thread
    · subst same
      rw [moved, Function.update_self] at reads
      exact shared index reads
    · rw [moved, Function.update_of_ne same] at reads
      exact (kept _).shared other same (locked.shared other index reads)
  exclusive := by
    intro other index writes
    by_cases same : other = thread
    · subst same
      rw [moved, Function.update_self] at writes
      exact exclusive index writes
    · rw [moved, Function.update_of_ne same] at writes
      exact (kept _).exclusive other same (locked.exclusive other index writes)

/-- A thread that keeps its locks moves. -/
theorem Locked.move (locked : Locked state) {pc : Pc Value}
    (moved : next.pc = Function.update state.pc thread pc)
    (sameMutex : next.writeMutex = state.writeMutex)
    (sameLocks : ∀ slot, (next.buffers slot).mutex = (state.buffers slot).mutex)
    (inSet : pc.inSet = (state.pc thread).inSet)
    (shared : pc.sharedIndex = (state.pc thread).sharedIndex)
    (exclusive : pc.exclusiveIndex = (state.pc thread).exclusiveIndex)
    : Locked next := by
  apply locked.update moved
  · intro writes
    rw [sameMutex]
    exact locked.writer thread (inSet ▸ writes)
  · intro other _ writes
    rw [sameMutex]
    exact writes
  · intro index reads
    rw [State.bufferAt, sameLocks]
    exact locked.shared thread index (shared ▸ reads)
  · intro index writes
    rw [State.bufferAt, sameLocks]
    exact locked.exclusive thread index (exclusive ▸ writes)
  · intro slot
    rw [sameLocks]
    exact .refl thread _

omit [DecidableEq Thread] in
@[simp] theorem setMutex_mutex_self (state : State Thread Value) (index : Int)
    (mutex : SharedLock Thread)
    : ((state.setMutex index mutex).bufferAt index).mutex = mutex := by
  simp [State.setMutex, State.setBuffer, State.bufferAt]

omit [DecidableEq Thread] in
/-- Assigning to a buffer changes no lock. -/
theorem setBuffer_mutex (state : State Thread Value) (index : Int) (buffer : Buffer Thread Value)
    (same : buffer.mutex = (state.bufferAt index).mutex) (slot : Slot)
    : ((state.setBuffer index buffer).buffers slot).mutex = (state.buffers slot).mutex := by
  by_cases changed : slot = getBufferAt index
  · subst changed
    simpa [State.setBuffer, State.bufferAt] using same
  · simp [State.setBuffer, changed]

/-- A thread that keeps its locks moves and assigns to a buffer. -/
theorem Locked.assign (locked : Locked state) {pc : Pc Value} {index : Int}
    {buffer : Buffer Thread Value} (same : buffer.mutex = (state.bufferAt index).mutex)
    (inSet : pc.inSet = (state.pc thread).inSet)
    (shared : pc.sharedIndex = (state.pc thread).sharedIndex)
    (exclusive : pc.exclusiveIndex = (state.pc thread).exclusiveIndex)
    : Locked ((state.setBuffer index buffer).goto thread pc) :=
  locked.move rfl rfl (setBuffer_mutex state index buffer same) inSet shared exclusive

/-- A thread moves and changes the lock of one buffer. -/
theorem Locked.setMutex (locked : Locked state) {pc : Pc Value} {index : Int}
    {mutex : SharedLock Thread}
    (inSet : pc.inSet = (state.pc thread).inSet)
    (shared : ∀ other, pc.sharedIndex = some other → other = index ∧ mutex.ReadBy thread)
    (exclusive : ∀ other, pc.exclusiveIndex = some other
      → other = index ∧ mutex = .exclusive thread)
    (kept : SharedLock.KeepsOthers thread (state.bufferAt index).mutex mutex)
    : Locked ((state.setMutex index mutex).goto thread pc) := by
  refine locked.update rfl ?_ ?_ ?_ ?_ ?_
  · intro writes
    exact locked.writer thread (inSet ▸ writes)
  · intro other _ writes
    exact writes
  · intro other reads
    obtain ⟨rfl, reader⟩ := shared other reads
    exact (setMutex_mutex_self state other mutex).symm ▸ reader
  · intro other writes
    obtain ⟨rfl, writer⟩ := exclusive other writes
    exact (setMutex_mutex_self state other mutex).trans writer
  · intro slot
    by_cases changed : slot = getBufferAt index
    · subst changed
      simpa [State.setMutex, State.setBuffer, State.goto, State.bufferAt] using kept
    · simpa [State.setMutex, State.setBuffer, State.goto, changed] using .refl thread _

/-- A thread moves with one buffer locked for writing. -/
theorem Locked.lock (locked : Locked state) {pc : Pc Value} {index : Int}
    {mutex : SharedLock Thread}
    (available : (state.bufferAt index).mutex.lock thread = some mutex)
    (inSet : pc.inSet = (state.pc thread).inSet) (shared : pc.sharedIndex = none)
    (exclusive : pc.exclusiveIndex = some index)
    : Locked ((state.setMutex index mutex).goto thread pc) := by
  obtain ⟨-, rfl⟩ := SharedLock.lock_spec available
  refine locked.setMutex inSet ?_ ?_ (.lock available)
  · intro other reads
    rw [shared] at reads
    cases reads
  · intro other writes
    exact ⟨(Option.some.inj (exclusive.symm.trans writes)).symm, rfl⟩

/-- A thread moves with no buffer locked. -/
theorem Locked.unlock (locked : Locked state) {pc : Pc Value} {index : Int}
    {mutex : SharedLock Thread} (inSet : pc.inSet = (state.pc thread).inSet)
    (shared : pc.sharedIndex = none) (exclusive : pc.exclusiveIndex = none)
    (kept : SharedLock.KeepsOthers thread (state.bufferAt index).mutex mutex)
    : Locked ((state.setMutex index mutex).goto thread pc) := by
  refine locked.setMutex inSet ?_ ?_ kept
  · intro other reads
    rw [shared] at reads
    cases reads
  · intro other writes
    rw [exclusive] at writes
    cases writes

/-- The steps of a read keep the lock invariant. -/
theorem Locked.advanceRead (locked : Locked state) {move : Move Value}
    (taken : DoubleBuffer.advanceRead state thread (state.pc thread) move = some next)
    : Locked next := by
  cases point : state.pc thread <;> cases move <;> rw [point] at taken <;>
    simp only [DoubleBuffer.advanceRead, reduceCtorEq, Option.some.injEq] at taken
  case load.proceed =>
    subst taken
    refine locked.move rfl rfl (fun _ => rfl) ?_ ?_ ?_ <;> rw [point] <;> rfl
  case tryLock.proceed read =>
    split at taken
    · rename_i mutex available
      obtain rfl := Option.some.inj taken
      apply locked.setMutex
      · rw [point]
        rfl
      · intro other same
        obtain rfl := Option.some.inj same
        exact ⟨rfl, (SharedLock.tryLockShared_spec available).1⟩
      · intro other none
        cases none
      · exact .tryLockShared available
    · obtain rfl := Option.some.inj taken
      refine locked.move rfl rfl (fun _ => rfl) ?_ ?_ ?_ <;> rw [point] <;> rfl
  case tryLock.failTryLock read =>
    subst taken
    refine locked.move rfl rfl (fun _ => rfl) ?_ ?_ ?_ <;> rw [point] <;> rfl
  case recheck.proceed read =>
    split at taken <;> obtain rfl := Option.some.inj taken
    all_goals refine locked.move rfl rfl (fun _ => rfl) ?_ ?_ ?_ <;> rw [point] <;> rfl
  case retry.proceed read =>
    subst taken
    exact locked.unlock (by rw [point]; rfl) rfl rfl (.unlockShared _ thread)
  case reading.proceed read =>
    subst taken
    exact locked.unlock (by rw [point]; rfl) rfl rfl (.unlockShared _ thread)

/-- The steps of `Set()` keep the lock invariant. -/
theorem Locked.advanceSet (locked : Locked state) {isTrivial : Bool}
    (taken : DoubleBuffer.advanceSet isTrivial state thread (state.pc thread) = some next)
    : Locked next := by
  cases point : state.pc thread <;> rw [point] at taken <;>
    simp only [DoubleBuffer.advanceSet, reduceCtorEq, Option.some.injEq] at taken
  case lockWrite value =>
    split at taken
    · cases taken
    · rename_i free
      obtain rfl := Option.some.inj taken
      refine locked.update rfl ?_ ?_ ?_ ?_ ?_
      · intro _
        rfl
      · intro other _ writes
        rw [free] at writes
        cases writes
      · intro index none
        cases none
      · intro index none
        cases none
      · exact fun _ => .refl thread _
  case lockNew call =>
    obtain ⟨mutex, available, rfl⟩ := Option.map_eq_some_iff.mp taken
    exact locked.lock available (by rw [point]; rfl) rfl rfl
  case lockOld call =>
    obtain ⟨mutex, available, rfl⟩ := Option.map_eq_some_iff.mp taken
    exact locked.lock available (by rw [point]; rfl) rfl rfl
  case unlockNew call =>
    subst taken
    have mine := locked.exclusive thread call.newIndex (by rw [point]; rfl)
    exact locked.unlock (by rw [point]; rfl) rfl rfl (mine.symm ▸ .unlock thread)
  case unlockOld call =>
    subst taken
    have mine := locked.exclusive thread call.oldIndex (by rw [point]; rfl)
    exact locked.unlock (by rw [point]; rfl) rfl rfl (mine.symm ▸ .unlock thread)
  case unlockWrite call =>
    subst taken
    have mine := locked.writer thread (by rw [point]; rfl)
    refine locked.update rfl ?_ ?_ ?_ ?_ ?_
    · intro inSet
      cases inSet
    · intro other different writes
      rw [mine] at writes
      exact absurd (Option.some.inj writes).symm different
    · intro index none
      cases none
    · intro index none
      cases none
    · exact fun _ => .refl thread _
  case switch call =>
    subst taken
    cases isTrivial
    all_goals refine locked.move rfl rfl (fun _ => rfl) ?_ ?_ ?_ <;> rw [point] <;> rfl
  case loadIndex =>
    subst taken
    refine locked.move rfl rfl (fun _ => rfl) ?_ ?_ ?_ <;> rw [point] <;> rfl
  all_goals
    subst taken
    refine locked.assign rfl ?_ ?_ ?_ <;> rw [point] <;> rfl

end Aspl.DoubleBuffer
