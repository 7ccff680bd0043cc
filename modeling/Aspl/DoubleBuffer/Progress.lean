import Aspl.DoubleBuffer.Safety

/-! Progress on a double buffer: a read that runs alone obtains its lock wherever the other threads
are suspended, every attempt that fails is paid for by a switch, and every call can finish.
-/

namespace Aspl.DoubleBuffer

universe u v

variable {Thread : Type u} {Value : Type v} [DecidableEq Thread]

-----------------------------------------------------------------------------------------
-- Who holds the locks
-----------------------------------------------------------------------------------------

/-- The index of the buffer that a thread has locked, for reading or for writing. -/
def Pc.lockedIndex (pc : Pc Value) : Option Int := pc.sharedIndex.or pc.exclusiveIndex

/-- Only the threads whose program points say so hold locks. -/
def Held (state : State Thread Value) : Prop :=
  ∀ slot thread,
    (state.buffers slot).mutex.HeldBy thread
    → ∃ index, (state.pc thread).lockedIndex = some index ∧ getBufferAt index = slot

/-- What a read has loaded is the index of the call that it observed. -/
def Synced (state : State Thread Value) : Prop :=
  ∀ thread read,
    (state.pc thread).read? = some read
    → read.index = bufferIndex read.observed ∧ read.observed ≤ state.switched

variable {state next : State Thread Value} {thread : Thread}

/-- One thread moves, and no other thread obtains a lock. -/
theorem Held.update (held : Held state) {pc : Pc Value}
    (moved : next.pc = Function.update state.pc thread pc)
    (others
      : ∀ slot, ∀ other ≠ thread,
          (next.buffers slot).mutex.HeldBy other → (state.buffers slot).mutex.HeldBy other)
    (mine
      : ∀ slot,
          (next.buffers slot).mutex.HeldBy thread
          → ∃ index, pc.lockedIndex = some index ∧ getBufferAt index = slot)
    : Held next := by
  intro slot other holds
  rw [moved]
  by_cases same : other = thread
  · subst same
    rw [Function.update_self]
    exact mine slot holds
  · rw [Function.update_of_ne same]
    exact held slot other (others slot other same holds)

/-- A thread that keeps its locks moves. -/
theorem Held.move (held : Held state) {pc : Pc Value}
    (moved : next.pc = Function.update state.pc thread pc)
    (sameLocks : ∀ slot, (next.buffers slot).mutex = (state.buffers slot).mutex)
    (same : pc.lockedIndex = (state.pc thread).lockedIndex)
    : Held next := by
  apply held.update moved
  · intro slot other _ holds
    exact sameLocks slot ▸ holds
  · intro slot holds
    rw [sameLocks] at holds
    rw [same]
    exact held slot thread holds

omit [DecidableEq Thread] in
/-- A lock is changed, or it is another one and stays. -/
theorem setMutex_mutex_cases (state : State Thread Value) (index : Int)
    (mutex : SharedLock Thread) (slot : Slot)
    : (slot = getBufferAt index ∧ ((state.setMutex index mutex).buffers slot).mutex = mutex)
      ∨ (slot ≠ getBufferAt index
        ∧ ((state.setMutex index mutex).buffers slot).mutex = (state.buffers slot).mutex) := by
  by_cases changed : slot = getBufferAt index
  · subst changed
    exact .inl ⟨rfl, setMutex_mutex_self state index mutex⟩
  · right
    simp [State.setMutex, State.setBuffer, changed]

/-- A thread without locks obtains one. -/
theorem Held.acquire (held : Held state) {pc : Pc Value} {index : Int}
    {mutex : SharedLock Thread} (before : (state.pc thread).lockedIndex = none)
    (after : pc.lockedIndex = some index)
    (others
      : ∀ other ≠ thread, mutex.HeldBy other → (state.bufferAt index).mutex.HeldBy other)
    : Held ((state.setMutex index mutex).goto thread pc) := by
  refine held.update rfl ?_ ?_
  · intro slot other different holds
    rcases setMutex_mutex_cases state index mutex slot with ⟨rfl, changed⟩ | ⟨-, kept⟩
    · exact others other different (changed ▸ holds)
    · exact kept ▸ holds
  · intro slot holds
    rcases setMutex_mutex_cases state index mutex slot with ⟨rfl, -⟩ | ⟨-, kept⟩
    · exact ⟨index, after, rfl⟩
    · obtain ⟨other, locked, -⟩ := held slot thread (kept ▸ holds)
      cases before.symm.trans locked

/-- A thread gives back its lock. -/
theorem Held.release (held : Held state) {pc : Pc Value} {index : Int}
    {mutex : SharedLock Thread} (before : (state.pc thread).lockedIndex = some index)
    (mine : ¬ mutex.HeldBy thread)
    (others
      : ∀ other ≠ thread, mutex.HeldBy other → (state.bufferAt index).mutex.HeldBy other)
    : Held ((state.setMutex index mutex).goto thread pc) := by
  refine held.update rfl ?_ ?_
  · intro slot other different holds
    rcases setMutex_mutex_cases state index mutex slot with ⟨rfl, changed⟩ | ⟨-, kept⟩
    · exact others other different (changed ▸ holds)
    · exact kept ▸ holds
  · intro slot holds
    rcases setMutex_mutex_cases state index mutex slot with ⟨-, changed⟩ | ⟨different, kept⟩
    · exact absurd (changed ▸ holds) mine
    · obtain ⟨other, locked, same⟩ := held slot thread (kept ▸ holds)
      obtain rfl := Option.some.inj (before.symm.trans locked)
      exact absurd same.symm different

/-- A reader gives back its lock. -/
theorem Held.unlockShared (held : Held state) (locked : Locked state) {pc : Pc Value}
    {index : Int} (shared : (state.pc thread).sharedIndex = some index)
    : Held
        ((state.setMutex index ((state.bufferAt index).mutex.unlockShared thread)).goto thread
          pc) := by
  apply held.release
  · rw [Pc.lockedIndex, shared]
    rfl
  · exact SharedLock.not_heldBy_unlockShared (locked.shared thread index shared)
  · intro other _ holds
    exact SharedLock.heldBy_of_unlockShared holds

/-- The steps of a read keep who holds the locks. -/
theorem Held.advanceRead (held : Held state) (locked : Locked state) {move : Move Value}
    (taken : DoubleBuffer.advanceRead state thread (state.pc thread) move = some next)
    : Held next := by
  cases point : state.pc thread <;> cases move <;> rw [point] at taken <;>
    simp only [DoubleBuffer.advanceRead, reduceCtorEq, Option.some.injEq] at taken
  case tryLock.proceed read =>
    split at taken <;> obtain rfl := Option.some.inj taken
    · rename_i mutex available
      refine held.acquire (by rw [point]; rfl) rfl ?_
      intro other different holds
      exact SharedLock.heldBy_of_tryLockShared available different holds
    · exact held.move rfl (fun _ => rfl) (by rw [point]; rfl)
  case recheck.proceed read =>
    split at taken <;> obtain rfl := Option.some.inj taken
    all_goals exact held.move rfl (fun _ => rfl) (by rw [point]; rfl)
  case retry.proceed read | reading.proceed read =>
    subst taken
    exact held.unlockShared locked (by rw [point]; rfl)
  all_goals
    subst taken
    exact held.move rfl (fun _ => rfl) (by rw [point]; rfl)

/-- The steps of `Set()` keep who holds the locks. -/
theorem Held.advanceSet (held : Held state) {isTrivial : Bool}
    (taken : DoubleBuffer.advanceSet isTrivial state thread (state.pc thread) = some next)
    : Held next := by
  cases point : state.pc thread <;> rw [point] at taken <;>
    simp only [DoubleBuffer.advanceSet, reduceCtorEq, Option.some.injEq] at taken
  case lockWrite value =>
    split at taken
    · cases taken
    · obtain rfl := Option.some.inj taken
      exact held.move rfl (fun _ => rfl) (by rw [point]; rfl)
  case lockNew call | lockOld call =>
    obtain ⟨mutex, available, rfl⟩ := Option.map_eq_some_iff.mp taken
    obtain ⟨-, rfl⟩ := SharedLock.lock_spec available
    refine held.acquire (by rw [point]; rfl) rfl ?_
    intro other different holds
    rcases holds with reads | writes
    · exact reads.elim
    · exact absurd (SharedLock.exclusive.inj writes).symm different
  case unlockNew call | unlockOld call =>
    subst taken
    apply held.release
    · rw [point]
      rfl
    · exact SharedLock.not_heldBy_free thread
    · intro other _ holds
      exact absurd holds (SharedLock.not_heldBy_free other)
  case switch call =>
    subst taken
    refine held.move rfl (fun _ => rfl) ?_
    rw [point]
    cases isTrivial <;> rfl
  case loadIndex | unlockWrite =>
    subst taken
    exact held.move rfl (fun _ => rfl) (by rw [point]; rfl)
  all_goals
    subst taken
    exact held.move rfl (setBuffer_mutex state _ _ rfl) (by rw [point]; rfl)

/-- One thread moves, and the switches go forward. -/
theorem Synced.update (synced : Synced state) {pc : Pc Value}
    (moved : next.pc = Function.update state.pc thread pc)
    (forward : state.switched ≤ next.switched)
    (mine
      : ∀ read,
          pc.read? = some read
          → read.index = bufferIndex read.observed ∧ read.observed ≤ next.switched)
    : Synced next := by
  intro other read loaded
  rw [moved] at loaded
  by_cases same : other = thread
  · subst same
    rw [Function.update_self] at loaded
    exact mine read loaded
  · rw [Function.update_of_ne same] at loaded
    obtain ⟨index, observed⟩ := synced other read loaded
    exact ⟨index, observed.trans forward⟩

/-- The steps of a read load the index of the call that switched last. -/
theorem Synced.advanceRead (synced : Synced state) (contents : Contents state)
    {move : Move Value}
    (taken : DoubleBuffer.advanceRead state thread (state.pc thread) move = some next)
    : Synced next := by
  have forward := (sameContents_of_advanceRead taken).1.switched.ge
  have loaded := synced thread
  cases point : state.pc thread <;> cases move <;> rw [point] at taken loaded <;>
    simp only [DoubleBuffer.advanceRead, reduceCtorEq, Option.some.injEq] at taken
  case load.proceed since =>
    subst taken
    refine synced.update rfl forward ?_
    intro read mine
    obtain rfl := Option.some.inj mine
    exact ⟨contents.currentIndex, le_rfl⟩
  case tryLock.proceed read | recheck.proceed read =>
    split at taken <;> obtain rfl := Option.some.inj taken
    all_goals
      refine synced.update rfl forward ?_
      intro other mine
      first
        | cases mine; done
        | exact loaded other mine
  all_goals
    subst taken
    refine synced.update rfl forward ?_
    intro other mine
    cases mine

/-- Locks and contents are as they should be. -/
structure Orderly (state : State Thread Value) : Prop where
  locked : Locked state
  contents : Contents state
  held : Held state
  synced : Synced state

/-- A call of a reader or of `Set()` starts. -/
theorem Orderly.start (orderly : Orderly state) (idle : state.pc thread = .idle) {pc : Pc Value}
    (starts : pc = .load state.returned ∨ ∃ value, pc = .lockWrite value)
    : Orderly (state.goto thread pc) := by
  have outside : (state.pc thread).inSet = false := by
    rw [idle]
    rfl
  refine ⟨?_, orderly.contents.frame (sameContents_goto ..) rfl outside, ?_, ?_⟩
  · refine orderly.locked.move rfl rfl (fun _ => rfl) ?_ ?_ ?_ <;> rw [idle] <;>
      rcases starts with rfl | ⟨value, rfl⟩ <;> rfl
  · refine orderly.held.move rfl (fun _ => rfl) ?_
    rcases starts with rfl | ⟨value, rfl⟩ <;> rw [idle] <;> rfl
  · refine orderly.synced.update rfl le_rfl ?_
    intro read loaded
    rcases starts with rfl | ⟨value, rfl⟩ <;> cases loaded

/-- Every step keeps the order. -/
theorem Orderly.advance (orderly : Orderly state) {isTrivial : Bool}
    {label : Thread × Move Value}
    (taken : DoubleBuffer.advance isTrivial state label = some next)
    : Orderly next := by
  obtain ⟨thread, move⟩ := label
  have reads {move : Move Value}
      (taken : DoubleBuffer.advanceRead state thread (state.pc thread) move = some next) :
      Orderly next :=
    ⟨orderly.locked.advanceRead taken, orderly.contents.advanceRead taken,
      orderly.held.advanceRead orderly.locked taken,
      orderly.synced.advanceRead orderly.contents taken⟩
  simp only [DoubleBuffer.advance] at taken
  split at taken
  · rename_i idle
    obtain rfl := Option.some.inj taken
    exact orderly.start idle (.inl rfl)
  · rename_i value idle
    obtain rfl := Option.some.inj taken
    exact orderly.start idle (.inr ⟨value, rfl⟩)
  · rcases Option.or_eq_some_iff.mp taken with read | ⟨-, sets⟩
    · exact reads read
    · obtain ⟨forward, pc, moved, -, noRead⟩ :=
        forward_of_advanceSet orderly.locked orderly.contents sets
      refine ⟨orderly.locked.advanceSet sets, orderly.contents.advanceSet orderly.locked sets,
        orderly.held.advanceSet sets, orderly.synced.update moved forward.switched ?_⟩
      intro read loaded
      cases noRead.symm.trans loaded
  · exact reads taken

/-- Every reachable state is orderly, whatever the number of calls. -/
theorem orderly_of_reachable {isTrivial : Bool}
    (reached : (system Thread Value isTrivial).Reachable state)
    : Orderly state := by
  have invariant : (system Thread Value isTrivial).Invariant Orderly := {
    initial := by
      intro state constructed
      have safe := constructed.safe
      refine ⟨safe.locked, safe.contents, ?_, ?_⟩
      · intro slot thread holds
        obtain ⟨value, -, current⟩ := constructed.current
        have free : (state.buffers slot).mutex = .free :=
          match slot with
          | 0 => congrArg Buffer.mutex constructed.other
          | 1 => congrArg Buffer.mutex current
        exact absurd (free ▸ holds) (SharedLock.not_heldBy_free thread)
      · intro thread read loaded
        rw [constructed.pc] at loaded
        cases loaded
    step := fun _ _ _ orderly taken => orderly.advance taken
  }
  exact invariant.reachable reached

-----------------------------------------------------------------------------------------
-- Reads
-----------------------------------------------------------------------------------------

/-- The index of the buffer whose readers `Set()` waits for. -/
def Pc.waitedIndex : Pc Value → Option Int
  | .lockNew call => some call.newIndex
  | .lockOld call => some call.oldIndex
  | _ => none

/-- A read that has not obtained its lock. -/
def Pc.attempting : Pc Value → Bool
  | .load _ | .tryLock _ | .recheck _ | .retry _ => true
  | _ => false

omit [DecidableEq Thread] in
/-- A call of `Set()` waits for and locks only the buffer that is not current. -/
theorem Orderly.not_current (orderly : Orderly state) {index : Int}
    (used
      : (state.pc thread).waitedIndex = some index
        ∨ (state.pc thread).exclusiveIndex = some index)
    : getBufferAt index ≠ getBufferAt state.currentIndex := by
  have mine := orderly.locked.writer thread
  have phase := fun inSet => orderly.contents.phase (mine inSet)
  rw [orderly.contents.currentIndex]
  cases point : state.pc thread <;> rw [point] at used phase <;>
    simp only [Pc.waitedIndex, Pc.exclusiveIndex, reduceCtorEq, or_self, or_false, false_or,
      Option.some.injEq] at used
  case lockNew | storeValue | unlockNew =>
    subst used
    obtain ⟨began, old, -⟩ := phase rfl
    exact (began.newIndex old).2.symm
  case lockOld | destroy | unlockOld =>
    subst used
    exact (phase rfl).1.oldIndex_ne.symm

omit [DecidableEq Thread] in
/-- The writer of a buffer is inside `Set()`. -/
theorem Orderly.exclusiveIndex (orderly : Orderly state) {slot : Slot}
    (writes : (state.buffers slot).mutex = .exclusive thread)
    : ∃ index, (state.pc thread).exclusiveIndex = some index ∧ getBufferAt index = slot := by
  obtain ⟨index, locked, rfl⟩ := orderly.held slot thread (.inr writes)
  refine ⟨index, ?_, rfl⟩
  cases shared : (state.pc thread).sharedIndex with
  | none => simpa [Pc.lockedIndex, shared] using locked
  | some other =>
      obtain rfl : other = index := by simpa [Pc.lockedIndex, shared] using locked
      have reads := orderly.locked.shared thread other shared
      rw [State.bufferAt, writes] at reads
      exact reads.elim

omit [DecidableEq Thread] in
/-- The current buffer is never locked for writing. -/
theorem Orderly.current_unwritten (orderly : Orderly state) (writer : Thread)
    : (state.bufferAt state.currentIndex).mutex ≠ .exclusive writer := by
  intro writes
  obtain ⟨index, exclusive, same⟩ := orderly.exclusiveIndex writes
  exact orderly.not_current (.inr exclusive) same

omit [DecidableEq Thread] in
/-- The current buffer has the current index. -/
theorem Orderly.current_index (orderly : Orderly state)
    : (state.bufferAt state.currentIndex).index = state.currentIndex := by
  rw [orderly.contents.currentIndex]
  exact orderly.contents.current.index

/-- A thread goes on alone for a number of steps. -/
def Alone (isTrivial : Bool) (thread : Thread) (count : Nat) (start finish : State Thread Value)
    : Prop :=
  (system Thread Value isTrivial).Run start (List.replicate count (thread, .proceed)) finish

variable {isTrivial : Bool}

theorem Alone.cons {count : Nat} {finish : State Thread Value}
    (taken : advance isTrivial state (thread, .proceed) = some next)
    (later : Alone isTrivial thread count next finish)
    : Alone isTrivial thread (count + 1) state finish := by
  have first : (system Thread Value isTrivial).Run state [(thread, .proceed)] next :=
    .single taken
  exact first.append later

theorem advance_of_advanceRead {pc : Pc Value} (point : state.pc thread = pc)
    (taken : advanceRead state thread pc .proceed = some next)
    : advance isTrivial state (thread, .proceed) = some next := by
  cases pc <;> first | (cases taken; done) | simp only [advance, point, taken, Option.some_or]

theorem advanceRead_tryLock (state : State Thread Value) {read : Read}
    {mutex : SharedLock Thread}
    (available : (state.bufferAt read.index).mutex.tryLockShared thread = some mutex)
    : advanceRead state thread (.tryLock read) .proceed
      = some ((state.setMutex read.index mutex).goto thread (.recheck read)) := by
  simp only [advanceRead, available]

/-- A read that finds its buffer current obtains the lock. -/
theorem exists_reading_of_recheck {read : Read} (point : state.pc thread = .recheck read)
    (unchanged : (state.bufferAt read.index).index = read.index)
    : ∃ finish, Alone isTrivial thread 1 state finish ∧ finish.pc thread = .reading read := by
  refine ⟨state.goto thread (.reading read), ?_, goto_pc ..⟩
  refine .cons (advance_of_advanceRead point ?_) (.nil _)
  simp only [advanceRead, unchanged, if_true]

/-- A read that starts an attempt alone obtains the lock. -/
theorem Orderly.exists_reading_of_load (orderly : Orderly state) {since : Nat}
    (point : state.pc thread = .load since)
    : ∃ finish read, Alone isTrivial thread 3 state finish ∧ finish.pc thread = .reading read := by
  let read : Read := {
    index := state.currentIndex
    begun := state.stored.length
    observed := state.switched
    since := since
  }
  let loaded := state.goto thread (.tryLock read)
  obtain ⟨mutex, available⟩ := SharedLock.exists_tryLockShared orderly.current_unwritten thread
  let locked := (loaded.setMutex read.index mutex).goto thread (.recheck read)
  have unchanged : (locked.bufferAt read.index).index = read.index := by
    have same : locked.bufferAt read.index = { loaded.bufferAt read.index with mutex := mutex } :=
      bufferAt_setBuffer_of_eq loaded _ rfl
    rw [same]
    exact orderly.current_index
  obtain ⟨finish, last, reading⟩ :=
    exists_reading_of_recheck (goto_pc _ thread (.recheck read)) unchanged
  have loads : DoubleBuffer.advance isTrivial state (thread, .proceed) = some loaded :=
    advance_of_advanceRead point rfl
  have locks : DoubleBuffer.advance isTrivial loaded (thread, .proceed) = some locked := by
    exact advance_of_advanceRead (goto_pc state thread (.tryLock read))
      (advanceRead_tryLock loaded available)
  exact ⟨finish, read, .cons loads (.cons locks last), reading⟩

/-- A read whose index is not current any more gives the lock back and starts again. -/
theorem Orderly.exists_reading_of_retry (orderly : Orderly state) {read : Read}
    (point : state.pc thread = .retry read)
    : ∃ finish last, Alone isTrivial thread 4 state finish ∧ finish.pc thread = .reading last := by
  have unlocks : DoubleBuffer.advance isTrivial state (thread, .proceed)
      = some
        ((state.setMutex read.index
          ((state.bufferAt read.index).mutex.unlockShared thread)).goto thread
            (.load read.since)) :=
    advance_of_advanceRead point rfl
  obtain ⟨finish, last, later, reading⟩ :=
    (orderly.advance unlocks).exists_reading_of_load (goto_pc ..)
  exact ⟨finish, last, .cons unlocks later, reading⟩

/-- A read that has locked a buffer obtains this lock, or that of the current buffer. -/
theorem Orderly.exists_reading_of_recheck (orderly : Orderly state) {read : Read}
    (point : state.pc thread = .recheck read)
    : ∃ count finish last,
        count ≤ 5 ∧ Alone isTrivial thread count state finish
        ∧ finish.pc thread = .reading last := by
  by_cases unchanged : (state.bufferAt read.index).index = read.index
  · obtain ⟨finish, run, reading⟩ := DoubleBuffer.exists_reading_of_recheck point unchanged
    exact ⟨1, finish, read, by omega, run, reading⟩
  · have fails : DoubleBuffer.advance isTrivial state (thread, .proceed)
        = some (state.goto thread (.retry read)) := by
      apply advance_of_advanceRead point
      simp only [advanceRead, unchanged, if_false]
    obtain ⟨finish, last, later, reading⟩ :=
      (orderly.advance fails).exists_reading_of_retry (goto_pc ..)
    exact ⟨5, finish, last, le_rfl, .cons fails later, reading⟩

/-- A read that goes on alone obtains its lock, wherever the other threads are. -/
theorem Orderly.exists_reading (orderly : Orderly state)
    (attempting : (state.pc thread).attempting = true)
    : ∃ count finish read,
        count ≤ 6 ∧ Alone isTrivial thread count state finish
        ∧ finish.pc thread = .reading read := by
  cases point : state.pc thread <;> rw [point] at attempting <;>
    simp only [Pc.attempting, Bool.false_eq_true] at attempting
  case load since =>
    obtain ⟨finish, read, run, reading⟩ := orderly.exists_reading_of_load point
    exact ⟨3, finish, read, by omega, run, reading⟩
  case tryLock read =>
    cases tried : (state.bufferAt read.index).mutex.tryLockShared thread with
    | none =>
        have fails : DoubleBuffer.advance isTrivial state (thread, .proceed)
            = some (state.goto thread (.load read.since)) := by
          apply advance_of_advanceRead point
          simp only [advanceRead, tried]
        obtain ⟨finish, last, later, reading⟩ :=
          (orderly.advance fails).exists_reading_of_load (goto_pc ..)
        exact ⟨4, finish, last, by omega, .cons fails later, reading⟩
    | some mutex =>
        have locks : DoubleBuffer.advance isTrivial state (thread, .proceed)
            = some ((state.setMutex read.index mutex).goto thread (.recheck read)) := by
          exact advance_of_advanceRead point (advanceRead_tryLock state tried)
        obtain ⟨count, finish, last, few, later, reading⟩ :=
          (orderly.advance locks).exists_reading_of_recheck (goto_pc ..)
        exact ⟨count + 1, finish, last, by omega, .cons locks later, reading⟩
  case recheck read =>
    obtain ⟨count, finish, last, few, run, reading⟩ := orderly.exists_reading_of_recheck point
    exact ⟨count, finish, last, by omega, run, reading⟩
  case retry read =>
    obtain ⟨finish, last, run, reading⟩ := orderly.exists_reading_of_retry point
    exact ⟨4, finish, last, by omega, run, reading⟩

/-- The steps that are left in a read if nobody switches and no attempt fails spuriously; four more
where somebody has switched since the index was loaded.
-/
def Pc.remaining (switched : Nat) : Pc Value → Nat
  | .load _ => 4
  | .tryLock read => if read.observed = switched then 3 else 7
  | .recheck read => if read.observed = switched then 2 else 6
  | .retry _ => 5
  | .reading _ => 1
  | _ => 0

/-- A switch adds four steps to a read at most. -/
theorem Pc.remaining_le_of_switched (pc : Pc Value) {before after : Nat}
    (forward : before ≤ after)
    : pc.remaining after + 4 * before ≤ pc.remaining before + 4 * after := by
  cases pc with
  | tryLock read | recheck read =>
      simp only [Pc.remaining]
      split <;> split <;> omega
  | _ =>
      simp only [Pc.remaining]
      omega

/-- An attempt to lock may fail although nobody has locked for writing. -/
def Move.spurious : Move Value → Bool
  | .failTryLock => true
  | _ => false

def Move.startsRead : Move Value → Bool
  | .read => true
  | _ => false

/-- A thread that is not in a call, or in a read. -/
def Pc.outsideSet : Pc Value → Bool
  | .idle | .load _ | .tryLock _ | .recheck _ | .retry _ | .reading _ => true
  | _ => false

/-- Every step of a read is one of those that remain: an attempt fails only if somebody has switched
since the index was loaded, or spuriously.
-/
theorem Orderly.remaining_of_advanceRead (orderly : Orderly state) {move : Move Value}
    (taken : DoubleBuffer.advanceRead state thread (state.pc thread) move = some next)
    : (next.pc thread).remaining next.switched + 1
      ≤ (state.pc thread).remaining state.switched + 2 * (if move.spurious then 1 else 0) := by
  have same := (sameContents_of_advanceRead taken).1.switched
  have synced := orderly.synced thread
  have current {read : Read} (loaded : (state.pc thread).read? = some read)
      (latest : read.observed = state.switched) : read.index = state.currentIndex := by
    rw [(synced read loaded).1, latest, orderly.contents.currentIndex]
  rw [same]
  cases point : state.pc thread <;> cases move <;> rw [point] at taken current <;>
    simp only [DoubleBuffer.advanceRead, reduceCtorEq, Option.some.injEq] at taken
  case load.proceed since =>
    subst taken
    simp [Pc.remaining, Move.spurious]
  case tryLock.proceed read =>
    split at taken
    · obtain rfl := Option.some.inj taken
      simp only [goto_pc, Pc.remaining, Move.spurious]
      split <;> simp
    · rename_i locked
      obtain rfl := Option.some.inj taken
      -- the current buffer is never locked for writing
      have switched : read.observed ≠ state.switched := by
        intro latest
        obtain ⟨mutex, available⟩ :=
          SharedLock.exists_tryLockShared orderly.current_unwritten thread
        rw [current rfl latest, available] at locked
        cases locked
      simp [Pc.remaining, Move.spurious, switched]
  case tryLock.failTryLock read =>
    subst taken
    simp only [goto_pc, Pc.remaining, Move.spurious]
    split <;> simp
  case recheck.proceed read =>
    split at taken
    · obtain rfl := Option.some.inj taken
      simp only [goto_pc, Pc.remaining, Move.spurious]
      split <;> simp
    · rename_i changed
      obtain rfl := Option.some.inj taken
      have switched : read.observed ≠ state.switched := by
        intro latest
        have index := current rfl latest
        exact changed (index ▸ orderly.current_index)
      simp [Pc.remaining, Move.spurious, switched]
  case retry.proceed read =>
    subst taken
    simp [Pc.remaining, Move.spurious]
  case reading.proceed read =>
    subst taken
    simp [Pc.remaining, Move.spurious]

/-- The steps of a thread, its reads and its attempts that fail spuriously. -/
def stepsOf (thread : Thread) (labels : List (Thread × Move Value)) : Nat :=
  labels.countP (fun label => label.1 = thread)

def readsOf (thread : Thread) (labels : List (Thread × Move Value)) : Nat :=
  labels.countP (fun label => label.1 = thread ∧ label.2.startsRead)

def failuresOf (thread : Thread) (labels : List (Thread × Move Value)) : Nat :=
  labels.countP (fun label => label.1 = thread ∧ label.2.spurious)

/-- A thread has taken one step, or another thread has. -/
theorem counts_single (thread : Thread) (label : Thread × Move Value)
    : stepsOf thread [label] = (if label.1 = thread then 1 else 0)
      ∧ readsOf thread [label]
        = (if label.1 = thread ∧ label.2.startsRead = true then 1 else 0)
      ∧ failuresOf thread [label]
        = (if label.1 = thread ∧ label.2.spurious = true then 1 else 0) := by
  simp [stepsOf, readsOf, failuresOf, List.countP_cons]

/-- The steps of reads stay in reads, and start none. -/
theorem outsideSet_of_advanceRead {move : Move Value}
    (taken : advanceRead state thread (state.pc thread) move = some next)
    : (next.pc thread).outsideSet = true ∧ move.startsRead = false := by
  cases point : state.pc thread <;> cases move <;> rw [point] at taken <;>
    simp only [advanceRead, reduceCtorEq, Option.some.injEq] at taken
  case tryLock.proceed | recheck.proceed =>
    split at taken <;> obtain rfl := Option.some.inj taken
    all_goals
      rw [goto_pc]
      exact ⟨rfl, rfl⟩
  all_goals
    subst taken
    rw [goto_pc]
    exact ⟨rfl, rfl⟩

omit [DecidableEq Thread] in
/-- A thread outside `Set()` takes no step of it. -/
theorem advanceSet_of_outsideSet [DecidableEq Thread] {pc : Pc Value}
    (outside : pc.outsideSet = true)
    : advanceSet isTrivial state thread pc = none := by
  cases pc <;> first | rfl | cases outside

/-- The switches go forward. -/
theorem Orderly.forward (orderly : Orderly state) {label : Thread × Move Value}
    (taken : DoubleBuffer.advance isTrivial state label = some next)
    : state.switched ≤ next.switched
      ∧ ∃ pc, next.pc = Function.update state.pc label.1 pc := by
  obtain ⟨thread, move⟩ := label
  simp only [DoubleBuffer.advance] at taken
  split at taken
  · obtain rfl := Option.some.inj taken
    exact ⟨le_rfl, _, rfl⟩
  · obtain rfl := Option.some.inj taken
    exact ⟨le_rfl, _, rfl⟩
  · rcases Option.or_eq_some_iff.mp taken with read | ⟨-, sets⟩
    · obtain ⟨same, moved, -⟩ := sameContents_of_advanceRead read
      exact ⟨same.switched.ge, moved⟩
    · obtain ⟨forward, pc, moved, -⟩ :=
        forward_of_advanceSet orderly.locked orderly.contents sets
      exact ⟨forward.switched, pc, moved⟩
  · obtain ⟨same, moved, -⟩ := sameContents_of_advanceRead taken
    exact ⟨same.switched.ge, moved⟩

/-- A thread that reads goes on with its read or starts one, or another thread moves. -/
theorem Orderly.remaining_of_advance (orderly : Orderly state)
    (outside : (state.pc thread).outsideSet = true) {label : Thread × Move Value}
    (noSet : ∀ value, label ≠ (thread, .set value))
    (taken : DoubleBuffer.advance isTrivial state label = some next)
    : (next.pc thread).outsideSet = true
      ∧ stepsOf thread [label] + (next.pc thread).remaining next.switched + 4 * state.switched
        ≤ (state.pc thread).remaining state.switched + 5 * readsOf thread [label]
          + 2 * failuresOf thread [label] + 4 * next.switched := by
  obtain ⟨steps, reads, failures⟩ := counts_single thread label
  rw [steps, reads, failures]
  obtain ⟨forward, pc, moved⟩ := orderly.forward taken
  obtain ⟨mover, move⟩ := label
  by_cases mine : mover = thread
  · subst mine
    simp only [true_and, if_true]
    have goesOn {move : Move Value}
        (taken : DoubleBuffer.advanceRead state mover (state.pc mover) move = some next) :
        (next.pc mover).outsideSet = true
        ∧ 1 + (next.pc mover).remaining next.switched + 4 * state.switched
          ≤ (state.pc mover).remaining state.switched
            + 5 * (if move.startsRead = true then 1 else 0)
            + 2 * (if move.spurious = true then 1 else 0) + 4 * next.switched := by
      have left := orderly.remaining_of_advanceRead taken
      obtain ⟨outside, startless⟩ := outsideSet_of_advanceRead taken
      refine ⟨outside, ?_⟩
      rw [startless, if_neg Bool.false_ne_true]
      omega
    simp only [DoubleBuffer.advance] at taken
    split at taken
    · rename_i idle
      obtain rfl := Option.some.inj taken
      rw [goto_pc]
      refine ⟨rfl, ?_⟩
      change 1 + 4 + 4 * state.switched
        ≤ (state.pc mover).remaining state.switched + 5 * 1 + 2 * 0 + 4 * state.switched
      omega
    · exact absurd rfl (noSet _)
    · rw [advanceSet_of_outsideSet outside, Option.or_none] at taken
      exact goesOn taken
    · exact goesOn taken
  · have same : next.pc thread = state.pc thread := by
      rw [moved, Function.update_of_ne (Ne.symm mine)]
    have left := (state.pc thread).remaining_le_of_switched forward
    simp only [mine, false_and, if_false, same]
    exact ⟨outside, by omega⟩

/-- In any number of steps a thread that reads takes four steps for each read, and four for each
switch, by induction on the run.
-/
theorem Orderly.steps_le (orderly : Orderly state) {labels : List (Thread × Move Value)}
    {finish : State Thread Value}
    (run : (system Thread Value isTrivial).Run state labels finish)
    (outside : (state.pc thread).outsideSet = true)
    (noSet : ∀ value, (thread, .set value) ∉ labels)
    : (Orderly finish ∧ (finish.pc thread).outsideSet = true)
      ∧ stepsOf thread labels + (finish.pc thread).remaining finish.switched
          + 4 * state.switched
        ≤ (state.pc thread).remaining state.switched + 5 * readsOf thread labels
          + 2 * failuresOf thread labels + 4 * finish.switched := by
  induction run with
  | nil => exact ⟨⟨orderly, outside⟩, by simp [stepsOf, readsOf, failuresOf]⟩
  | @snoc middle finish labels label _ last ih =>
      obtain ⟨⟨between, reads⟩, before⟩ :=
        ih (fun value member => noSet value (List.mem_append_left _ member))
      have different : ∀ value, label ≠ (thread, .set value) := by
        intro value same
        exact noSet value (List.mem_append_right _ (List.mem_singleton.mpr same.symm))
      obtain ⟨stays, after⟩ := between.remaining_of_advance reads different last
      refine ⟨⟨between.advance last, stays⟩, ?_⟩
      simp only [stepsOf, readsOf, failuresOf, List.countP_append] at before after ⊢
      omega

/-- A read that goes on alone obtains its lock in six steps, wherever the other threads are
suspended. And in any interleaving the number of steps that a thread takes in its reads is bounded:
five for each read, two for each attempt that fails spuriously, and four for each switch, so that
an attempt that fails has been overtaken by a call of `Set()`.
-/
theorem read_lock_free {state : State Thread Value}
    (reached : (system Thread Value isTrivial).Reachable state) (thread : Thread)
    : ((state.pc thread).attempting = true
        → ∃ count finish read,
            count ≤ 6
            ∧ (system Thread Value isTrivial).Run state
                (List.replicate count (thread, .proceed)) finish
            ∧ finish.pc thread = .reading read)
      ∧ ∀ labels finish,
          state.pc thread = .idle
          → (system Thread Value isTrivial).Run state labels finish
          → (∀ value, (thread, .set value) ∉ labels)
          → stepsOf thread labels
            ≤ 5 * readsOf thread labels + 2 * failuresOf thread labels
              + 4 * (finish.switched - state.switched) := by
  have orderly := orderly_of_reachable reached
  refine ⟨orderly.exists_reading, ?_⟩
  intro labels finish idle run noSet
  obtain ⟨-, bound⟩ := orderly.steps_le run (by rw [idle]; rfl) noSet
  rw [idle] at bound
  simp only [Pc.remaining] at bound
  omega

/-- A read obtains its lock while a call of `Set()` is suspended under the other buffer's lock. -/
theorem read_lock_free_suspended
    : ∃ state : State Bool Nat,
        (state.bufferAt 2).mutex = .exclusive true
        ∧ state.pc false = .load 0
        ∧ ∃ count finish read,
            count ≤ 6
            ∧ (system Bool Nat false).Run state (List.replicate count (false, .proceed)) finish
            ∧ finish.pc false = .reading read := by
  have start : (system Bool Nat false).Reachable (constructed Nat 5) :=
    .initial (constructed_constructed Nat 5)
  have called := start.step (true, .set 7) rfl
  have begun := called.step (true, .proceed) rfl
  have loaded := begun.step (true, .proceed) rfl
  have stored := loaded.step (true, .proceed) rfl
  have locked := stored.step (true, .proceed) rfl
  have reads := locked.step (false, .read) rfl
  exact ⟨_, rfl, rfl, (read_lock_free reads false).1 rfl⟩

end Aspl.DoubleBuffer
