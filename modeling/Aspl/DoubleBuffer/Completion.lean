import Aspl.DoubleBuffer.Progress

/-! Every call on a double buffer can finish. `Set()` waits only for reads that loaded the index
before the last switch, and from every state there is a way on that lets a given thread return.
-/

namespace Aspl.DoubleBuffer

universe u v

variable {Thread : Type u} {Value : Type v} [DecidableEq Thread]
  {state next : State Thread Value} {thread : Thread} {isTrivial : Bool}

omit [DecidableEq Thread] in
/-- The readers of a buffer are threads whose program points say so. -/
theorem Orderly.sharedIndex (orderly : Orderly state) {slot : Slot}
    (reads : (state.buffers slot).mutex.ReadBy thread)
    : ∃ index, (state.pc thread).sharedIndex = some index ∧ getBufferAt index = slot := by
  obtain ⟨index, locked, rfl⟩ := orderly.held slot thread (.inl reads)
  refine ⟨index, ?_, rfl⟩
  cases shared : (state.pc thread).sharedIndex with
  | some other => simpa [Pc.lockedIndex, shared] using locked
  | none =>
      have exclusive : (state.pc thread).exclusiveIndex = some index := by
        simpa [Pc.lockedIndex, shared] using locked
      have writes := orderly.locked.exclusive thread index exclusive
      rw [State.bufferAt] at writes
      rw [writes] at reads
      exact reads.elim

omit [DecidableEq Thread] in
/-- A thread with a lock for writing, or that waits for one, is inside `Set()`. -/
theorem Pc.inSet_of_used {pc : Pc Value} {index : Int}
    (used : pc.waitedIndex = some index ∨ pc.exclusiveIndex = some index)
    : pc.inSet = true := by
  cases pc <;> first | rfl | (rcases used with waits | writes <;> contradiction)

omit [DecidableEq Thread] in
/-- Where a call of `Set()` waits nobody has locked for writing. -/
theorem Orderly.waited_unwritten (orderly : Orderly state) {index : Int}
    (waits : (state.pc thread).waitedIndex = some index) (writer : Thread)
    : (state.bufferAt index).mutex ≠ .exclusive writer := by
  intro writes
  obtain ⟨other, exclusive, -⟩ := orderly.exclusiveIndex writes
  have mine := orderly.locked.writer thread (Pc.inSet_of_used (.inl waits))
  have theirs := orderly.locked.writer writer (Pc.inSet_of_used (.inr exclusive))
  obtain rfl := Option.some.inj (mine.symm.trans theirs)
  cases point : state.pc thread <;> rw [point] at waits exclusive <;> contradiction

omit [DecidableEq Thread] in
/-- A read that a call of `Set()` waits for has loaded the index before the last switch. -/
theorem Orderly.older_read (orderly : Orderly state) {index : Int}
    (waits : (state.pc thread).waitedIndex = some index) {holder : Thread}
    (holds : (state.bufferAt index).mutex.HeldBy holder)
    : ∃ read, (state.pc holder).read? = some read ∧ read.observed < state.switched := by
  rcases holds with reads | writes
  · obtain ⟨other, shared, same⟩ := orderly.sharedIndex reads
    have loaded : ∃ read, (state.pc holder).read? = some read ∧ read.index = other := by
      cases point : state.pc holder <;> rw [point] at shared <;>
        simp only [Pc.sharedIndex, reduceCtorEq, Option.some.injEq] at shared
      all_goals exact ⟨_, rfl, shared⟩
    obtain ⟨read, found, rfl⟩ := loaded
    obtain ⟨number, observed⟩ := orderly.synced holder read found
    refine ⟨read, found, lt_of_le_of_ne observed ?_⟩
    intro latest
    apply orderly.not_current (.inl waits)
    rw [← same, number, latest, orderly.contents.currentIndex]
  · exact absurd writes (orderly.waited_unwritten waits holder)

-----------------------------------------------------------------------------------------
-- Readers leave
-----------------------------------------------------------------------------------------

/-- Some readers have left, and threads that have locked nothing for reading have not moved. -/
structure Left (state finish : State Thread Value) : Prop where
  orderly : Orderly finish
  readers
    : ∀ slot thread,
        (finish.buffers slot).mutex.ReadBy thread → (state.buffers slot).mutex.ReadBy thread
  pc : ∀ thread, (state.pc thread).sharedIndex = none → finish.pc thread = state.pc thread
  writeMutex : finish.writeMutex = state.writeMutex

omit [DecidableEq Thread] in
theorem Left.refl (orderly : Orderly state)
    : Left state state :=
  ⟨orderly, fun _ _ reads => reads, fun _ _ => rfl, rfl⟩

omit [DecidableEq Thread] in
theorem Left.trans {middle finish : State Thread Value} (first : Left state middle)
    (second : Left middle finish)
    : Left state finish where
  orderly := second.orderly
  readers slot thread reads := first.readers slot thread (second.readers slot thread reads)
  pc thread outside := by
    have same := first.pc thread outside
    rw [second.pc thread (same ▸ outside), same]
  writeMutex := second.writeMutex.trans first.writeMutex

/-- A reader unlocks its buffer. -/
theorem Orderly.unlockShared (orderly : Orderly state) {pc : Pc Value} {index : Int}
    (shared : (state.pc thread).sharedIndex = some index)
    (after
      : Orderly
          ((state.setMutex index ((state.bufferAt index).mutex.unlockShared thread)).goto thread
            pc))
    : let finish :=
        (state.setMutex index ((state.bufferAt index).mutex.unlockShared thread)).goto thread pc
      Left state finish ∧ ∀ slot, ¬ (finish.buffers slot).mutex.ReadBy thread := by
  have others (slot : Slot) (other : Thread)
      (reads : ((state.setMutex index
        ((state.bufferAt index).mutex.unlockShared thread)).buffers slot).mutex.ReadBy other) :
      other ≠ thread ∧ (state.buffers slot).mutex.ReadBy other := by
    rcases setMutex_mutex_cases state index
        ((state.bufferAt index).mutex.unlockShared thread) slot with
      ⟨rfl, changed⟩ | ⟨different, kept⟩
    · rw [changed] at reads
      exact SharedLock.readBy_of_unlockShared reads
    · rw [kept] at reads
      refine ⟨?_, reads⟩
      intro same
      obtain ⟨found, mine, slotOf⟩ := orderly.sharedIndex (same ▸ reads)
      obtain rfl := Option.some.inj (shared.symm.trans mine)
      exact different slotOf.symm
  refine ⟨⟨after, fun slot other reads => (others slot other reads).2, ?_, rfl⟩, ?_⟩
  · intro other outside
    refine Function.update_of_ne ?_ _ _
    rintro rfl
    cases shared.symm.trans outside
  · intro slot reads
    exact (others slot thread reads).1 rfl

/-- A read that holds its lock for the last step gives it back. -/
theorem Orderly.exists_unlocked_of_last (orderly : Orderly state) {pc after : Pc Value}
    {read : Read} (point : state.pc thread = pc) (shared : pc.sharedIndex = some read.index)
    (taken
      : advanceRead state thread pc .proceed
        = some
          ((state.setMutex read.index
            ((state.bufferAt read.index).mutex.unlockShared thread)).goto thread after))
    : ∃ finish,
        Alone isTrivial thread 1 state finish
        ∧ Left state finish ∧ ∀ slot, ¬ (finish.buffers slot).mutex.ReadBy thread := by
  have step : DoubleBuffer.advance isTrivial state (thread, .proceed) = some _ :=
    advance_of_advanceRead point taken
  exact ⟨_, .cons step (.nil _),
    orderly.unlockShared (by rw [point]; exact shared) (orderly.advance step)⟩

/-- Every thread can give back what it has locked for reading. -/
theorem Orderly.exists_unlocked (orderly : Orderly state) (thread : Thread)
    : ∃ count finish,
        Alone isTrivial thread count state finish
        ∧ Left state finish ∧ ∀ slot, ¬ (finish.buffers slot).mutex.ReadBy thread := by
  cases shared : (state.pc thread).sharedIndex with
  | none =>
      refine ⟨0, state, .nil _, .refl orderly, ?_⟩
      intro slot reads
      obtain ⟨index, mine, -⟩ := orderly.sharedIndex reads
      cases shared.symm.trans mine
  | some index =>
      cases point : state.pc thread <;> rw [point] at shared <;>
        simp only [Pc.sharedIndex, reduceCtorEq] at shared
      case retry read | reading read =>
        exact ⟨1, orderly.exists_unlocked_of_last point rfl rfl⟩
      case recheck read =>
        have moves {pc : Pc Value} (shares : pc.sharedIndex = some read.index)
            (taken : DoubleBuffer.advance isTrivial state (thread, .proceed)
              = some (state.goto thread pc)) :
            Left state (state.goto thread pc) := by
          refine ⟨orderly.advance taken, fun _ _ reads => reads, ?_, rfl⟩
          intro other outside
          refine Function.update_of_ne ?_ _ _
          rintro rfl
          rw [point] at outside
          cases outside
        by_cases unchanged : (state.bufferAt read.index).index = read.index
        · have reads : DoubleBuffer.advance isTrivial state (thread, .proceed)
              = some (state.goto thread (.reading read)) := by
            apply advance_of_advanceRead point
            simp only [advanceRead, unchanged, if_true]
          obtain ⟨finish, last, left, free⟩ :=
            (orderly.advance reads).exists_unlocked_of_last (goto_pc ..) rfl rfl
          exact ⟨2, finish, .cons reads last, (moves rfl reads).trans left, free⟩
        · have fails : DoubleBuffer.advance isTrivial state (thread, .proceed)
              = some (state.goto thread (.retry read)) := by
            apply advance_of_advanceRead point
            simp only [advanceRead, unchanged, if_false]
          obtain ⟨finish, last, left, free⟩ :=
            (orderly.advance fails).exists_unlocked_of_last (goto_pc ..) rfl rfl
          exact ⟨2, finish, .cons fails last, (moves rfl fails).trans left, free⟩

/-- A run in which no call starts and no attempt fails spuriously. -/
def Proceeds (isTrivial : Bool) (start finish : State Thread Value) : Prop :=
  ∃ labels, (∀ label ∈ labels, label.2 = .proceed)
    ∧ (system Thread Value isTrivial).Run start labels finish

theorem Proceeds.refl (state : State Thread Value)
    : Proceeds isTrivial state state :=
  ⟨[], by simp, .nil state⟩

theorem Proceeds.trans {start middle finish : State Thread Value}
    (first : Proceeds isTrivial start middle) (second : Proceeds isTrivial middle finish)
    : Proceeds isTrivial start finish := by
  obtain ⟨labels, proceed, run⟩ := first
  obtain ⟨more, further, tail⟩ := second
  refine ⟨labels ++ more, ?_, run.append tail⟩
  intro label member
  rcases List.mem_append.mp member with early | late
  · exact proceed label early
  · exact further label late

theorem Alone.proceeds {count : Nat} {finish : State Thread Value}
    (alone : Alone isTrivial thread count state finish)
    : Proceeds isTrivial state finish := by
  refine ⟨_, ?_, alone⟩
  intro label member
  rw [List.eq_of_mem_replicate member]

/-- All readers can leave, by induction on the set that they are from. -/
theorem Orderly.exists_unread_of_subset (readers : Finset Thread)
    : ∀ {state : State Thread Value},
        Orderly state
        → (∀ slot thread, (state.buffers slot).mutex.ReadBy thread → thread ∈ readers)
        → ∃ finish,
            Proceeds isTrivial state finish ∧ Left state finish
            ∧ ∀ slot thread, ¬ (finish.buffers slot).mutex.ReadBy thread := by
  induction readers using Finset.induction_on with
  | empty =>
      intro state orderly among
      refine ⟨state, .refl state, .refl orderly, ?_⟩
      intro slot thread reads
      exact Finset.notMem_empty thread (among slot thread reads)
  | insert reader readers _ ih =>
      intro state orderly among
      obtain ⟨count, middle, alone, first, free⟩ := orderly.exists_unlocked reader
      have fewer
          : ∀ slot thread, (middle.buffers slot).mutex.ReadBy thread → thread ∈ readers := by
        intro slot thread reads
        rcases Finset.mem_insert.mp (among slot thread (first.readers slot thread reads)) with
          rfl | rest
        · exact absurd reads (free slot)
        · exact rest
      obtain ⟨finish, later, second, unread⟩ := ih first.orderly fewer
      exact ⟨finish, alone.proceeds.trans later, first.trans second, unread⟩

variable (isTrivial) in
/-- All readers can leave. -/
theorem Orderly.exists_unread (orderly : Orderly state)
    : ∃ finish,
        Proceeds isTrivial state finish ∧ Left state finish
        ∧ ∀ slot thread, ¬ (finish.buffers slot).mutex.ReadBy thread := by
  obtain ⟨first, inFirst⟩ := (state.buffers 0).mutex.exists_readers
  obtain ⟨second, inSecond⟩ := (state.buffers 1).mutex.exists_readers
  refine Orderly.exists_unread_of_subset (first ∪ second) orderly ?_
  intro slot thread reads
  match slot with
  | 0 => exact Finset.mem_union_left _ (inFirst thread reads)
  | 1 => exact Finset.mem_union_right _ (inSecond thread reads)

-----------------------------------------------------------------------------------------
-- Calls of Set() finish
-----------------------------------------------------------------------------------------

/-- The steps that are left in a call that has locked `writeMutex_`. -/
def Pc.callSteps : Pc Value → Nat
  | .loadIndex _ _ => 11
  | .storeIndex _ => 10
  | .lockNew _ => 9
  | .storeValue _ => 8
  | .unlockNew _ => 7
  | .switch _ => 6
  | .invalidate _ => 5
  | .lockOld _ => 4
  | .destroy _ => 3
  | .unlockOld _ => 2
  | .unlockWrite _ => 1
  | _ => 0

/-- A call of `Set()` has gone on, or has returned and unlocked `writeMutex_`. -/
structure WentOn (thread : Thread) (state next : State Thread Value) : Prop where
  unread : ∀ slot other, ¬ (next.buffers slot).mutex.ReadBy other
  progress
    : ((next.pc thread).inSet = true ∧ (next.pc thread).callSteps < (state.pc thread).callSteps)
      ∨ (next.pc thread = .idle ∧ next.writeMutex = none)

/-- Where nobody reads, a call moves on with the locks that it has. -/
theorem wentOn_of_sameLocks (unread : ∀ slot other, ¬ (state.buffers slot).mutex.ReadBy other)
    (sameLocks : ∀ slot, (next.buffers slot).mutex = (state.buffers slot).mutex)
    {pc : Pc Value} (moved : next.pc = Function.update state.pc thread pc)
    (inSet : pc.inSet = true) (fewer : pc.callSteps < (state.pc thread).callSteps)
    : WentOn thread state next := by
  refine ⟨?_, .inl ?_⟩
  · intro slot other
    rw [sameLocks]
    exact unread slot other
  · rw [moved, Function.update_self]
    exact ⟨inSet, fewer⟩

/-- Where nobody reads, a call locks a buffer for writing, or unlocks it. -/
theorem wentOn_of_setMutex (unread : ∀ slot other, ¬ (state.buffers slot).mutex.ReadBy other)
    (index : Int) (mutex : SharedLock Thread) (unshared : ∀ other, ¬ mutex.ReadBy other)
    {pc : Pc Value} (inSet : pc.inSet = true)
    (fewer : pc.callSteps < (state.pc thread).callSteps)
    : WentOn thread state ((state.setMutex index mutex).goto thread pc) := by
  refine ⟨?_, .inl ?_⟩
  · intro slot other reads
    rcases setMutex_mutex_cases state index mutex slot with ⟨-, changed⟩ | ⟨-, kept⟩
    · exact unshared other (changed ▸ reads)
    · exact unread slot other (kept ▸ reads)
  · rw [goto_pc]
    exact ⟨inSet, fewer⟩

variable (isTrivial) in
/-- Where nobody reads, a call of `Set()` is not blocked. -/
theorem Orderly.exists_wentOn (orderly : Orderly state)
    (unread : ∀ slot other, ¬ (state.buffers slot).mutex.ReadBy other)
    (inSet : (state.pc thread).inSet = true)
    : ∃ next,
        DoubleBuffer.advanceSet isTrivial state thread (state.pc thread) = some next
        ∧ WentOn thread state next := by
  have locks {index : Int} (waits : (state.pc thread).waitedIndex = some index) :
      ∃ mutex,
        (state.bufferAt index).mutex.lock thread = some mutex
        ∧ mutex = .exclusive thread := by
    have unheld : ∀ other, ¬ (state.bufferAt index).mutex.HeldBy other := by
      intro other holds
      rcases holds with reads | writes
      · exact unread _ other reads
      · exact orderly.waited_unwritten waits other writes
    obtain ⟨mutex, available⟩ := SharedLock.exists_lock unheld thread
    exact ⟨mutex, available, (SharedLock.lock_spec available).2⟩
  cases point : state.pc thread <;> rw [point] at inSet locks <;>
    simp only [Pc.inSet, Bool.false_eq_true] at inSet
  case lockNew call | lockOld call =>
    obtain ⟨mutex, available, rfl⟩ := locks rfl
    refine ⟨_, Option.map_eq_some_iff.mpr ⟨_, available, rfl⟩, ?_⟩
    exact wentOn_of_setMutex unread _ (.exclusive thread) (fun _ reads => reads) rfl
      (by simp [point, Pc.callSteps])
  case unlockNew call | unlockOld call =>
    exact ⟨_, rfl, wentOn_of_setMutex unread _ .free (fun other => Finset.notMem_empty other) rfl
      (by simp [point, Pc.callSteps])⟩
  case switch call =>
    refine ⟨_, rfl, wentOn_of_sameLocks unread (fun _ => rfl) rfl ?_ ?_⟩
    · cases isTrivial <;> rfl
    · rw [point]
      cases isTrivial <;> simp [Pc.callSteps]
  case unlockWrite call => exact ⟨_, rfl, unread, .inr ⟨goto_pc .., rfl⟩⟩
  case loadIndex value number =>
    exact ⟨_, rfl, wentOn_of_sameLocks unread (fun _ => rfl) rfl rfl
      (by simp [point, Pc.callSteps])⟩
  all_goals
    exact ⟨_, rfl, wentOn_of_sameLocks unread (setBuffer_mutex state _ _ rfl) rfl rfl
      (by simp [point, Pc.callSteps])⟩

theorem advance_of_advanceSet {pc : Pc Value} (point : state.pc thread = pc)
    (taken : advanceSet isTrivial state thread pc = some next)
    : advance isTrivial state (thread, .proceed) = some next := by
  cases pc <;>
    first
      | (cases taken; done)
      | simp only [advance, point, advanceRead, taken, Option.none_or]

/-- Where nobody reads, a call of `Set()` that goes on alone returns, by induction on its steps. -/
theorem Orderly.exists_returned (orderly : Orderly state)
    (unread : ∀ slot other, ¬ (state.buffers slot).mutex.ReadBy other)
    (inSet : (state.pc thread).inSet = true)
    : ∃ count finish,
        Alone isTrivial thread count state finish
        ∧ Orderly finish ∧ (∀ slot other, ¬ (finish.buffers slot).mutex.ReadBy other)
        ∧ finish.pc thread = .idle ∧ finish.writeMutex = none
        ∧ ∀ other ≠ thread, finish.pc other = state.pc other := by
  induction left : (state.pc thread).callSteps using Nat.strong_induction_on
    generalizing state with
  | _ left ih =>
    obtain ⟨next, taken, wentOn⟩ := orderly.exists_wentOn isTrivial unread inSet
    have step := advance_of_advanceSet rfl taken
    obtain ⟨-, pc, moved⟩ := orderly.forward step
    have others : ∀ other ≠ thread, next.pc other = state.pc other := by
      intro other different
      rw [moved, Function.update_of_ne different]
    rcases wentOn.progress with ⟨still, fewer⟩ | ⟨idle, free⟩
    · obtain ⟨count, finish, later, ends, silent, idle, free, same⟩ :=
        ih _ (left ▸ fewer) (orderly.advance step) wentOn.unread still rfl
      refine ⟨count + 1, finish, .cons step later, ends, silent, idle, free, ?_⟩
      intro other different
      rw [same other different, others other different]
    · exact ⟨1, next, .cons step (.nil _), orderly.advance step, wentOn.unread, idle, free, others⟩

/-- A read that is under way can finish. -/
theorem Orderly.exists_idle_of_read (orderly : Orderly state)
    (outside : (state.pc thread).outsideSet = true)
    : ∃ finish, Proceeds isTrivial state finish ∧ finish.pc thread = .idle := by
  have leaves {state : State Thread Value} {read : Read}
      (point : state.pc thread = .reading read) :
      ∃ finish, Alone isTrivial thread 1 state finish ∧ finish.pc thread = .idle :=
    ⟨_, .cons (advance_of_advanceRead point rfl) (.nil _), goto_pc ..⟩
  cases attempting : (state.pc thread).attempting with
  | true =>
      obtain ⟨count, middle, read, -, alone, reading⟩ := orderly.exists_reading attempting
      obtain ⟨finish, last, idle⟩ := leaves reading
      exact ⟨finish, alone.proceeds.trans last.proceeds, idle⟩
  | false =>
      cases point : state.pc thread <;> rw [point] at outside attempting <;>
        first | contradiction | skip
      case idle => exact ⟨state, .refl state, point⟩
      case reading =>
        obtain ⟨finish, last, idle⟩ := leaves point
        exact ⟨finish, last.proceeds, idle⟩

/-- A call of `Set()` that has locked `writeMutex_` can finish: first the readers leave. -/
theorem Orderly.exists_idle_of_inSet (orderly : Orderly state)
    (inSet : (state.pc thread).inSet = true)
    : ∃ finish,
        Proceeds isTrivial state finish ∧ Orderly finish
        ∧ (∀ slot other, ¬ (finish.buffers slot).mutex.ReadBy other)
        ∧ finish.pc thread = .idle ∧ finish.writeMutex = none
        ∧ ∀ other, other ≠ thread → (state.pc other).sharedIndex = none
            → finish.pc other = state.pc other := by
  obtain ⟨middle, first, left, unread⟩ := orderly.exists_unread isTrivial
  have unshared : (state.pc thread).sharedIndex = none := by
    cases point : state.pc thread <;> rw [point] at inSet <;> first | rfl | cases inSet
  have still : (middle.pc thread).inSet = true := by
    rw [left.pc thread unshared]
    exact inSet
  obtain ⟨count, finish, alone, ends, silent, idle, free, same⟩ :=
    left.orderly.exists_returned unread still
  refine ⟨finish, first.trans alone.proceeds, ends, silent, idle, free, ?_⟩
  intro other different outside
  rw [same other different, left.pc other outside]

/-- A call of `Set()` that waits for `writeMutex_` can finish: first the call that holds it does. -/
theorem Orderly.exists_idle_of_lockWrite (orderly : Orderly state) {value : Value}
    (point : state.pc thread = .lockWrite value)
    : ∃ finish, Proceeds isTrivial state finish ∧ finish.pc thread = .idle := by
  have begins {state : State Thread Value} (orderly : Orderly state)
      (point : state.pc thread = .lockWrite value) (free : state.writeMutex = none) :
      ∃ finish, Proceeds isTrivial state finish ∧ finish.pc thread = .idle := by
    let next : State Thread Value :=
      {
        state.goto thread (.loadIndex value state.stored.length) with
        writeMutex := some thread
        stored := state.stored ++ [value]
      }
    have step : DoubleBuffer.advance isTrivial state (thread, .proceed) = some next := by
      apply advance_of_advanceSet point
      simp only [advanceSet, free]
      rfl
    have inSet : (next.pc thread).inSet = true := by
      have moved : next.pc thread = .loadIndex value state.stored.length :=
        goto_pc state thread (.loadIndex value state.stored.length)
      rw [moved]
      rfl
    obtain ⟨finish, later, -, -, idle, -⟩ := (orderly.advance step).exists_idle_of_inSet inSet
    have first : Alone isTrivial thread 1 state next := .cons step (.nil _)
    exact ⟨finish, first.proceeds.trans later, idle⟩
  cases holder : state.writeMutex with
  | none => exact begins orderly point holder
  | some other =>
      have inSet := inSet_of_phase (orderly.contents.phase holder)
      obtain ⟨middle, first, between, -, -, free, same⟩ := orderly.exists_idle_of_inSet inSet
      have different : thread ≠ other := by
        rintro rfl
        rw [point] at inSet
        cases inSet
      have waits : middle.pc thread = .lockWrite value := by
        rw [same thread different (by rw [point]; rfl), point]
      obtain ⟨finish, later, idle⟩ := begins between waits free
      exact ⟨finish, first.trans later, idle⟩

variable (isTrivial) in
/-- Every call can finish. -/
theorem Orderly.exists_idle (orderly : Orderly state) (thread : Thread)
    : ∃ finish, Proceeds isTrivial state finish ∧ finish.pc thread = .idle := by
  cases outside : (state.pc thread).outsideSet with
  | true => exact orderly.exists_idle_of_read outside
  | false =>
      cases inSet : (state.pc thread).inSet with
      | true =>
          obtain ⟨finish, run, -, -, idle, -⟩ := orderly.exists_idle_of_inSet inSet
          exact ⟨finish, run, idle⟩
      | false =>
          cases point : state.pc thread <;> rw [point] at outside inSet <;>
            first | contradiction | skip
          case lockWrite => exact orderly.exists_idle_of_lockWrite point

/-- `Set()` waits only for reads that loaded the index before the last switch, so that no read that
starts while it waits can delay it. And there is no deadlock: from every reachable state any thread
can come to the end of its call, without a new call or a spurious failure.
-/
theorem set_can_finish {state : State Thread Value}
    (reached : (system Thread Value isTrivial).Reachable state)
    : (∀ writer holder index,
        (state.pc writer).waitedIndex = some index
        → (state.bufferAt index).mutex.HeldBy holder
        → ∃ read, (state.pc holder).read? = some read ∧ read.observed < state.switched)
      ∧ ∀ thread,
          ∃ labels finish,
            (∀ label ∈ labels, label.2 = .proceed)
            ∧ (system Thread Value isTrivial).Run state labels finish
            ∧ finish.pc thread = .idle := by
  have orderly := orderly_of_reachable reached
  refine ⟨fun _ _ _ waits holds => orderly.older_read waits holds, ?_⟩
  intro thread
  obtain ⟨finish, ⟨labels, proceed, run⟩, idle⟩ :=
    orderly.exists_idle isTrivial thread
  exact ⟨labels, finish, proceed, run, idle⟩

/-- A call of `Set()` waits for a read; both can finish. -/
theorem set_can_finish_waiting
    : ∃ state : State Bool Nat,
        (state.pc true).waitedIndex = some 1
        ∧ (state.bufferAt 1).mutex = .shared {false}
        ∧ ∀ thread,
            ∃ labels finish,
              (∀ label ∈ labels, label.2 = .proceed)
              ∧ (system Bool Nat false).Run state labels finish
              ∧ finish.pc thread = .idle := by
  have start : (system Bool Nat false).Reachable (constructed Nat 5) :=
    .initial (constructed_constructed Nat 5)
  have reads := start.step (false, .read) rfl
  have looked := reads.step (false, .proceed) rfl
  have tried := looked.step (false, .proceed) rfl
  have reading := tried.step (false, .proceed) rfl
  have called := reading.step (true, .set 7) rfl
  have begun := called.step (true, .proceed) rfl
  have loaded := begun.step (true, .proceed) rfl
  have stored := loaded.step (true, .proceed) rfl
  have locked := stored.step (true, .proceed) rfl
  have assigned := locked.step (true, .proceed) rfl
  have unlocked := assigned.step (true, .proceed) rfl
  have switched := unlocked.step (true, .proceed) rfl
  have waits := switched.step (true, .proceed) rfl
  exact ⟨_, rfl, rfl, (set_can_finish waits).2⟩

end Aspl.DoubleBuffer
