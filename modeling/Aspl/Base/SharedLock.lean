import Mathlib.Data.Finset.Basic

/-! Shared locks, as `std::shared_mutex`: held by any number of readers or by one writer.
A thread locks a shared lock at most once at a time.
-/

namespace Aspl

universe u

/-- Either a set of readers, which is empty on a free lock, or one writer. -/
inductive SharedLock (Thread : Type u) where
  | shared (readers : Finset Thread)
  | exclusive (writer : Thread)

namespace SharedLock

variable {Thread : Type u}

def free : SharedLock Thread := .shared ∅

/-- The thread is one of the readers. -/
def ReadBy : SharedLock Thread → Thread → Prop
  | .shared readers, thread => thread ∈ readers
  | .exclusive _, _ => False

/-- The thread is one of the readers, or the writer. -/
def HeldBy (lock : SharedLock Thread) (thread : Thread) : Prop :=
  lock.ReadBy thread ∨ lock = .exclusive thread

theorem not_heldBy_free (thread : Thread)
    : ¬ (free : SharedLock Thread).HeldBy thread := by
  intro held
  rcases held with reads | writes
  · exact Finset.notMem_empty thread reads
  · cases writes

/-- There are finitely many readers. -/
theorem exists_readers (lock : SharedLock Thread)
    : ∃ readers : Finset Thread, ∀ thread, lock.ReadBy thread → thread ∈ readers := by
  cases lock with
  | shared readers => exact ⟨readers, fun _ reads => reads⟩
  | exclusive => exact ⟨∅, fun _ reads => reads.elim⟩

/-- What `thread` does to the lock leaves it with the other threads that hold it. -/
structure KeepsOthers (thread : Thread) (before after : SharedLock Thread) : Prop where
  shared : ∀ other ≠ thread, before.ReadBy other → after.ReadBy other
  exclusive : ∀ other ≠ thread, before = .exclusive other → after = .exclusive other

theorem KeepsOthers.refl (thread : Thread) (lock : SharedLock Thread)
    : KeepsOthers thread lock lock :=
  ⟨fun _ _ reads => reads, fun _ _ writes => writes⟩

/-- Unlocking the writer keeps the other holders: there were none. -/
theorem KeepsOthers.unlock (thread : Thread)
    : KeepsOthers thread (.exclusive thread) .free := by
  refine ⟨fun other _ reads => reads.elim, ?_⟩
  intro other different writes
  exact absurd (SharedLock.exclusive.inj writes).symm different

variable [DecidableEq Thread]

/-- `try_lock_shared()`, where it does not fail spuriously. -/
def tryLockShared : SharedLock Thread → Thread → Option (SharedLock Thread)
  | .shared readers, thread => some (.shared (insert thread readers))
  | .exclusive _, _ => none

def unlockShared : SharedLock Thread → Thread → SharedLock Thread
  | .shared readers, thread => .shared (readers.erase thread)
  | .exclusive writer, _ => .exclusive writer

/-- `lock()`, which blocks while anyone holds the lock. -/
def lock : SharedLock Thread → Thread → Option (SharedLock Thread)
  | .shared readers, thread => if readers = ∅ then some (.exclusive thread) else none
  | .exclusive _, _ => none

/-- Locking for reading adds the thread to the readers, and only to readers. -/
theorem tryLockShared_spec {lock locked : SharedLock Thread} {thread : Thread}
    (taken : lock.tryLockShared thread = some locked)
    : locked.ReadBy thread
      ∧ (∀ other, lock.ReadBy other → locked.ReadBy other)
      ∧ ∀ writer, lock ≠ .exclusive writer := by
  cases lock with
  | shared readers =>
      obtain rfl := Option.some.inj taken
      refine ⟨Finset.mem_insert_self .., ?_, ?_⟩
      · intro other reads
        exact Finset.mem_insert_of_mem reads
      · intro writer same
        cases same
  | exclusive => cases taken

/-- Unlocking a reader keeps the other readers and a writer. -/
theorem readBy_unlockShared {lock : SharedLock Thread} {thread other : Thread}
    (reads : lock.ReadBy other) (different : other ≠ thread)
    : (lock.unlockShared thread).ReadBy other := by
  cases lock with
  | shared => exact Finset.mem_erase.mpr ⟨different, reads⟩
  | exclusive => exact reads

/-- Locking for reading keeps the other holders. -/
theorem KeepsOthers.tryLockShared {lock locked : SharedLock Thread} {thread : Thread}
    (taken : lock.tryLockShared thread = some locked)
    : KeepsOthers thread lock locked := by
  obtain ⟨-, kept, notExclusive⟩ := tryLockShared_spec taken
  exact ⟨fun other _ => kept other, fun other _ writes => absurd writes (notExclusive other)⟩

/-- Unlocking a reader keeps the other holders. -/
theorem KeepsOthers.unlockShared (lock : SharedLock Thread) (thread : Thread)
    : KeepsOthers thread lock (lock.unlockShared thread) := by
  refine ⟨fun other different reads => readBy_unlockShared reads different, ?_⟩
  intro other _ writes
  rw [writes]
  rfl

/-- Only a lock that nobody holds can be locked for writing. -/
theorem lock_spec {lock locked : SharedLock Thread} {thread : Thread}
    (taken : lock.lock thread = some locked)
    : lock = .free ∧ locked = .exclusive thread := by
  cases lock with
  | shared readers =>
      simp only [SharedLock.lock, Option.ite_none_right_eq_some, Option.some.injEq] at taken
      obtain ⟨rfl, rfl⟩ := taken
      exact ⟨rfl, rfl⟩
  | exclusive => cases taken

/-- Locking for writing keeps the other holders: there were none. -/
theorem KeepsOthers.lock {lock locked : SharedLock Thread} {thread : Thread}
    (taken : lock.lock thread = some locked)
    : KeepsOthers thread lock locked := by
  obtain ⟨rfl, -⟩ := lock_spec taken
  exact ⟨fun other _ reads => absurd reads (Finset.notMem_empty other), nofun⟩

/-- Locking for reading gives the lock to no other thread. -/
theorem heldBy_of_tryLockShared {lock locked : SharedLock Thread} {thread other : Thread}
    (taken : lock.tryLockShared thread = some locked) (different : other ≠ thread)
    (held : locked.HeldBy other)
    : lock.HeldBy other := by
  cases lock with
  | shared readers =>
      obtain rfl := Option.some.inj taken
      rcases held with reads | writes
      · exact .inl (Finset.mem_of_mem_insert_of_ne reads different)
      · cases writes
  | exclusive => cases taken

/-- Unlocking a reader gives the lock to nobody. -/
theorem heldBy_of_unlockShared {lock : SharedLock Thread} {thread other : Thread}
    (held : (lock.unlockShared thread).HeldBy other)
    : lock.HeldBy other := by
  cases lock with
  | shared =>
      rcases held with reads | writes
      · exact .inl (Finset.mem_of_mem_erase reads)
      · cases writes
  | exclusive => exact held

/-- After a reader has unlocked, the readers are the others that were there. -/
theorem readBy_of_unlockShared {lock : SharedLock Thread} {thread other : Thread}
    (reads : (lock.unlockShared thread).ReadBy other)
    : other ≠ thread ∧ lock.ReadBy other := by
  cases lock with
  | shared readers => exact Finset.mem_erase.mp reads
  | exclusive => exact reads.elim

/-- A reader that has unlocked does not hold the lock. -/
theorem not_heldBy_unlockShared {lock : SharedLock Thread} {thread : Thread}
    (reads : lock.ReadBy thread)
    : ¬ (lock.unlockShared thread).HeldBy thread := by
  cases lock with
  | shared readers =>
      intro held
      rcases held with still | writes
      · exact Finset.notMem_erase thread readers still
      · cases writes
  | exclusive => exact reads.elim

/-- A lock that is not held for writing can be locked for reading. -/
theorem exists_tryLockShared {lock : SharedLock Thread}
    (unwritten : ∀ writer, lock ≠ .exclusive writer) (thread : Thread)
    : ∃ locked, lock.tryLockShared thread = some locked := by
  cases lock with
  | shared readers => exact ⟨_, rfl⟩
  | exclusive writer => exact absurd rfl (unwritten writer)

/-- A lock that nobody holds can be locked for writing. -/
theorem exists_lock {lock : SharedLock Thread} (unheld : ∀ thread, ¬ lock.HeldBy thread)
    (thread : Thread)
    : ∃ locked, lock.lock thread = some locked := by
  cases lock with
  | shared readers =>
      have nobody : readers = ∅ := by
        apply Finset.eq_empty_of_forall_notMem
        intro reader reads
        exact unheld reader (.inl reads)
      exact ⟨.exclusive thread, by rw [SharedLock.lock, if_pos nobody]⟩
  | exclusive writer => exact absurd (.inr rfl) (unheld writer)

/-- Locking for reading is only refused to readers while there is a writer. -/
theorem exists_writer {lock : SharedLock Thread} {thread : Thread}
    (refused : lock.tryLockShared thread = none)
    : ∃ writer, lock = .exclusive writer := by
  cases lock with
  | shared readers => cases refused
  | exclusive writer => exact ⟨writer, rfl⟩

/-- Unlocking a reader makes nobody a writer. -/
theorem exclusive_of_unlockShared {lock : SharedLock Thread} {thread writer : Thread}
    (writes : lock.unlockShared thread = .exclusive writer)
    : lock = .exclusive writer := by
  cases lock with
  | shared readers => cases writes
  | exclusive other => exact writes

end SharedLock

end Aspl
