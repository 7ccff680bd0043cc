import Aspl.DoubleBuffer.Contents

/-! Reads of a double buffer are safe: a lock is only obtained on the value of the call of
`Set()` that was observed, nobody assigns to that buffer before the lock is released, and no
read observes a call older than those that had returned when it started.
The index check has one period of the index to catch a stale read.
-/

namespace Aspl.DoubleBuffer

universe u v

variable {Thread : Type u} {Value : Type v} [DecidableEq Thread]

variable {state next : State Thread Value} {thread : Thread}

omit [DecidableEq Thread] in
/-- At most one call has begun that has not switched. -/
theorem Contents.length_le (contents : Contents state)
    : state.stored.length ≤ state.switched + 2 := by
  cases writer : state.writeMutex with
  | none => exact ((progress_of_free writer).mp contents.progress).1.le.trans (Nat.le_succ _)
  | some thread =>
      have phase := contents.phase writer
      cases point : state.pc thread <;> rw [point] at phase
      case loadIndex | storeIndex | lockNew | storeValue | unlockNew | switch =>
        exact phase.1.length.le
      case invalidate | lockOld | destroy | unlockOld | unlockWrite =>
        exact phase.1.length.le.trans (Nat.le_succ _)
      all_goals exact phase.elim

omit [DecidableEq Thread] in
/-- The buffer that is not current is invalid, or holds the value of the call before the last
switch, or has the index of the call that has begun since.
-/
theorem Contents.other_cases (contents : Contents state)
    : state.Replaced
      ∨ (state.stored.length = state.switched + 2
        ∧ (state.bufferAt (bufferIndex (state.switched + 1))).index
          = bufferIndex (state.switched + 1)) := by
  cases writer : state.writeMutex with
  | none => exact Or.inl ((progress_of_free writer).mp contents.progress).2
  | some thread =>
      have phase := contents.phase writer
      cases point : state.pc thread <;> rw [point] at phase
      case loadIndex | invalidate | unlockWrite => exact Or.inl phase.2
      case storeIndex => exact Or.inl phase.2.2
      case lockNew | storeValue =>
        obtain ⟨began, -, index⟩ := phase
        exact Or.inr ⟨began.length, began.next ▸ index⟩
      case unlockNew | switch =>
        obtain ⟨began, -, holds⟩ := phase
        exact Or.inr ⟨began.length, began.next ▸ holds.index⟩
      case lockOld | destroy | unlockOld =>
        obtain ⟨switched, invalid⟩ := phase
        refine Or.inl (Or.inl ?_)
        rw [State.bufferAt, ← switched.oldIndex_eq]
        exact invalid
      all_goals exact phase.elim

-----------------------------------------------------------------------------------------
-- Reads
-----------------------------------------------------------------------------------------

/-- The local variables of a read that has loaded the current index. -/
def Pc.read? : Pc Value → Option Read
  | .tryLock read | .recheck read | .retry read | .reading read => some read
  | _ => none

/-- The call that had returned when a read started that has not loaded the current index. -/
def Pc.since? : Pc Value → Option Nat
  | .load since => some since
  | _ => none

/-- What a read has loaded is the index of the call that it observed. -/
structure Loaded (state : State Thread Value) (read : Read) : Prop where
  index : read.index = bufferIndex read.observed
  observed : read.observed ≤ state.switched
  begun : read.begun ≤ read.observed + 2
  since : read.since ≤ read.observed

/-- The buffer of a read holds the value of the call that the read observed. -/
def Observes (state : State Thread Value) (read : Read) : Prop :=
  ∃ value,
    state.stored[read.observed]? = some value
    ∧ (state.bufferAt read.index).value = some value

/-- Fewer than `bound` calls of `Set()` have begun between the load and the re-check of a read. -/
def FewSets (bound : Nat) (state : State Thread Value) (label : Thread × Move Value) : Prop :=
  ∀ read, state.pc label.1 = .recheck read → state.stored.length < read.begun + bound

/-- The read that a thread is about to re-check. -/
def Pc.rechecked? : Pc Value → Option Read
  | .recheck read => some read
  | _ => none

theorem Pc.rechecked?_eq_some_iff {pc : Pc Value} {read : Read}
    : pc.rechecked? = some read ↔ pc = .recheck read := by
  cases pc <;> simp [rechecked?]

instance (bound : Nat) (state : State Thread Value) (label : Thread × Move Value)
    : Decidable (FewSets bound state label) :=
  decidable_of_iff
    (∀ read ∈ (state.pc label.1).rechecked?, state.stored.length < read.begun + bound)
    (forall_congr' (fun _ => imp_congr_left Pc.rechecked?_eq_some_iff))

omit [DecidableEq Thread] in
/-- A re-check that finds the index unchanged finds the value of the observed call. Any other
call with the same index is at least `2 ^ 63` calls away.
-/
theorem Contents.observes (contents : Contents state) {read : Read} (loaded : Loaded state read)
    (few : state.stored.length < read.begun + (indexCount - 1))
    (unchanged : (state.bufferAt read.index).index = read.index)
    : Observes state read := by
  have begun := loaded.begun
  have observed := loaded.observed
  have length := contents.current.begun
  simp only [indexCount] at few
  have found (number : Nat) (holds : state.Holds number)
      (same : getBufferAt read.index = getBufferAt (bufferIndex number))
      (number_eq : read.observed = number) : Observes state read := by
    subst number_eq
    refine ⟨state.stored[read.observed], List.getElem?_eq_getElem holds.begun, ?_⟩
    rw [State.bufferAt, same, ← List.getElem?_eq_getElem holds.begun]
    exact holds.value
  have index_eq {number : Nat}
      (same : getBufferAt read.index = getBufferAt (bufferIndex number)) :
      bufferIndex read.observed = (state.bufferAt (bufferIndex number)).index := by
    rw [State.bufferAt, ← same, ← loaded.index]
    exact unchanged.symm
  rcases slot_cases (getBufferAt read.index) state.switched with current | other
  · have same := (index_eq current).trans contents.current.index
    have number_eq := bufferIndex_injective observed (by simp only [indexCount]; omega) same
    exact found state.switched contents.current current number_eq
  · rcases contents.other_cases with (invalid | ⟨number, after, holds⟩) | ⟨began, index⟩
    · exact absurd ((index_eq other).trans invalid) (bufferIndex_ne_invalid _)
    · have slot := other
      rw [after, getBufferAt_add_two] at slot
      have same := (index_eq slot).trans holds.index
      have earlier : read.observed ≠ number + 1 := by
        intro latest
        rw [loaded.index, latest] at slot
        exact getBufferAt_succ_ne number slot
      have before : read.observed ≤ number := by omega
      have number_eq := bufferIndex_injective before (by simp only [indexCount]; omega) same
      exact found number holds slot number_eq
    · have same := (index_eq other).trans index
      have number_eq := bufferIndex_injective (Nat.le_succ_of_le observed)
        (by simp only [indexCount]; omega) same
      omega

/-- Every read has loaded what it should, and every lock is on the observed value. -/
structure Reads (state : State Thread Value) : Prop where
  since : ∀ thread since, (state.pc thread).since? = some since → since ≤ state.switched
  loaded : ∀ thread read, (state.pc thread).read? = some read → Loaded state read
  observes : ∀ thread read, state.pc thread = .reading read → Observes state read

/-- A step switches forward, appends to the stored values and assigns to no buffer that another
thread reads.
-/
structure Forward (thread : Thread) (state next : State Thread Value) : Prop where
  switched : state.switched ≤ next.switched
  stored : ∀ (number : Nat) value, state.stored[number]? = some value
    → next.stored[number]? = some value
  values : ∀ other read, other ≠ thread → state.pc other = .reading read
    → (next.bufferAt read.index).value = (state.bufferAt read.index).value

/-- Other reads do not notice a step. -/
theorem Reads.update (reads : Reads state) (forward : Forward thread state next) {pc : Pc Value}
    (moved : next.pc = Function.update state.pc thread pc)
    (since : ∀ since, pc.since? = some since → since ≤ next.switched)
    (loaded : ∀ read, pc.read? = some read → Loaded next read)
    (observes : ∀ read, pc = .reading read → Observes next read)
    : Reads next where
  since := by
    intro other start current
    by_cases same : other = thread
    · rw [same, moved, Function.update_self] at current
      exact since start current
    · rw [moved, Function.update_of_ne same] at current
      exact (reads.since other start current).trans forward.switched
  loaded := by
    intro other read current
    by_cases same : other = thread
    · rw [same, moved, Function.update_self] at current
      exact loaded read current
    · rw [moved, Function.update_of_ne same] at current
      obtain ⟨index, observed, begun, start⟩ := reads.loaded other read current
      exact ⟨index, observed.trans forward.switched, begun, start⟩
  observes := by
    intro other read current
    by_cases same : other = thread
    · rw [same, moved, Function.update_self] at current
      exact observes read current
    · rw [moved, Function.update_of_ne same] at current
      obtain ⟨value, stored, holds⟩ := reads.observes other read current
      refine ⟨value, forward.stored _ _ stored, ?_⟩
      rw [forward.values other read same current, holds]

/-- A thread starts or retries a read. -/
theorem Reads.load (reads : Reads state) (forward : Forward thread state next) {start : Nat}
    (moved : next.pc = Function.update state.pc thread (.load start))
    (since : start ≤ next.switched)
    : Reads next := by
  apply reads.update forward moved
  · intro other current
    obtain rfl := Option.some.inj current
    exact since
  · intro read none
    cases none
  · intro read none
    cases none

/-- A thread goes on with what its read has loaded. -/
theorem Reads.goOn (reads : Reads state) (forward : Forward thread state next) {pc : Pc Value}
    (moved : next.pc = Function.update state.pc thread pc) {read : Read}
    (mine : pc.read? = some read) (loaded : Loaded next read)
    (observes : pc = .reading read → Observes next read)
    : Reads next := by
  apply reads.update forward moved
  · intro start current
    cases pc <;> first | (cases current; done) | cases mine
  · intro other current
    obtain rfl := Option.some.inj (mine.symm.trans current)
    exact loaded
  · intro other current
    subst current
    obtain rfl := Option.some.inj mine
    exact observes rfl

/-- A thread goes on outside reads. -/
theorem Reads.leave (reads : Reads state) (forward : Forward thread state next) {pc : Pc Value}
    (moved : next.pc = Function.update state.pc thread pc) (noSince : pc.since? = none)
    (noRead : pc.read? = none)
    : Reads next := by
  apply reads.update forward moved
  · intro start current
    cases noSince.symm.trans current
  · intro read current
    cases noRead.symm.trans current
  · intro read current
    subst current
    cases noRead

omit [DecidableEq Thread] in
/-- What keeps the contents goes forward. -/
theorem SameContents.forward (same : SameContents state next) (thread : Thread)
    : Forward thread state next where
  switched := same.switched.ge
  stored _ _ found := same.stored ▸ found
  values _ _ _ _ := same.value _

omit [DecidableEq Thread] in
/-- Moving contents with a loaded read. -/
theorem SameContents.loaded (same : SameContents state next) {read : Read}
    (loaded : Loaded state read)
    : Loaded next read :=
  ⟨loaded.index, same.switched.symm ▸ loaded.observed, loaded.begun, loaded.since⟩

/-- The steps of a read keep the reads. -/
theorem Reads.advanceRead (reads : Reads state) (contents : Contents state) {move : Move Value}
    (few : FewSets (indexCount - 1) state (thread, move))
    (taken : DoubleBuffer.advanceRead state thread (state.pc thread) move = some next)
    : Reads next := by
  have same := (sameContents_of_advanceRead taken).1
  have forward := same.forward thread
  have since := reads.since thread
  have loaded := reads.loaded thread
  cases point : state.pc thread <;> cases move <;> rw [point] at taken since loaded <;>
    simp only [DoubleBuffer.advanceRead, reduceCtorEq, Option.some.injEq] at taken
  case load.proceed start =>
    subst taken
    apply reads.goOn forward rfl rfl
    · exact ⟨contents.currentIndex, le_rfl, contents.length_le, since start rfl⟩
    · intro reading
      cases reading
  case tryLock.proceed read =>
    have mine := loaded read rfl
    split at taken <;> obtain rfl := Option.some.inj taken
    · apply reads.goOn forward rfl rfl (same.loaded mine)
      intro reading
      cases reading
    · exact reads.load forward rfl (mine.since.trans mine.observed)
  case tryLock.failTryLock read =>
    have mine := loaded read rfl
    subst taken
    exact reads.load forward rfl (mine.since.trans mine.observed)
  case recheck.proceed read =>
    have mine := loaded read rfl
    split at taken <;> obtain rfl := Option.some.inj taken
    · rename_i unchanged
      apply reads.goOn forward rfl rfl (same.loaded mine)
      intro reading
      exact contents.observes mine (few read point) unchanged
    · apply reads.goOn forward rfl rfl (same.loaded mine)
      intro reading
      cases reading
  case retry.proceed read =>
    have mine := loaded read rfl
    subst taken
    exact reads.load forward rfl (mine.since.trans mine.observed)
  case reading.proceed read =>
    subst taken
    exact reads.leave forward rfl rfl rfl

omit [DecidableEq Thread] in
/-- Only the assignments to the value of a buffer change one. -/
theorem setBuffer_value (state : State Thread Value) (index : Int) (buffer : Buffer Thread Value)
    (same : buffer.value = (state.bufferAt index).value) (slot : Slot)
    : ((state.setBuffer index buffer).buffers slot).value = (state.buffers slot).value := by
  by_cases changed : slot = getBufferAt index
  · subst changed
    simpa [State.setBuffer, State.bufferAt] using same
  · simp [State.setBuffer, changed]

/-- A step of `Set()` assigns to the buffer that its program point says, if any. -/
theorem values_of_advanceSet {isTrivial : Bool}
    (taken : DoubleBuffer.advanceSet isTrivial state thread (state.pc thread) = some next)
    {other : Int}
    (unassigned : ∀ index, (state.pc thread).assignedIndex = some index
      → getBufferAt other ≠ getBufferAt index)
    : (next.bufferAt other).value = (state.bufferAt other).value := by
  cases point : state.pc thread <;> rw [point] at taken unassigned <;>
    simp only [DoubleBuffer.advanceSet, reduceCtorEq, Option.some.injEq] at taken
  case lockWrite =>
    split at taken
    · cases taken
    · obtain rfl := Option.some.inj taken
      rfl
  case lockNew | lockOld =>
    obtain ⟨mutex, -, rfl⟩ := Option.map_eq_some_iff.mp taken
    exact setBuffer_value state _ _ (by rfl) _
  case storeValue call =>
    subst taken
    exact congrArg Buffer.value (bufferAt_setBuffer_of_ne state _ (unassigned _ rfl))
  case destroy call =>
    subst taken
    exact congrArg Buffer.value (bufferAt_setBuffer_of_ne state _ (unassigned _ rfl))
  case loadIndex | switch | unlockWrite =>
    subst taken
    rfl
  all_goals
    subst taken
    exact setBuffer_value state _ _ (by rfl) _

/-- A step assigns to the buffer that its program point says, if any. -/
theorem values_of_advance {isTrivial : Bool} {label : Thread × Move Value}
    (taken : DoubleBuffer.advance isTrivial state label = some next) {other : Int}
    (unassigned : ∀ index, (state.pc label.1).assignedIndex = some index
      → getBufferAt other ≠ getBufferAt index)
    : (next.bufferAt other).value = (state.bufferAt other).value := by
  obtain ⟨thread, move⟩ := label
  simp only [DoubleBuffer.advance] at taken
  split at taken
  · obtain rfl := Option.some.inj taken
    rfl
  · obtain rfl := Option.some.inj taken
    rfl
  · rcases Option.or_eq_some_iff.mp taken with reads | ⟨-, sets⟩
    · exact (sameContents_of_advanceRead reads).1.value _
    · exact values_of_advanceSet sets unassigned
  · exact (sameContents_of_advanceRead taken).1.value _

omit [DecidableEq Thread] in
/-- No thread assigns to a buffer that another thread has locked for reading. -/
theorem Locked.unassigned (locked : Locked state) {other : Thread} {read : Read}
    (reading : state.pc other = .reading read) {index : Int}
    (assigned : (state.pc thread).assignedIndex = some index)
    : getBufferAt read.index ≠ getBufferAt index := by
  intro same
  have exclusive := locked.exclusive thread index (Pc.exclusiveIndex_of_assignedIndex assigned)
  have shared := locked.shared other read.index (by rw [reading]; rfl)
  rw [State.bufferAt, same] at shared
  rw [State.bufferAt] at exclusive
  rw [exclusive] at shared
  exact shared

/-- The steps of `Set()` go forward, to program points that are not in a read. -/
theorem forward_of_advanceSet (locked : Locked state) (contents : Contents state)
    {isTrivial : Bool}
    (taken : DoubleBuffer.advanceSet isTrivial state thread (state.pc thread) = some next)
    : Forward thread state next
      ∧ ∃ pc,
          next.pc = Function.update state.pc thread pc ∧ pc.since? = none ∧ pc.read? = none := by
  have values : ∀ other read, other ≠ thread → state.pc other = .reading read
      → (next.bufferAt read.index).value = (state.bufferAt read.index).value := by
    intro other read _ reading
    exact values_of_advanceSet taken (fun index => locked.unassigned reading)
  have mine := locked.writer thread
  have phase := fun inSet => contents.phase (mine inSet)
  cases point : state.pc thread <;> rw [point] at taken phase <;>
    simp only [DoubleBuffer.advanceSet, reduceCtorEq, Option.some.injEq] at taken
  case lockWrite value =>
    split at taken
    · cases taken
    · obtain rfl := Option.some.inj taken
      refine ⟨⟨le_rfl, ?_, values⟩, _, rfl, rfl, rfl⟩
      intro number stored found
      rw [List.getElem?_append_left (List.getElem?_eq_some_iff.mp found).1, found]
  case lockNew | lockOld =>
    obtain ⟨mutex, -, rfl⟩ := Option.map_eq_some_iff.mp taken
    exact ⟨⟨le_rfl, fun _ _ found => found, values⟩, _, rfl, rfl, rfl⟩
  case switch call =>
    subst taken
    have after := (phase rfl).1.next
    refine ⟨⟨?_, fun _ _ found => found, values⟩, _, rfl, ?_, ?_⟩
    · change state.switched ≤ call.number
      omega
    · cases isTrivial <;> rfl
    · cases isTrivial <;> rfl
  all_goals
    subst taken
    exact ⟨⟨le_rfl, fun _ _ found => found, values⟩, _, rfl, rfl, rfl⟩

-----------------------------------------------------------------------------------------
-- Whole runs
-----------------------------------------------------------------------------------------

/-- Locks, contents and reads are as they should be. -/
structure Safe (state : State Thread Value) : Prop where
  locked : Locked state
  contents : Contents state
  reads : Reads state

/-- The steps of a read are safe. -/
theorem Safe.advanceRead (safe : Safe state) {move : Move Value}
    (few : FewSets (indexCount - 1) state (thread, move))
    (taken : DoubleBuffer.advanceRead state thread (state.pc thread) move = some next)
    : Safe next where
  locked := safe.locked.advanceRead taken
  contents := safe.contents.advanceRead taken
  reads := safe.reads.advanceRead safe.contents few taken

/-- The steps of `Set()` are safe. -/
theorem Safe.advanceSet (safe : Safe state) {isTrivial : Bool}
    (taken : DoubleBuffer.advanceSet isTrivial state thread (state.pc thread) = some next)
    : Safe next where
  locked := safe.locked.advanceSet taken
  contents := safe.contents.advanceSet safe.locked taken
  reads := by
    obtain ⟨forward, pc, moved, noSince, noRead⟩ :=
      forward_of_advanceSet safe.locked safe.contents taken
    exact safe.reads.leave forward moved noSince noRead

/-- A call of a reader or of `Set()` starts safely. -/
theorem Safe.start (safe : Safe state) (idle : state.pc thread = .idle) {pc : Pc Value}
    (starts : pc = .load state.returned ∨ ∃ value, pc = .lockWrite value)
    : Safe (state.goto thread pc) := by
  have same := sameContents_goto state thread pc
  have outside : (state.pc thread).inSet = false := by
    rw [idle]
    rfl
  refine ⟨?_, safe.contents.frame same rfl outside, ?_⟩
  · refine safe.locked.move rfl rfl (fun _ => rfl) ?_ ?_ ?_ <;> rw [idle] <;>
      rcases starts with rfl | ⟨value, rfl⟩ <;> rfl
  · rcases starts with rfl | ⟨value, rfl⟩
    · exact safe.reads.load (same.forward thread) rfl safe.contents.returned
    · exact safe.reads.leave (same.forward thread) rfl rfl rfl

/-- Every step is safe. -/
theorem Safe.advance (safe : Safe state) {isTrivial : Bool} {label : Thread × Move Value}
    (few : FewSets (indexCount - 1) state label)
    (taken : DoubleBuffer.advance isTrivial state label = some next)
    : Safe next := by
  obtain ⟨thread, move⟩ := label
  simp only [DoubleBuffer.advance] at taken
  split at taken
  · rename_i idle
    obtain rfl := Option.some.inj taken
    exact safe.start idle (Or.inl rfl)
  · rename_i value idle
    obtain rfl := Option.some.inj taken
    exact safe.start idle (Or.inr ⟨value, rfl⟩)
  · rcases Option.or_eq_some_iff.mp taken with reads | ⟨-, sets⟩
    · exact safe.advanceRead few reads
    · exact safe.advanceSet sets
  · exact safe.advanceRead few taken

omit [DecidableEq Thread] in
/-- The constructor leaves a safe double buffer. -/
theorem Constructed.safe (constructed : Constructed state)
    : Safe state := by
  obtain ⟨value, stored, current⟩ := constructed.current
  have slot : getBufferAt (bufferIndex 0) = 1 := by decide
  have otherSlot : getBufferAt (bufferIndex 1) = 0 := by decide
  refine ⟨⟨?_, ?_, ?_⟩, ⟨?_, ?_, ?_, ?_⟩, ⟨?_, ?_, ?_⟩⟩
  · intro thread inSet
    simp [constructed.pc, Pc.inSet] at inSet
  · intro thread index shared
    simp [constructed.pc, Pc.sharedIndex] at shared
  · intro thread index exclusive
    simp [constructed.pc, Pc.exclusiveIndex] at exclusive
  · rw [constructed.currentIndex, constructed.switched]
    decide
  · rw [constructed.switched]
    unfold State.Holds
    rw [State.bufferAt, slot, current, stored]
    exact ⟨Nat.one_pos, rfl, rfl⟩
  · rw [constructed.returned]
    exact Nat.zero_le _
  · rw [progress_of_free constructed.writeMutex, stored, constructed.switched]
    refine ⟨rfl, Or.inl ?_⟩
    rw [State.bufferAt, constructed.switched, otherSlot, constructed.other]
  · intro thread start since
    simp [constructed.pc, Pc.since?] at since
  · intro thread read loaded
    simp [constructed.pc, Pc.read?] at loaded
  · intro thread read reading
    simp [constructed.pc] at reading

/-- A lock that a read has obtained is on the value of the call of `Set()` whose switch the read
observed; no step modifies or destroys that value while the lock is held; and the call observed
is not older than one that had returned when the read started. This is for reads between whose
load and re-check fewer than `2 ^ 63 - 1` calls begin.
-/
theorem read_lock_safe {isTrivial : Bool} {state : State Thread Value}
    (reached : ((system Thread Value isTrivial).restrict (FewSets (indexCount - 1))).Reachable
      state)
    {thread : Thread} {read : Read} (reading : state.pc thread = .reading read)
    : Observes state read
      ∧ (∀ label next,
        advance isTrivial state label = some next
        → (∀ index, (state.pc label.1).assignedIndex = some index
            → getBufferAt read.index ≠ getBufferAt index)
          ∧ (next.bufferAt read.index).value = (state.bufferAt read.index).value)
      ∧ read.since ≤ read.observed := by
  have invariant : ((system Thread Value isTrivial).restrict (FewSets (indexCount - 1))).Invariant
      Safe := {
    initial := fun _ constructed => Constructed.safe constructed
    step := fun _ _ _ safe taken => safe.advance taken.1 taken.2
  }
  have safe := invariant.reachable reached
  refine ⟨safe.reads.observes thread read reading, ?_, ?_⟩
  · intro label next taken
    have unassigned : ∀ index, (state.pc label.1).assignedIndex = some index
        → getBufferAt read.index ≠ getBufferAt index :=
      fun index assigned => safe.locked.unassigned reading assigned
    exact ⟨unassigned, values_of_advance taken unassigned⟩
  · exact (safe.reads.loaded thread read (by rw [reading]; rfl)).since

/-- A double buffer of two threads, constructed with a value. -/
def constructed (Value : Type v) (value : Value) : State Bool Value where
  buffers slot := if slot = getBufferAt 1 then { value := value, index := 1 } else {}
  currentIndex := 1
  writeMutex := none
  pc _ := .idle
  stored := [value]
  switched := 0
  returned := 0

theorem constructed_constructed (Value : Type v) (value : Value)
    : Constructed (constructed Value value) where
  currentIndex := rfl
  other := rfl
  current := ⟨value, rfl, rfl⟩
  writeMutex := rfl
  pc _ := rfl
  switched := rfl
  returned := rfl

/-- A read loads the index of the constructor's value and is overtaken by a call of `Set()`, which
has switched the index and invalidated the old one when the read goes on.
-/
def overtaken : List (Bool × Move Nat) :=
  [(false, .read), (false, .proceed), (true, .set 9)]
    ++ .replicate 8 (true, .proceed)
    ++ .replicate 6 (false, .proceed)

/-- The read gets the new value at the second attempt. -/
theorem read_lock_safe_overtaken
    : ∃ state : State Bool Nat, ∃ read,
        state.pc false = .reading read
        ∧ read.since = 0
        ∧ read.observed = 1
        ∧ state.stored = [5, 9]
        ∧ Observes state read := by
  have played
      : (System.play (System.guarded (FewSets (indexCount - 1)) (advance false))
          (constructed Nat 5) overtaken).map (fun state => (state.pc false, state.stored))
        = some (.reading { index := 2, begun := 2, observed := 1, since := 0 }, [5, 9]) :=
    rfl
  obtain ⟨finish, played, same⟩ := Option.map_eq_some_iff.mp played
  obtain ⟨reading, stored⟩ := Prod.mk.inj same
  have reached :=
    System.reachable_restrict_of_play (.initial (constructed_constructed Nat 5)) played
  exact ⟨finish, _, reading, rfl, rfl, stored, (read_lock_safe reached reading).1⟩

/-- A read that loaded the index while the call number 1 was in progress. -/
def staleRead : Read where
  index := 1
  begun := 2
  observed := 0
  since := 0

/-- Reachable when fewer than `2 ^ 63` calls begin between the load and the re-check of a read. -/
abbrev CycleReachable (state : State Bool Unit) : Prop :=
  ((system Bool Unit false).restrict (FewSets indexCount)).Reachable state

/-- After the stale read has loaded the index, the call that follows number `last` has begun. -/
structure Cycled (last : Nat) (state : State Bool Unit) : Prop where
  reached : CycleReachable state
  reader : state.pc false = .tryLock staleRead
  writer : state.pc true = .loadIndex () (last + 1)
  writeMutex : state.writeMutex = some true
  unlocked : ∀ slot, (state.buffers slot).mutex = .free
  length : state.stored.length = last + 2
  currentIndex : state.currentIndex = bufferIndex last
  destroyed : (state.bufferAt (bufferIndex (last + 1))).value = none

/-- The writer goes on. -/
theorem reachable_proceed {state next : State Bool Unit} (reached : CycleReachable state)
    {pc : Pc Unit} (writer : state.pc true = pc) (writes : pc.inSet = true)
    (taken : advanceSet false state true pc = some next)
    : CycleReachable next := by
  refine reached.step (true, .proceed) ⟨?_, ?_⟩
  · intro read current
    rw [writer] at current
    subst current
    cases writes
  · change advance false state (true, .proceed) = some next
    simp only [advance, writer]
    cases pc <;> first | exact taken | cases writes

/-- With the other locks free, a lock that is given back leaves every lock free. -/
theorem unlocked_setMutex {state : State Bool Unit} {index : Int}
    (others : ∀ slot, slot ≠ getBufferAt index → (state.buffers slot).mutex = .free)
    (slot : Slot)
    : ((state.setMutex index .free).buffers slot).mutex = .free := by
  by_cases same : slot = getBufferAt index
  · subst same
    exact setMutex_mutex_self state index .free
  · simp only [State.setMutex, State.setBuffer, Function.update_of_ne same]
    exact others slot same

/-- Changing one buffer leaves the other locks free. -/
theorem others_unlocked {state : State Bool Unit} {index : Int} {buffer : Buffer Bool Unit}
    (others : ∀ slot, slot ≠ getBufferAt index → (state.buffers slot).mutex = .free)
    (slot : Slot) (different : slot ≠ getBufferAt index)
    : ((state.setBuffer index buffer).buffers slot).mutex = .free := by
  simp only [State.setBuffer, Function.update_of_ne different]
  exact others slot different

/-- A free lock can be locked. -/
theorem lock_free {state : State Bool Unit} {index : Int}
    (unlocked : (state.bufferAt index).mutex = .free)
    : (state.bufferAt index).mutex.lock true = some (.exclusive true) := by
  rw [unlocked]
  rfl

/-- The call in progress returns and the next one begins. -/
theorem Cycled.succ {last : Nat} {state : State Bool Unit} (cycled : Cycled last state)
    : ∃ next, Cycled (last + 1) next := by
  let call : SetCall Unit :=
    { value := (), number := last + 1, oldIndex := state.currentIndex }
  let oldIndex := call.oldIndex
  let newIndex := call.newIndex
  let loaded := state.goto true (.storeIndex call)
  let announced := (loaded.setIndex newIndex newIndex).goto true (.lockNew call)
  let lockedNew := (announced.setMutex newIndex (.exclusive true)).goto true (.storeValue call)
  let assigned := (lockedNew.setValue newIndex (some ())).goto true (.unlockNew call)
  let unlockedNew := (assigned.setMutex newIndex .free).goto true (.switch call)
  let switched : State Bool Unit :=
    {
      unlockedNew.goto true (.invalidate call) with
      currentIndex := newIndex
      switched := last + 1
    }
  let invalidated := (switched.setIndex oldIndex (-1)).goto true (.lockOld call)
  let lockedOld := (invalidated.setMutex oldIndex (.exclusive true)).goto true (.destroy call)
  let destroyed := (lockedOld.setValue oldIndex none).goto true (.unlockOld call)
  let unlockedOld := (destroyed.setMutex oldIndex .free).goto true (.unlockWrite call)
  let returned : State Bool Unit :=
    { unlockedOld.goto true .idle with writeMutex := none, returned := last + 1 }
  let called := returned.goto true (.lockWrite ())
  let begun : State Bool Unit :=
    {
      called.goto true (.loadIndex () called.stored.length) with
      writeMutex := some true
      stored := called.stored ++ [()]
    }
  have announcedUnlocked : ∀ slot, (announced.buffers slot).mutex = .free := by
    intro slot
    exact (setBuffer_mutex loaded newIndex _ (by rfl) slot).trans (cycled.unlocked slot)
  have unlockedNewUnlocked : ∀ slot, (unlockedNew.buffers slot).mutex = .free :=
    unlocked_setMutex (others_unlocked (others_unlocked (fun slot _ => announcedUnlocked slot)))
  have invalidatedUnlocked : ∀ slot, (invalidated.buffers slot).mutex = .free := by
    intro slot
    exact (setBuffer_mutex switched oldIndex _ (by rfl) slot).trans (unlockedNewUnlocked slot)
  have unlockedOldUnlocked : ∀ slot, (unlockedOld.buffers slot).mutex = .free :=
    unlocked_setMutex (others_unlocked (others_unlocked (fun slot _ => invalidatedUnlocked slot)))
  have atLoaded : CycleReachable loaded := reachable_proceed cycled.reached cycled.writer rfl rfl
  have atAnnounced : CycleReachable announced := reachable_proceed atLoaded rfl rfl rfl
  have atLockedNew : CycleReachable lockedNew := reachable_proceed atAnnounced rfl rfl
    (congrArg (Option.map _) (lock_free (announcedUnlocked _)))
  have atAssigned : CycleReachable assigned := reachable_proceed atLockedNew rfl rfl rfl
  have atUnlockedNew : CycleReachable unlockedNew := reachable_proceed atAssigned rfl rfl rfl
  have atSwitched : CycleReachable switched := reachable_proceed atUnlockedNew rfl rfl rfl
  have atInvalidated : CycleReachable invalidated := reachable_proceed atSwitched rfl rfl rfl
  have atLockedOld : CycleReachable lockedOld := reachable_proceed atInvalidated rfl rfl
    (congrArg (Option.map _) (lock_free (invalidatedUnlocked _)))
  have atDestroyed : CycleReachable destroyed := reachable_proceed atLockedOld rfl rfl rfl
  have atUnlockedOld : CycleReachable unlockedOld := reachable_proceed atDestroyed rfl rfl rfl
  have atReturned : CycleReachable returned := reachable_proceed atUnlockedOld rfl rfl rfl
  have atCalled : CycleReachable called := atReturned.step (true, .set ()) ⟨nofun, rfl⟩
  have atBegun : CycleReachable begun := atCalled.step (true, .proceed) ⟨nofun, rfl⟩
  have length : called.stored.length = last + 2 := cycled.length
  refine ⟨begun, atBegun, cycled.reader, ?_, rfl, unlockedOldUnlocked, ?_, ?_, ?_⟩
  · rw [← length]
    rfl
  · change (called.stored ++ [()]).length = last + 1 + 2
    rw [List.length_append, length]
    rfl
  · change nextIndex state.currentIndex = bufferIndex (last + 1)
    rw [cycled.currentIndex, nextIndex_bufferIndex]
  · have slot : getBufferAt (bufferIndex (last + 1 + 1)) = getBufferAt oldIndex := by
      change _ = getBufferAt state.currentIndex
      rw [cycled.currentIndex, getBufferAt_add_two]
    have assignedNone := bufferAt_setBuffer_of_eq lockedOld
      { lockedOld.bufferAt oldIndex with value := none } slot
    have kept := setBuffer_value destroyed oldIndex
      { destroyed.bufferAt oldIndex with mutex := .free } rfl
      (getBufferAt (bufferIndex (last + 1 + 1)))
    exact kept.trans (congrArg Buffer.value assignedNone)

/-- The stale read loads the index when the call number 1 has begun. -/
theorem cycled_zero
    : ∃ state, Cycled 0 state := by
  have start : CycleReachable (constructed Unit ()) := .initial (constructed_constructed Unit ())
  have called := start.step (true, .set ()) ⟨nofun, rfl⟩
  have begun := called.step (true, .proceed) ⟨nofun, rfl⟩
  have reads := begun.step (false, .read) ⟨nofun, rfl⟩
  have loaded := reads.step (false, .proceed) ⟨nofun, rfl⟩
  refine ⟨_, loaded, rfl, rfl, rfl, ?_, rfl, rfl, rfl⟩
  intro slot
  change (if slot = getBufferAt 1 then _ else _ : Buffer Bool Unit).mutex = .free
  split <;> rfl

/-- Any number of calls can begin before the stale read goes on, by induction. -/
theorem exists_cycled (last : Nat)
    : ∃ state, Cycled last state := by
  induction last with
  | zero => exact cycled_zero
  | succ last ih =>
      obtain ⟨state, cycled⟩ := ih
      exact cycled.succ

/-- A read between whose load and re-check `2 ^ 63 - 1` calls begin can obtain a lock on a buffer
without a value: the last of these calls has stored the index that the read checks for.
-/
theorem stale_read_obtains_lock
    : ¬ ∀ state : State Bool Unit,
        ((system Bool Unit false).restrict (FewSets indexCount)).Reachable state
        → ∀ thread read, state.pc thread = .reading read → Observes state read := by
  intro safe
  obtain ⟨state, cycled⟩ := exists_cycled (indexCount - 1)
  have wraps : bufferIndex (indexCount - 1 + 1) = 1 := by decide
  let call : SetCall Unit :=
    { value := (), number := indexCount - 1 + 1, oldIndex := state.currentIndex }
  have newIndex : call.newIndex = 1 := by
    change nextIndex state.currentIndex = 1
    rw [cycled.currentIndex, nextIndex_bufferIndex, wraps]
  let loaded := state.goto true (.storeIndex call)
  let announced := (loaded.setIndex call.newIndex call.newIndex).goto true (.lockNew call)
  have buffer : announced.bufferAt 1 = { loaded.bufferAt call.newIndex with index := 1 } := by
    have assigned : announced.bufferAt 1
        = { loaded.bufferAt call.newIndex with index := call.newIndex } :=
      bufferAt_setBuffer_of_eq loaded { loaded.bufferAt call.newIndex with index := call.newIndex }
        (congrArg getBufferAt newIndex.symm)
    exact assigned.trans (by rw [newIndex])
  have unlocked : (announced.bufferAt 1).mutex = .free := by
    rw [buffer]
    exact cycled.unlocked _
  have noValue : (announced.bufferAt 1).value = none := by
    have destroyed := cycled.destroyed
    rw [wraps] at destroyed
    rw [buffer, newIndex]
    exact destroyed
  let locked := (announced.setMutex 1 (.shared {false})).goto false (.recheck staleRead)
  let reading := locked.goto false (.reading staleRead)
  have atLoaded : CycleReachable loaded := reachable_proceed cycled.reached cycled.writer rfl rfl
  have atAnnounced : CycleReachable announced := reachable_proceed atLoaded rfl rfl rfl
  have lockedBuffer : locked.bufferAt 1
      = { announced.bufferAt 1 with mutex := .shared {false} } :=
    bufferAt_setBuffer_of_eq announced { announced.bufferAt 1 with mutex := .shared {false} }
      (rfl : getBufferAt 1 = getBufferAt 1)
  have reader : announced.pc false = .tryLock staleRead := cycled.reader
  have atLocked : CycleReachable locked := by
    refine atAnnounced.step (false, .proceed) ⟨?_, ?_⟩
    · intro read current
      rw [reader] at current
      cases current
    · change advance false announced (false, .proceed) = some locked
      have available : (announced.bufferAt staleRead.index).mutex.tryLockShared false
          = some (.shared {false}) := by
        change (announced.bufferAt 1).mutex.tryLockShared false = _
        rw [unlocked]
        rfl
      simp only [advance, reader, advanceRead, available]
      rfl
  have atReading : CycleReachable reading := by
    refine atLocked.step (false, .proceed) ⟨?_, ?_⟩
    · intro read current
      obtain rfl := Pc.recheck.inj current
      change state.stored.length < 2 + indexCount
      rw [cycled.length]
      decide
    · change advance false locked (false, .proceed) = some reading
      have unchanged : (locked.bufferAt staleRead.index).index = staleRead.index := by
        change (locked.bufferAt 1).index = 1
        rw [lockedBuffer, buffer]
      have recheck : locked.pc false = .recheck staleRead := rfl
      simp only [advance, recheck, advanceRead, unchanged, if_true]
      rfl
  obtain ⟨value, -, holds⟩ := safe reading atReading false staleRead rfl
  change (locked.bufferAt 1).value = some value at holds
  rw [lockedBuffer] at holds
  change (announced.bufferAt 1).value = some value at holds
  rw [noValue] at holds
  cases holds

end Aspl.DoubleBuffer
