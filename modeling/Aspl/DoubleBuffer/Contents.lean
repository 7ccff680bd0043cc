import Aspl.DoubleBuffer.Locks
import Mathlib.Data.Nat.Basic
import Mathlib.Order.Basic

/-! What the two buffers hold: the current one its index and the value of the last switch, the
other one what the call of `Set()` in progress has made of it.
-/

namespace Aspl.DoubleBuffer

universe u v

variable {Thread : Type u} {Value : Type v} [DecidableEq Thread]

/-- The buffer index that the call of `Set()` with a number stores. -/
def bufferIndex (number : Nat) : Int := ((number : Int) + 1) % 9223372036854775808

/-- A call computes its index from the index of the call before it, also at the maximum. -/
theorem nextIndex_bufferIndex (number : Nat)
    : nextIndex (bufferIndex number) = bufferIndex (number + 1) := by
  unfold nextIndex bufferIndex maxIndex
  split <;> omega

/-- No call stores the index of an invalidated buffer. -/
theorem bufferIndex_ne_invalid (number : Nat)
    : bufferIndex number ≠ -1 := by
  unfold bufferIndex
  omega

/-- Fewer than `2 ^ 63` calls in a row store different indices. -/
theorem bufferIndex_injective {left right : Nat} (ordered : left ≤ right)
    (few : right < left + indexCount) (same : bufferIndex left = bufferIndex right)
    : left = right := by
  unfold bufferIndex at same
  unfold indexCount at few
  omega

theorem getBufferAt_eq_iff (left right : Int)
    : getBufferAt left = getBufferAt right ↔ left % 2 = right % 2 := by
  simp only [getBufferAt, Fin.ext_iff, Fin.ofNat]
  omega

/-- Consecutive calls use different buffers, also where the index wraps. -/
theorem getBufferAt_succ_ne (number : Nat)
    : getBufferAt (bufferIndex (number + 1)) ≠ getBufferAt (bufferIndex number) := by
  rw [ne_eq, getBufferAt_eq_iff]
  unfold bufferIndex
  omega

/-- Every other call uses the same buffer. -/
theorem getBufferAt_add_two (number : Nat)
    : getBufferAt (bufferIndex (number + 2)) = getBufferAt (bufferIndex number) := by
  rw [getBufferAt_eq_iff]
  unfold bufferIndex
  omega

/-- A buffer is that of a call or that of the next one. -/
theorem slot_cases (slot : Slot) (number : Nat)
    : slot = getBufferAt (bufferIndex number)
      ∨ slot = getBufferAt (bufferIndex (number + 1)) := by
  have twoSlots : ∀ slot left right : Slot, right ≠ left → slot = left ∨ slot = right := by
    decide
  exact twoSlots slot _ _ (getBufferAt_succ_ne number)

omit [DecidableEq Thread] in
theorem bufferAt_setBuffer_of_eq (state : State Thread Value) {index other : Int}
    (buffer : Buffer Thread Value) (same : getBufferAt other = getBufferAt index)
    : (state.setBuffer index buffer).bufferAt other = buffer := by
  simp [State.setBuffer, State.bufferAt, same]

omit [DecidableEq Thread] in
theorem bufferAt_setBuffer_of_ne (state : State Thread Value) {index other : Int}
    (buffer : Buffer Thread Value) (different : getBufferAt other ≠ getBufferAt index)
    : (state.setBuffer index buffer).bufferAt other = state.bufferAt other := by
  simp [State.setBuffer, State.bufferAt, different]

@[simp] theorem goto_pc (state : State Thread Value) (thread : Thread) (pc : Pc Value)
    : (state.goto thread pc).pc thread = pc :=
  Function.update_self ..

-----------------------------------------------------------------------------------------
-- The contents invariant
-----------------------------------------------------------------------------------------

/-- A buffer has the index and the value of a call of `Set()` that has begun. -/
structure BufferHolds (buffer : Buffer Thread Value) (stored : List Value) (number : Nat)
    : Prop where
  begun : number < stored.length
  index : buffer.index = bufferIndex number
  value : buffer.value = stored[number]?

/-- The buffer of a call holds the value of that call. -/
def State.Holds (state : State Thread Value) (number : Nat) : Prop :=
  BufferHolds (state.bufferAt (bufferIndex number)) state.stored number

/-- The buffer that is not current is invalid, or still holds the value of the call before. -/
def State.Replaced (state : State Thread Value) : Prop :=
  (state.bufferAt (bufferIndex (state.switched + 1))).index = -1
  ∨ ∃ number, state.switched = number + 1 ∧ state.Holds number

/-- A call before its switch: it comes after the call that switched last. -/
structure State.Began (state : State Thread Value) (value : Value) (number : Nat) : Prop where
  next : number = state.switched + 1
  length : state.stored.length = state.switched + 2
  value : state.stored[number]? = some value

/-- A call after its switch. -/
structure State.Switched (state : State Thread Value) (call : SetCall Value) : Prop where
  number : call.number = state.switched
  length : state.stored.length = state.switched + 1
  oldIndex : ∃ number, state.switched = number + 1 ∧ call.oldIndex = bufferIndex number

/-- What a call of `Set()` has done so far. -/
def State.Phase (state : State Thread Value) : Pc Value → Prop
  | .loadIndex value number => state.Began value number ∧ state.Replaced
  | .storeIndex call =>
      state.Began call.value call.number ∧ call.oldIndex = bufferIndex state.switched
      ∧ state.Replaced
  | .lockNew call | .storeValue call =>
      state.Began call.value call.number ∧ call.oldIndex = bufferIndex state.switched
      ∧ (state.bufferAt (bufferIndex call.number)).index = bufferIndex call.number
  | .unlockNew call | .switch call =>
      state.Began call.value call.number ∧ call.oldIndex = bufferIndex state.switched
      ∧ state.Holds call.number
  | .invalidate call => state.Switched call ∧ state.Replaced
  | .lockOld call | .destroy call | .unlockOld call =>
      state.Switched call ∧ (state.bufferAt call.oldIndex).index = -1
  | .unlockWrite call => state.Switched call ∧ state.Replaced
  | _ => False

omit [DecidableEq Thread] in
/-- Only calls of `Set()` have phases. -/
theorem inSet_of_phase {state : State Thread Value} {pc : Pc Value} (phase : state.Phase pc)
    : pc.inSet = true := by
  cases pc <;> first | rfl | exact phase.elim

/-- What the call of `Set()` that holds `writeMutex_` has done, or that there is none. -/
def State.Progress (state : State Thread Value) : Prop :=
  match state.writeMutex with
  | none => state.stored.length = state.switched + 1 ∧ state.Replaced
  | some thread => state.Phase (state.pc thread)

omit [DecidableEq Thread] in
theorem progress_of_free {state : State Thread Value} (free : state.writeMutex = none)
    : state.Progress ↔ state.stored.length = state.switched + 1 ∧ state.Replaced := by
  simp only [State.Progress, free]

omit [DecidableEq Thread] in
theorem progress_of_held {state : State Thread Value} {thread : Thread}
    (held : state.writeMutex = some thread)
    : state.Progress ↔ state.Phase (state.pc thread) := by
  simp only [State.Progress, held]

/-- The current buffer holds the value of the last switch, and the other one what the call in
progress has made of it.
-/
structure Contents (state : State Thread Value) : Prop where
  currentIndex : state.currentIndex = bufferIndex state.switched
  current : state.Holds state.switched
  returned : state.returned ≤ state.switched
  progress : state.Progress

variable {state next : State Thread Value} {thread : Thread}

/-- Two states agree on everything that the contents invariant reads but the program points. -/
structure SameContents (state next : State Thread Value) : Prop where
  index : ∀ slot, (next.buffers slot).index = (state.buffers slot).index
  value : ∀ slot, (next.buffers slot).value = (state.buffers slot).value
  currentIndex : next.currentIndex = state.currentIndex
  writeMutex : next.writeMutex = state.writeMutex
  stored : next.stored = state.stored
  switched : next.switched = state.switched
  returned : next.returned = state.returned

omit [DecidableEq Thread] in
theorem SameContents.holds (same : SameContents state next) {number : Nat}
    (holds : state.Holds number)
    : next.Holds number where
  begun := same.stored ▸ holds.begun
  index := (same.index _).trans holds.index
  value := by
    rw [same.stored, State.bufferAt, same.value]
    exact holds.value

omit [DecidableEq Thread] in
theorem SameContents.replaced (same : SameContents state next) (replaced : state.Replaced)
    : next.Replaced := by
  unfold State.Replaced
  rw [same.switched, State.bufferAt, same.index]
  rcases replaced with invalid | ⟨number, after, holds⟩
  · exact Or.inl invalid
  · exact Or.inr ⟨number, after, same.holds holds⟩

omit [DecidableEq Thread] in
theorem SameContents.began (same : SameContents state next) {value : Value} {number : Nat}
    (began : state.Began value number)
    : next.Began value number where
  next := same.switched ▸ began.next
  length := by rw [same.stored, same.switched, began.length]
  value := same.stored ▸ began.value

omit [DecidableEq Thread] in
theorem SameContents.switched' (same : SameContents state next) {call : SetCall Value}
    (switched : state.Switched call)
    : next.Switched call where
  number := same.switched ▸ switched.number
  length := by rw [same.stored, same.switched, switched.length]
  oldIndex := same.switched ▸ switched.oldIndex

omit [DecidableEq Thread] in
theorem SameContents.phase (same : SameContents state next) {pc : Pc Value}
    (phase : state.Phase pc)
    : next.Phase pc := by
  have index (index : Int) : (next.bufferAt index).index = (state.bufferAt index).index :=
    same.index _
  cases pc with
  | loadIndex => exact ⟨same.began phase.1, same.replaced phase.2⟩
  | storeIndex =>
      exact ⟨same.began phase.1, same.switched.symm ▸ phase.2.1, same.replaced phase.2.2⟩
  | lockNew | storeValue =>
      exact ⟨same.began phase.1, same.switched.symm ▸ phase.2.1, (index _).trans phase.2.2⟩
  | unlockNew | switch =>
      exact ⟨same.began phase.1, same.switched.symm ▸ phase.2.1, same.holds phase.2.2⟩
  | invalidate | unlockWrite => exact ⟨same.switched' phase.1, same.replaced phase.2⟩
  | lockOld | destroy | unlockOld =>
      exact ⟨same.switched' phase.1, (index _).trans phase.2⟩
  | idle | load | tryLock | recheck | retry | reading | lockWrite => exact phase

/-- A thread outside `Set()` moves. -/
theorem Contents.frame (contents : Contents state) (same : SameContents state next)
    {pc : Pc Value} (moved : next.pc = Function.update state.pc thread pc)
    (outside : (state.pc thread).inSet = false)
    : Contents next where
  currentIndex := by rw [same.currentIndex, same.switched, contents.currentIndex]
  current := same.switched ▸ same.holds contents.current
  returned := same.switched ▸ same.returned ▸ contents.returned
  progress := by
    have progress := contents.progress
    cases writer : state.writeMutex with
    | none =>
        rw [progress_of_free writer] at progress
        rw [progress_of_free (same.writeMutex.trans writer)]
        exact ⟨by rw [same.stored, same.switched, progress.1], same.replaced progress.2⟩
    | some other =>
        rw [progress_of_held writer] at progress
        rw [progress_of_held (same.writeMutex.trans writer)]
        have different : other ≠ thread := by
          intro mine
          rw [mine] at progress
          simp [inSet_of_phase progress] at outside
        rw [moved, Function.update_of_ne different]
        exact same.phase progress

omit [DecidableEq Thread] in
theorem SameContents.refl (state : State Thread Value)
    : SameContents state state where
  index _ := rfl
  value _ := rfl
  currentIndex := rfl
  writeMutex := rfl
  stored := rfl
  switched := rfl
  returned := rfl

theorem sameContents_goto (state : State Thread Value) (thread : Thread) (pc : Pc Value)
    : SameContents state (state.goto thread pc) :=
  { SameContents.refl state with }

/-- Changing a lock changes no contents. -/
theorem sameContents_setMutex (state : State Thread Value) (index : Int)
    (mutex : SharedLock Thread) (thread : Thread) (pc : Pc Value)
    : SameContents state ((state.setMutex index mutex).goto thread pc) := by
  refine { SameContents.refl state with index := ?_, value := ?_ }
  all_goals
    intro slot
    by_cases changed : slot = getBufferAt index
    · subst changed
      simp [State.setMutex, State.setBuffer, State.goto, State.bufferAt]
    · simp [State.setMutex, State.setBuffer, State.goto, changed]

/-- The steps of a read change no contents. -/
theorem sameContents_of_advanceRead {move : Move Value}
    (taken : advanceRead state thread (state.pc thread) move = some next)
    : SameContents state next
      ∧ (∃ pc, next.pc = Function.update state.pc thread pc)
      ∧ (state.pc thread).inSet = false := by
  cases point : state.pc thread <;> cases move <;> rw [point] at taken <;>
    simp only [advanceRead, reduceCtorEq, Option.some.injEq] at taken
  case tryLock.proceed =>
    split at taken <;> obtain rfl := Option.some.inj taken
    · exact ⟨sameContents_setMutex .., ⟨_, rfl⟩, rfl⟩
    · exact ⟨sameContents_goto .., ⟨_, rfl⟩, rfl⟩
  case recheck.proceed =>
    split at taken
    all_goals
      obtain rfl := Option.some.inj taken
      exact ⟨sameContents_goto .., ⟨_, rfl⟩, rfl⟩
  case retry.proceed | reading.proceed =>
    subst taken
    exact ⟨sameContents_setMutex .., ⟨_, rfl⟩, rfl⟩
  all_goals
    subst taken
    exact ⟨sameContents_goto .., ⟨_, rfl⟩, rfl⟩

/-- The steps of a read keep the contents invariant. -/
theorem Contents.advanceRead (contents : Contents state) {move : Move Value}
    (taken : DoubleBuffer.advanceRead state thread (state.pc thread) move = some next)
    : Contents next := by
  obtain ⟨same, ⟨pc, moved⟩, outside⟩ := sameContents_of_advanceRead taken
  exact contents.frame same moved outside

-----------------------------------------------------------------------------------------
-- Steps of a call of Set()
-----------------------------------------------------------------------------------------

omit [DecidableEq Thread] in
/-- A value that is appended for a new call leaves the earlier calls as they are. -/
theorem BufferHolds.append {buffer : Buffer Thread Value} {stored : List Value} {number : Nat}
    (holds : BufferHolds buffer stored number) (value : Value)
    : BufferHolds buffer (stored ++ [value]) number where
  begun := by
    rw [List.length_append]
    exact Nat.lt_add_right _ holds.begun
  index := holds.index
  value := by
    rw [holds.value, List.getElem?_append_left holds.begun]

omit [DecidableEq Thread] in
/-- The phase of the call that holds `writeMutex_`. -/
theorem Contents.phase (contents : Contents state) (mine : state.writeMutex = some thread)
    : state.Phase (state.pc thread) :=
  (progress_of_held mine).mp contents.progress

/-- The call of `Set()` moves on, and the contents stay as they are. -/
theorem Contents.move (contents : Contents state) (mine : state.writeMutex = some thread)
    {pc : Pc Value} (same : SameContents state next)
    (moved : next.pc = Function.update state.pc thread pc) (phase : state.Phase pc)
    : Contents next where
  currentIndex := by rw [same.currentIndex, same.switched, contents.currentIndex]
  current := same.switched ▸ same.holds contents.current
  returned := same.switched ▸ same.returned ▸ contents.returned
  progress := by
    rw [progress_of_held (same.writeMutex.trans mine), moved, Function.update_self]
    exact same.phase phase

/-- The call of `Set()` assigns to the buffer that is not current. -/
theorem Contents.assign (contents : Contents state) (mine : state.writeMutex = some thread)
    {pc : Pc Value} {index : Int} {buffer : Buffer Thread Value}
    (other : getBufferAt (bufferIndex state.switched) ≠ getBufferAt index)
    (phase : (state.setBuffer index buffer).Phase pc)
    : Contents ((state.setBuffer index buffer).goto thread pc) where
  currentIndex := contents.currentIndex
  current := by
    have holds : BufferHolds (state.bufferAt (bufferIndex state.switched)) state.stored
        state.switched :=
      contents.current
    rw [← bufferAt_setBuffer_of_ne state buffer other] at holds
    exact holds
  returned := contents.returned
  progress := by
    have writer : ((state.setBuffer index buffer).goto thread pc).writeMutex = some thread :=
      mine
    rw [progress_of_held writer, goto_pc]
    exact (sameContents_goto _ thread pc).phase phase

/-- A call begins when no other call is in progress. -/
theorem Contents.lockWrite (contents : Contents state) (free : state.writeMutex = none)
    (value : Value)
    : Contents
        {
          state.goto thread (.loadIndex value state.stored.length) with
          writeMutex := some thread
          stored := state.stored ++ [value]
        } where
  currentIndex := contents.currentIndex
  current := contents.current.append value
  returned := contents.returned
  progress := by
    obtain ⟨length, replaced⟩ := (progress_of_free free).mp contents.progress
    have writer : ({
        state.goto thread (.loadIndex value state.stored.length) with
        writeMutex := some thread
        stored := state.stored ++ [value]
      } : State Thread Value).writeMutex = some thread := rfl
    rw [progress_of_held writer, goto_pc]
    refine ⟨⟨length, ?_, ?_⟩, ?_⟩
    · simp only [List.length_append, List.length_singleton, length]
      rfl
    · simp
    · rcases replaced with invalid | ⟨number, after, holds⟩
      · exact Or.inl invalid
      · exact Or.inr ⟨number, after, holds.append value⟩

omit [DecidableEq Thread] in
/-- Before its switch a call works on the buffer that is not current. -/
theorem State.Began.newIndex {call : SetCall Value} (began : state.Began call.value call.number)
    (old : call.oldIndex = bufferIndex state.switched)
    : call.newIndex = bufferIndex call.number
      ∧ getBufferAt (bufferIndex state.switched) ≠ getBufferAt call.newIndex := by
  have new : call.newIndex = bufferIndex call.number := by
    rw [SetCall.newIndex, old, nextIndex_bufferIndex, began.next]
  refine ⟨new, ?_⟩
  rw [new, began.next]
  exact (getBufferAt_succ_ne _).symm

/-- A call stores its index into the buffer that is not current. -/
theorem Contents.storeIndex (contents : Contents state) {call : SetCall Value}
    (mine : state.writeMutex = some thread) (phase : state.Phase (.storeIndex call))
    : Contents ((state.setIndex call.newIndex call.newIndex).goto thread (.lockNew call)) := by
  obtain ⟨began, old, -⟩ := phase
  obtain ⟨new, other⟩ := began.newIndex old
  refine contents.assign mine other ⟨⟨began.next, began.length, began.value⟩, old, ?_⟩
  rw [bufferAt_setBuffer_of_eq state _ (by rw [new])]
  exact new

/-- A call stores its value into the buffer that is not current. -/
theorem Contents.storeValue (contents : Contents state) {call : SetCall Value}
    (mine : state.writeMutex = some thread) (phase : state.Phase (.storeValue call))
    : Contents
        ((state.setValue call.newIndex (some call.value)).goto thread (.unlockNew call)) := by
  obtain ⟨began, old, index⟩ := phase
  obtain ⟨new, other⟩ := began.newIndex old
  refine contents.assign mine other ⟨⟨began.next, began.length, began.value⟩, old, ?_⟩
  have length := began.length
  have next := began.next
  unfold State.Holds
  rw [bufferAt_setBuffer_of_eq state _ (by rw [new])]
  exact {
    begun := by
      change call.number < state.stored.length
      omega
    index := by
      rw [← index, new]
    value := began.value.symm
  }

/-- The switch makes the new buffer the current one; the old one still holds its value. -/
theorem Contents.switch (contents : Contents state) {call : SetCall Value}
    (mine : state.writeMutex = some thread) (phase : state.Phase (.switch call))
    (isTrivial : Bool)
    : Contents
        {
          state.goto thread (if isTrivial then .unlockWrite call else .invalidate call) with
          currentIndex := call.newIndex
          switched := call.number
        } := by
  obtain ⟨began, old, holds⟩ := phase
  have length : state.stored.length = call.number + 1 := by rw [began.length, began.next]
  have replaced : ({ state with switched := call.number } : State Thread Value).Replaced :=
    Or.inr ⟨state.switched, began.next, contents.current⟩
  refine ⟨(began.newIndex old).1, holds, ?_, ?_⟩
  · have before := contents.returned
    have next := began.next
    change state.returned ≤ call.number
    omega
  · have writer : ({
        state.goto thread (if isTrivial then .unlockWrite call else .invalidate call) with
        currentIndex := call.newIndex
        switched := call.number
      } : State Thread Value).writeMutex = some thread := mine
    rw [progress_of_held writer, goto_pc]
    cases isTrivial
    all_goals exact ⟨⟨rfl, length, state.switched, began.next, old⟩, replaced⟩

omit [DecidableEq Thread] in
/-- After its switch a call works on the buffer that is not current. -/
theorem State.Switched.oldIndex_ne {call : SetCall Value} (switched : state.Switched call)
    : getBufferAt (bufferIndex state.switched) ≠ getBufferAt call.oldIndex := by
  obtain ⟨number, after, old⟩ := switched.oldIndex
  rw [after, old]
  exact getBufferAt_succ_ne number

omit [DecidableEq Thread] in
/-- The old buffer of a call is the one that is not current after its switch. -/
theorem State.Switched.oldIndex_eq {call : SetCall Value} (switched : state.Switched call)
    : getBufferAt call.oldIndex = getBufferAt (bufferIndex (state.switched + 1)) := by
  obtain ⟨number, after, old⟩ := switched.oldIndex
  rw [after, old, getBufferAt_add_two]

/-- A call invalidates the old buffer. -/
theorem Contents.invalidate (contents : Contents state) {call : SetCall Value}
    (mine : state.writeMutex = some thread) (phase : state.Phase (.invalidate call))
    : Contents ((state.setIndex call.oldIndex (-1)).goto thread (.lockOld call)) := by
  obtain ⟨switched, -⟩ := phase
  refine contents.assign mine switched.oldIndex_ne ⟨⟨switched.1, switched.2, switched.3⟩, ?_⟩
  rw [bufferAt_setBuffer_of_eq state _ rfl]

/-- A call destroys the value in the old buffer. -/
theorem Contents.destroy (contents : Contents state) {call : SetCall Value}
    (mine : state.writeMutex = some thread) (phase : state.Phase (.destroy call))
    : Contents ((state.setValue call.oldIndex none).goto thread (.unlockOld call)) := by
  obtain ⟨switched, invalid⟩ := phase
  refine contents.assign mine switched.oldIndex_ne ⟨⟨switched.1, switched.2, switched.3⟩, ?_⟩
  rw [bufferAt_setBuffer_of_eq state _ rfl]
  exact invalid

/-- A call returns. -/
theorem Contents.unlockWrite (contents : Contents state) {call : SetCall Value}
    (phase : state.Phase (.unlockWrite call))
    : Contents
        { state.goto thread .idle with writeMutex := none, returned := call.number } := by
  obtain ⟨switched, replaced⟩ := phase
  refine ⟨contents.currentIndex, contents.current, switched.number.le, ?_⟩
  exact (progress_of_free rfl).mpr ⟨switched.length, replaced⟩

/-- The steps of `Set()` keep the contents invariant. -/
theorem Contents.advanceSet (contents : Contents state) (locked : Locked state)
    {isTrivial : Bool}
    (taken : DoubleBuffer.advanceSet isTrivial state thread (state.pc thread) = some next)
    : Contents next := by
  have mine := locked.writer thread
  have phase := fun inSet => contents.phase (mine inSet)
  cases point : state.pc thread <;> rw [point] at taken mine phase <;>
    simp only [DoubleBuffer.advanceSet, reduceCtorEq, Option.some.injEq] at taken
  case lockWrite value =>
    split at taken
    · cases taken
    · rename_i free
      obtain rfl := Option.some.inj taken
      exact contents.lockWrite free value
  case loadIndex value number =>
    subst taken
    obtain ⟨began, replaced⟩ := phase rfl
    exact contents.move (mine rfl) (sameContents_goto ..) rfl
      ⟨began, contents.currentIndex, replaced⟩
  case storeIndex call =>
    subst taken
    exact contents.storeIndex (mine rfl) (phase rfl)
  case lockNew call =>
    obtain ⟨mutex, -, rfl⟩ := Option.map_eq_some_iff.mp taken
    exact contents.move (mine rfl) (sameContents_setMutex ..) rfl (phase rfl)
  case storeValue call =>
    subst taken
    exact contents.storeValue (mine rfl) (phase rfl)
  case unlockNew call =>
    subst taken
    exact contents.move (mine rfl) (sameContents_setMutex ..) rfl (phase rfl)
  case switch call =>
    subst taken
    exact contents.switch (mine rfl) (phase rfl) isTrivial
  case invalidate call =>
    subst taken
    exact contents.invalidate (mine rfl) (phase rfl)
  case lockOld call =>
    obtain ⟨mutex, -, rfl⟩ := Option.map_eq_some_iff.mp taken
    exact contents.move (mine rfl) (sameContents_setMutex ..) rfl (phase rfl)
  case destroy call =>
    subst taken
    exact contents.destroy (mine rfl) (phase rfl)
  case unlockOld call =>
    subst taken
    obtain ⟨switched, invalid⟩ := phase rfl
    refine contents.move (mine rfl) (sameContents_setMutex ..) rfl ⟨switched, Or.inl ?_⟩
    rw [State.bufferAt, ← switched.oldIndex_eq]
    exact invalid
  case unlockWrite call =>
    subst taken
    exact contents.unlockWrite (phase rfl)

end Aspl.DoubleBuffer
