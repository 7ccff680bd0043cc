import Aspl.Device.Reentrancy
import Mathlib.Data.List.Nodup

/-! When functions that call back into their device run at most once.
What is in the map and was taken from it before is still running, as long as no step harms a
running function.
-/

namespace Aspl.Device.Reentrancy

universe u

variable {Seen : Type u}

/-- A function is never executed after it was executed or aborted. -/
def AtMostOnce (history : List Event) : Prop :=
  history.Pairwise (fun earlier later => ∀ tag, later = .executed tag → earlier.tag ≠ tag)

/-- A function that nothing happened to yet can be executed. -/
theorem AtMostOnce.execute {history : List Event} (once : AtMostOnce history) {tag : Nat}
    (fresh : ∀ event ∈ history, event.tag ≠ tag)
    : AtMostOnce (history ++ [.executed tag]) := by
  refine List.pairwise_append.mpr ⟨once, List.pairwise_singleton _ _, ?_⟩
  intro earlier before later last other same
  rw [List.mem_singleton.mp last] at same
  obtain rfl := Event.executed.inj same
  exact fresh earlier before

/-- Any function can be aborted. -/
theorem AtMostOnce.abort {history : List Event} (once : AtMostOnce history) (tag : Nat)
    : AtMostOnce (history ++ [.aborted tag]) := by
  refine List.pairwise_append.mpr ⟨once, List.pairwise_singleton _ _, ?_⟩
  intro earlier _ later last other same
  rw [List.mem_singleton.mp last] at same
  cases same

-----------------------------------------------------------------------------------------
-- The invariant
-----------------------------------------------------------------------------------------

/-- The submission that is stored under a request ID. -/
def Machine.Stores (machine : Machine Seen) (reqID : Nat) (submission : Submission Seen) : Prop :=
  machine.configuration.pendingConfigurationRequests.find? reqID = some (some submission)

/-- Submissions are stored once and counted; the ones to which something happened are running;
a function in the drain loop is still stored; and no request runs twice.
-/
structure Sound (machine : Machine Seen) : Prop where
  once : AtMostOnce machine.history
  past : ∀ event ∈ machine.history, event.tag < machine.submitted
  counted
    : ∀ reqID submission,
        machine.Stores reqID submission → submission.tag < machine.submitted
  running
    : ∀ reqID submission,
        machine.Stores reqID submission
        → ∀ event ∈ machine.history,
            event.tag = submission.tag → reqID ∈ runningIDs machine.stack
  separate
    : ∀ left right leftSubmission rightSubmission,
        machine.Stores left leftSubmission
        → machine.Stores right rightSubmission
        → leftSubmission.tag = rightSubmission.tag
        → left = right
  drained : ∀ reqID ∈ drainedIDs machine.stack, ∃ submission, machine.Stores reqID submission
  nodup : (runningIDs machine.stack).Nodup

/-- What is drained is running. -/
theorem mem_runningIDs_of_mem_drainedIDs {stack : List (Frame Seen)} {reqID : Nat}
    (drained : reqID ∈ drainedIDs stack)
    : reqID ∈ runningIDs stack := by
  obtain ⟨frame, member, isDrained⟩ := List.mem_filterMap.mp drained
  refine List.mem_filterMap.mpr ⟨frame, member, ?_⟩
  cases frame <;> first | exact isDrained | cases isDrained

@[simp] theorem runningIDs_code (body : Body Seen) (stack : List (Frame Seen))
    : runningIDs (.code body :: stack) = runningIDs stack :=
  rfl

@[simp] theorem runningIDs_drain (stack : List (Frame Seen))
    : runningIDs (.drain :: stack) = runningIDs stack :=
  rfl

variable {machine : Machine Seen}

/-- A machine with the same submissions, the same history and the same running requests. -/
theorem Sound.same (sound : Sound machine) {next : Machine Seen}
    (pending : next.configuration.pendingConfigurationRequests
      = machine.configuration.pendingConfigurationRequests)
    (submitted : next.submitted = machine.submitted) (history : next.history = machine.history)
    (running : runningIDs next.stack = runningIDs machine.stack)
    (drained : drainedIDs next.stack = drainedIDs machine.stack)
    : Sound next := by
  have stores : ∀ reqID submission, next.Stores reqID submission
      ↔ machine.Stores reqID submission := by
    intro reqID submission
    simp only [Machine.Stores, pending]
  obtain ⟨once, past, counted, runs, separate, stored, nodup⟩ := sound
  constructor
  · rwa [history]
  · rwa [history, submitted]
  · simpa only [stores, submitted] using counted
  · simpa only [stores, history, running] using runs
  · simpa only [stores] using separate
  · simpa only [stores, drained] using stored
  · rwa [running]

/-- Executing a submission that nothing happened to, whose request is running if it is stored. -/
theorem Sound.execute (sound : Sound machine) {submission : Submission Seen}
    (fresh : ∀ event ∈ machine.history, event.tag ≠ submission.tag)
    (counted : submission.tag < machine.submitted)
    (running : ∀ reqID stored, machine.Stores reqID stored → submission.tag = stored.tag
      → reqID ∈ runningIDs machine.stack)
    : Sound (machine.execute submission) where
  once := sound.once.execute fresh
  past := by
    intro event member
    rcases List.mem_append.mp member with before | last
    · exact sound.past event before
    · rw [List.mem_singleton.mp last]
      exact counted
  counted := sound.counted
  running := by
    intro reqID stored stores event member same
    rcases List.mem_append.mp member with before | last
    · exact sound.running reqID stored stores event before same
    · rw [List.mem_singleton.mp last] at same
      exact running reqID stored stores same
  separate := sound.separate
  drained := sound.drained
  nodup := sound.nodup

/-- Running a stored function that is not running yet. -/
theorem Sound.take (sound : Sound machine) {reqID : Nat} {submission : Submission Seen}
    (stores : machine.Stores reqID submission) (apart : reqID ∉ runningIDs machine.stack)
    (frame : Frame Seen) (runs : frame.runningID = some reqID) {next : Machine Seen}
    (pending : next.configuration.pendingConfigurationRequests
      = machine.configuration.pendingConfigurationRequests)
    (submitted : next.submitted = machine.submitted) (history : next.history = machine.history)
    (stack : next.stack = frame :: machine.stack)
    : Sound (next.execute submission) := by
  have stores_iff : ∀ reqID submission, next.Stores reqID submission
      ↔ machine.Stores reqID submission := by
    intro reqID submission
    simp only [Machine.Stores, pending]
  have running : runningIDs next.stack = reqID :: runningIDs machine.stack := by
    rw [stack, runningIDs, List.filterMap_cons_some runs]
    rfl
  have drained : ∀ other ∈ drainedIDs next.stack, ∃ stored, machine.Stores other stored := by
    intro other member
    rw [stack] at member
    obtain ⟨found, inStack, isDrained⟩ := List.mem_filterMap.mp member
    rcases List.mem_cons.mp inStack with rfl | inside
    · have same : found.runningID = some other := by
        cases found <;> first | exact isDrained | cases isDrained
      obtain rfl := Option.some.inj (runs.symm.trans same)
      exact ⟨submission, stores⟩
    · exact sound.drained other (List.mem_filterMap.mpr ⟨found, inside, isDrained⟩)
  have entered : Sound next := by
    constructor
    · rw [history]
      exact sound.once
    · rw [history, submitted]
      exact sound.past
    · simpa only [stores_iff, submitted] using sound.counted
    · intro other stored storesOther event member same
      rw [running]
      rw [history] at member
      exact List.mem_cons_of_mem _
        (sound.running other stored ((stores_iff ..).mp storesOther) event member same)
    · simpa only [stores_iff] using sound.separate
    · simpa only [stores_iff] using drained
    · rw [running]
      exact List.nodup_cons.mpr ⟨apart, sound.nodup⟩
  apply entered.execute
  · intro event member same
    rw [history] at member
    exact apart (sound.running reqID submission stores event member same)
  · rw [submitted]
    exact sound.counted reqID submission stores
  · intro other stored storesOther same
    have sameID := sound.separate reqID other submission stored stores
      ((stores_iff ..).mp storesOther) same
    rw [running, ← sameID]
    exact List.mem_cons_self ..

/-- Erasing a request that the drain loop does not run, with any event about its function, when
no other request stops running.
-/
theorem Sound.erase (sound : Sound machine) {reqID : Nat} {history : List Event}
    {stack : List (Frame Seen)} (undrained : reqID ∉ drainedIDs stack)
    (once : AtMostOnce history)
    (events : ∀ event ∈ history, event ∈ machine.history
      ∨ ∃ submission, machine.Stores reqID submission ∧ event.tag = submission.tag)
    (running : ∀ other ∈ runningIDs machine.stack, other ≠ reqID → other ∈ runningIDs stack)
    (drained : ∀ other ∈ drainedIDs stack, other ∈ drainedIDs machine.stack)
    (nodup : (runningIDs stack).Nodup) {next : Machine Seen}
    (pending : next.configuration.pendingConfigurationRequests
      = machine.configuration.pendingConfigurationRequests.erase reqID)
    (sameSubmitted : next.submitted = machine.submitted) (sameHistory : next.history = history)
    (sameStack : next.stack = stack)
    : Sound next := by
  have stores : ∀ other submission, next.Stores other submission
      ↔ other ≠ reqID ∧ machine.Stores other submission := by
    intro other submission
    rw [Machine.Stores, pending]
    exact OrderedMap.find?_erase_eq_some_iff
  subst sameHistory sameStack
  constructor
  · exact once
  · intro event member
    rw [sameSubmitted]
    rcases events event member with before | ⟨submission, stored, same⟩
    · exact sound.past event before
    · rw [same]
      exact sound.counted reqID submission stored
  · intro other submission found
    rw [sameSubmitted]
    exact sound.counted other submission ((stores ..).mp found).2
  · intro other submission found event member same
    obtain ⟨different, stored⟩ := (stores ..).mp found
    rcases events event member with before | ⟨erased, storedErased, sameErased⟩
    · exact running other (sound.running other submission stored event before same) different
    · exact absurd (sound.separate other reqID submission erased stored storedErased
        (same.symm.trans sameErased)) different
  · intro left right leftSubmission rightSubmission leftFound rightFound
    exact sound.separate left right leftSubmission rightSubmission ((stores ..).mp leftFound).2
      ((stores ..).mp rightFound).2
  · intro other member
    obtain ⟨submission, stored⟩ := sound.drained other (drained other member)
    refine ⟨submission, (stores ..).mpr ⟨?_, stored⟩⟩
    intro same
    exact undrained (same ▸ member)
  · exact nodup

/-- Enqueueing a new submission or an empty function under an ID that is not drained. -/
theorem Sound.enqueue (sound : Sound machine) {func : Option (Submission Seen)}
    (undrained : machine.configuration.lastConfigurationRequestID ∉ drainedIDs machine.stack)
    {submitted : Nat} (grows : machine.submitted ≤ submitted)
    (new : ∀ submission, func = some submission
      → submission.tag = machine.submitted ∧ machine.submitted < submitted)
    : Sound
        {
          machine with
          configuration := machine.configuration.enqueue func
          submitted := submitted
        } := by
  have stores : ∀ reqID submission,
      ({
        machine with
        configuration := machine.configuration.enqueue func
        submitted := submitted
      } : Machine Seen).Stores reqID submission
      → (reqID = machine.configuration.lastConfigurationRequestID ∧ func = some submission)
        ∨ machine.Stores reqID submission := by
    intro reqID submission found
    rcases OrderedMap.find?_insert_eq_some_iff.mp found with ⟨same, isNew⟩ | ⟨-, old⟩
    · exact Or.inl ⟨same, isNew.symm⟩
    · exact Or.inr old
  constructor
  · exact sound.once
  · intro event member
    exact (sound.past event member).trans_le grows
  · intro reqID submission found
    rcases stores reqID submission found with ⟨-, isNew⟩ | old
    · rw [(new submission isNew).1]
      exact (new submission isNew).2
    · exact (sound.counted reqID submission old).trans_le grows
  · intro reqID submission found event member same
    rcases stores reqID submission found with ⟨-, isNew⟩ | old
    · have before := sound.past event member
      rw [same, (new submission isNew).1] at before
      exact absurd before (lt_irrefl _)
    · exact sound.running reqID submission old event member same
  · intro left right leftSubmission rightSubmission leftFound rightFound same
    rcases stores left leftSubmission leftFound with ⟨leftID, leftNew⟩ | leftOld <;>
      rcases stores right rightSubmission rightFound with ⟨rightID, rightNew⟩ | rightOld
    · rw [leftID, rightID]
    · have before := sound.counted right rightSubmission rightOld
      rw [← same, (new leftSubmission leftNew).1] at before
      exact absurd before (lt_irrefl _)
    · have before := sound.counted left leftSubmission leftOld
      rw [same, (new rightSubmission rightNew).1] at before
      exact absurd before (lt_irrefl _)
    · exact sound.separate left right leftSubmission rightSubmission leftOld rightOld same
  · intro reqID member
    obtain ⟨submission, stored⟩ := sound.drained reqID member
    refine ⟨submission, ?_⟩
    have different : reqID ≠ machine.configuration.lastConfigurationRequestID := by
      intro same
      exact undrained (same ▸ member)
    simp only [Machine.Stores, Configuration.enqueue, OrderedMap.find?_insert, if_neg different]
    exact stored
  · exact sound.nodup

/-- A throw past no running function. -/
theorem Sound.badFunctionCall (sound : Sound machine) (running : runningIDs machine.stack = [])
    : Sound machine.badFunctionCall := by
  have drained : drainedIDs machine.stack = [] := by
    refine List.eq_nil_iff_forall_not_mem.mpr (fun reqID member => ?_)
    have runs := mem_runningIDs_of_mem_drainedIDs member
    rw [running] at runs
    cases runs
  exact sound.same rfl rfl rfl running.symm drained.symm

/-- The state is defined and sound. -/
def State.Sound (state : State Seen) : Prop :=
  ∃ machine, state = .defined machine ∧ Reentrancy.Sound machine

/-- Requesting a function. -/
theorem Sound.request (sound : Sound machine) {func : Body Seen}
    (undrained : machine.configuration.enqueues = true
      → machine.configuration.lastConfigurationRequestID ∉ drainedIDs machine.stack)
    : (machine.request func).Sound := by
  unfold Machine.request
  simp only
  split
  · rename_i queued
    unfold Machine.enqueue
    rw [if_neg (undrained queued)]
    refine ⟨_, rfl, sound.enqueue (undrained queued) (Nat.le_succ _) ?_⟩
    intro submission same
    obtain rfl := Option.some.inj same
    exact ⟨rfl, Nat.lt_succ_self _⟩
  · have counted : Sound { machine with submitted := machine.submitted + 1 } := by
      obtain ⟨once, past, stored, running, separate, drained, nodup⟩ := sound
      exact {
        once := once
        past := fun event member => Nat.lt_succ_of_lt (past event member)
        counted := fun reqID submission found => Nat.lt_succ_of_lt (stored reqID submission found)
        running := running
        separate := separate
        drained := drained
        nodup := nodup
      }
    refine ⟨_, rfl, counted.execute ?_ (Nat.lt_succ_self _) ?_⟩
    · intro event member
      exact (sound.past event member).ne
    · intro reqID stored found same
      exact absurd (sound.counted reqID stored found) (same ▸ lt_irrefl _)

/-- Requesting an empty function. -/
theorem Sound.requestEmpty (sound : Sound machine)
    (harmless : if machine.configuration.enqueues then
        machine.configuration.lastConfigurationRequestID ∉ drainedIDs machine.stack
      else
        runningIDs machine.stack = [])
    : machine.requestEmpty.Sound := by
  unfold Machine.requestEmpty
  split at harmless
  · rename_i queued
    rw [if_pos queued]
    unfold Machine.enqueue
    rw [if_neg harmless]
    refine ⟨_, rfl, sound.enqueue harmless le_rfl ?_⟩
    intro submission none
    cases none
  · rename_i direct
    rw [if_neg direct]
    exact ⟨_, rfl, sound.badFunctionCall harmless⟩

/-- Performing a request whose function does not run already. -/
theorem Sound.perform (sound : Sound machine) {reqID : Nat}
    (apart : (machine.configuration.pendingConfigurationRequests.find? reqID).join.isSome = true
      → reqID ∉ runningIDs machine.stack)
    : Sound (machine.perform reqID) := by
  unfold Machine.perform
  simp only
  split
  · rename_i submission found
    exact sound.take found (apart (by rw [found]; rfl)) (.endPerform reqID) rfl rfl rfl rfl rfl
  · rename_i missing
    have undrained : reqID ∉ drainedIDs machine.stack := by
      intro member
      obtain ⟨submission, stored⟩ := sound.drained reqID member
      exact missing submission stored
    exact sound.erase undrained sound.once (fun event member => Or.inl member)
      (fun other member _ => member) (fun other member => member) sound.nodup rfl rfl rfl rfl

/-- Aborting a request that the drain loop does not run. -/
theorem Sound.abort (sound : Sound machine) {reqID : Nat}
    (undrained : (machine.configuration.pendingConfigurationRequests.find? reqID).isSome = true
      → reqID ∉ drainedIDs machine.stack)
    : (machine.abort reqID).Sound := by
  unfold Machine.abort
  split
  · exact ⟨machine, rfl, sound⟩
  · rename_i found
    have apart := undrained (by rw [found]; rfl)
    unfold Machine.erase
    rw [if_neg apart]
    exact ⟨_, rfl, sound.erase apart sound.once (fun event member => Or.inl member)
      (fun other member _ => member) (fun other member => member) sound.nodup rfl rfl rfl rfl⟩
  · rename_i submission found
    have apart := undrained (by rw [found]; rfl)
    unfold Machine.erase
    rw [if_neg apart]
    refine ⟨_, rfl, sound.erase apart (sound.once.abort submission.tag) ?_
      (fun other member _ => member) (fun other member => member) sound.nodup rfl rfl rfl rfl⟩
    intro event member
    rcases List.mem_append.mp member with before | last
    · exact Or.inl before
    · rw [List.mem_singleton.mp last]
      exact Or.inr ⟨submission, found, rfl⟩

/-- Attaching and detaching change no submission. -/
theorem Sound.attach (sound : Sound machine) (owner : Nat)
    : Sound (machine.attach owner) := by
  unfold Machine.attach
  split
  · exact sound
  · exact sound.same rfl rfl rfl rfl rfl

theorem Sound.detach (sound : Sound machine) (owner : Nat)
    : Sound (machine.detach owner) := by
  unfold Machine.detach
  split
  · exact sound.same rfl rfl rfl rfl rfl
  · exact sound

/-- A round of the drain loop that takes no running function. -/
theorem Sound.drainRound (sound : Sound machine)
    (harmless : match machine.configuration.pendingConfigurationRequests.min? with
      | none => True
      | some (_, none) => runningIDs machine.stack = []
      | some (reqID, some _) => reqID ∉ runningIDs machine.stack)
    : Sound machine.drainRound := by
  unfold Machine.drainRound
  cases first : machine.configuration.pendingConfigurationRequests.min? with
  | none => exact sound
  | some entry =>
      obtain ⟨reqID, stored⟩ := entry
      rw [first] at harmless
      cases stored with
      | none => exact sound.badFunctionCall harmless
      | some submission =>
          have stores : machine.Stores reqID submission := by
            rw [Machine.Stores, OrderedMap.find?_eq_some_iff]
            exact List.mem_of_mem_head? first
          exact sound.take stores harmless (.eraseDrained reqID) rfl rfl rfl rfl rfl

/-- The end of a function that was taken from the map erases its request. -/
theorem Sound.finish (sound : Sound machine) {frame : Frame Seen} {rest : List (Frame Seen)}
    (stack : machine.stack = frame :: rest) {reqID : Nat} (runs : frame.runningID = some reqID)
    {next : Machine Seen} (running : runningIDs next.stack = runningIDs rest)
    (drained : drainedIDs next.stack = drainedIDs rest)
    (pending : next.configuration.pendingConfigurationRequests
      = machine.configuration.pendingConfigurationRequests)
    (submitted : next.submitted = machine.submitted) (history : next.history = machine.history)
    : (next.erase reqID).Sound := by
  have nodup := sound.nodup
  have runningStack : runningIDs machine.stack = reqID :: runningIDs rest := by
    rw [stack, runningIDs, List.filterMap_cons_some runs]
    rfl
  rw [runningStack, List.nodup_cons] at nodup
  have apart : reqID ∉ drainedIDs next.stack := by
    rw [drained]
    intro member
    exact nodup.1 (mem_runningIDs_of_mem_drainedIDs member)
  unfold Machine.erase
  rw [if_neg apart]
  refine ⟨_, rfl, sound.erase apart sound.once (fun event member => Or.inl member) ?_ ?_ ?_
    (congrArg (OrderedMap.erase · reqID) pending) submitted history rfl⟩
  · intro other member different
    rw [runningStack] at member
    rw [running]
    rcases List.mem_cons.mp member with same | inside
    · exact absurd same different
    · exact inside
  · intro other member
    rw [drained] at member
    rw [stack]
    obtain ⟨found, inside, isDrained⟩ := List.mem_filterMap.mp member
    exact List.mem_filterMap.mpr ⟨found, List.mem_cons_of_mem _ inside, isDrained⟩
  · rw [running]
    exact nodup.2

/-- A harmless step keeps the device defined and sound. -/
theorem Sound.proceed (sound : Sound machine) (harmless : machine.Harmless) {seen : Seen}
    {next : State Seen} (taken : machine.proceed seen = some next)
    : next.Sound := by
  unfold Machine.Harmless at harmless
  unfold Machine.proceed at taken
  have restack (stack : List (Frame Seen)) (running : runningIDs stack = runningIDs machine.stack)
      (drained : drainedIDs stack = drainedIDs machine.stack) :
      Sound { machine with stack := stack } :=
    sound.same rfl rfl rfl running drained
  split at taken
  · cases taken
  · rename_i rest stack
    obtain rfl := Option.some.inj taken
    exact ⟨_, rfl, restack rest (by rw [stack]; rfl) (by rw [stack]; rfl)⟩
  · rename_i func after rest stack
    obtain rfl := Option.some.inj taken
    rw [stack] at harmless
    exact (restack (.code (after seen) :: rest) (by rw [stack]; rfl) (by rw [stack]; rfl)).request
      harmless
  · rename_i operation after rest stack
    obtain rfl := Option.some.inj taken
    rw [stack] at harmless
    have sound := restack (.code (after seen) :: rest) (by rw [stack]; rfl) (by rw [stack]; rfl)
    cases operation with
    | requestEmpty => exact sound.requestEmpty harmless
    | perform reqID => exact ⟨_, rfl, sound.perform harmless⟩
    | abort reqID => exact sound.abort harmless
    | attach owner => exact ⟨_, rfl, sound.attach owner⟩
    | detach owner => exact ⟨_, rfl, sound.detach owner⟩
  · rename_i reqID rest stack
    obtain rfl := Option.some.inj taken
    exact sound.finish stack rfl rfl rfl rfl rfl rfl
  · rename_i rest stack
    obtain rfl := Option.some.inj taken
    rw [stack] at harmless
    have sound := restack rest (by rw [stack]; rfl) (by rw [stack]; rfl)
    exact ⟨_, rfl, sound.drainRound harmless⟩
  · rename_i reqID rest stack
    obtain rfl := Option.some.inj taken
    exact sound.finish stack rfl rfl rfl rfl rfl rfl

/-- A device on which nothing was submitted is sound. -/
theorem New.sound (new : New machine)
    : Sound machine where
  once := by
    rw [new.history]
    exact .nil
  past := by simp [new.history]
  counted := by simp [Machine.Stores, new.pending]
  running := by simp [new.history]
  separate := by simp [Machine.Stores, new.pending]
  drained := by simp [new.stack, drainedIDs]
  nodup := by simp [new.stack, runningIDs]

/-- Every state that harmless steps reach is defined and sound. -/
theorem sound_of_reachable {state : State Seen}
    (reached : ((system Seen).restrict Harmless).Reachable state)
    : state.Sound := by
  have invariant : ((system Seen).restrict Harmless).Invariant State.Sound := {
    initial := by
      rintro state ⟨machine, new, rfl⟩
      exact ⟨machine, rfl, new.sound⟩
    step := by
      rintro state label next ⟨machine, rfl, sound⟩ ⟨harmless, taken⟩
      cases label with
      | call body =>
          change advance (.defined machine) (.call body) = some next at taken
          unfold advance at taken
          simp only at taken
          split at taken
          · rename_i stack
            obtain rfl := Option.some.inj taken
            exact ⟨_, rfl, sound.same rfl rfl rfl (by rw [stack]; rfl) (by rw [stack]; rfl)⟩
          · cases taken
      | proceed seen => exact sound.proceed harmless taken
  }
  exact invariant.reachable reached

end Aspl.Device.Reentrancy
