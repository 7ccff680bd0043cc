import Aspl.Base.Locking
import Aspl.Device.AsyncSetters

/-! The order in which the plugin, a device and its streams are locked.
A stream setter locks its stream and then the device; a queued change of that stream locks the
stream while the device is locked. A deadlock is exactly such a pair.
-/

namespace Aspl.Device.LockOrder

open Aspl.CoreAudio

universe u v w

/-- The `writeMutex_` of the plugin, of the device and of each stream by its object ID. -/
inductive Lock where
  | plugin
  | device
  | stream (streamID : Nat)
deriving DecidableEq

/-- A call of `Set<Prop>Async()`: the stream it is called on, if not the device, and what its
tests and its lambda do.
-/
structure Setter (State : Type u) where
  stream : Option Nat
  unchanged : State → Bool
  check : State → OSStatus
  setImpl : State → State

namespace Setter

variable {State : Type u}

/-- `setter_mutex`. -/
def lock (setter : Setter State) : Lock :=
  match setter.stream with
  | some streamID => .stream streamID
  | none => .device

/-- The call gets past its test and its check, and requests a configuration change. -/
def submits (setter : Setter State) (state : State) : Bool :=
  !setter.unchanged state && setter.check state == .kAudioHardwareNoError

/-- What the lambda does once it has locked `setter_mutex`. -/
def change (setter : Setter State) (state : State) : State :=
  if setter.unchanged state then state else setter.setImpl state

end Setter

/-- The call of the setter of a property. -/
def setterOf {State : Type u} {Value : Type v} (property : AsyncProperty State Value)
    (stream : Option Nat) (value : Value)
    : Setter State where
  stream := stream
  unchanged state := property.same value (property.get state)
  check state := property.check state value
  setImpl := property.setImpl value

/-- Who runs a lambda: the setter in place, the drain of `RequestOwnershipChange()`, or
`PerformConfigurationChange()`.
-/
inductive Runner where
  | inPlace
  | drain (reqID : Nat)
  | perform (reqID : Nat)
deriving DecidableEq

/-- The program points of a thread; each is named by what the thread does next. -/
inductive Pc (State : Type u) where
  | idle
  | lockSetter (setter : Setter State)
  | testSetter (setter : Setter State)
  | lockRequest (setter : Setter State)
  | request (setter : Setter State)
  | unlockRequest (setter : Setter State)
  | unlockSetter (setter : Setter State)
  | lockLambda (runner : Runner) (setter : Setter State)
  | lambda (runner : Runner) (setter : Setter State)
  | unlockLambda (runner : Runner) (setter : Setter State)
  | lockPlugin
  | testOwner
  | lockDetach
  | detach
  | drain
  | eraseDrained (reqID : Nat)
  | unlockDetach
  | unlockPlugin
  | lockPerform (reqID : Nat)
  | beginPerform (reqID : Nat)
  | endPerform (reqID : Nat)
  | unlockPerform

/-- The operations that threads call. -/
inductive Command (State : Type u) where
  | setAsync (setter : Setter State)
  | removeDevice
  | performConfigurationChange (reqID : Nat)

variable {State : Type u}

/-- Where a call starts. -/
def enter : Command State → Pc State
  | .setAsync setter => .lockSetter setter
  | .removeDevice => .lockPlugin
  | .performConfigurationChange reqID => .lockPerform reqID

/-- Where a thread goes on once the lambda that it runs has returned. -/
def afterLambda (setter : Setter State) : Runner → Pc State
  | .inPlace => .unlockRequest setter
  | .drain reqID => .eraseDrained reqID
  | .perform reqID => .endPerform reqID

/-- The next step of each program point. The device is owned by the plugin with ID `plugin`.
An empty function thrown out of the drain loop would release the same locks as its end.
-/
def instruction (plugin : Nat)
    : Pc State → Instruction Lock (World (Setter State) State) (Command State) (Pc State)
  | .idle => .accept enter
  -- Set<Prop>Async()
  | .lockSetter setter => .acquire setter.lock (.testSetter setter)
  | .testSetter setter =>
      .compute
        (fun world =>
          (world, if setter.submits world.state then .lockRequest setter else .unlockSetter setter))
  | .lockRequest setter => .acquire .device (.request setter)
  | .request setter =>
      .compute
        (fun world =>
          if world.configuration.enqueues then
            (
              { world with configuration := world.configuration.enqueue (some setter) },
              .unlockRequest setter
            )
          else
            (world, .lockLambda .inPlace setter))
  | .unlockRequest setter => .release .device (.unlockSetter setter)
  | .unlockSetter setter => .release setter.lock .idle
  -- the lambda, in place or queued
  | .lockLambda runner setter => .acquire setter.lock (.lambda runner setter)
  | .lambda runner setter =>
      .compute
        (fun world =>
          ({ world with state := setter.change world.state }, .unlockLambda runner setter))
  | .unlockLambda runner setter => .release setter.lock (afterLambda setter runner)
  -- Plugin::RemoveDevice() and Device::RequestOwnershipChange()
  | .lockPlugin => .acquire .plugin .testOwner
  | .testOwner =>
      .compute
        (fun world => (world, if world.configuration.hasOwner then .lockDetach else .unlockPlugin))
  | .lockDetach => .acquire .device .detach
  | .detach =>
      .compute
        (fun world =>
          if world.configuration.hasOwner then
            ({ world with configuration := world.configuration.detachOwner plugin }, .drain)
          else
            (world, .unlockDetach))
  | .drain =>
      .compute
        (fun world =>
          (
            world,
            match world.configuration.pendingConfigurationRequests.min? with
            | some (reqID, some setter) => .lockLambda (.drain reqID) setter
            | _ => .unlockDetach
          ))
  | .eraseDrained reqID =>
      .compute
        (fun world => ({ world with configuration := world.configuration.erase reqID }, .drain))
  | .unlockDetach => .release .device .unlockPlugin
  | .unlockPlugin => .release .plugin .idle
  -- Device::PerformConfigurationChange()
  | .lockPerform reqID => .acquire .device (.beginPerform reqID)
  | .beginPerform reqID =>
      .compute
        (fun world =>
          (
            { world with configuration := world.configuration.enterHandler },
            match world.configuration.pendingConfigurationRequests.find? reqID with
            | some (some setter) => .lockLambda (.perform reqID) setter
            | _ => .endPerform reqID
          ))
  | .endPerform reqID =>
      .compute
        (fun world =>
          (
            { world with configuration := (world.configuration.erase reqID).leaveHandler },
            .unlockPerform
          ))
  | .unlockPerform => .release .device .idle

/-- The code that the threads run. -/
def program (plugin : Nat)
    : Program Lock (World (Setter State) State) (Command State) (Pc State) where
  idle := .idle
  instruction := instruction plugin

/-- Threads, the locks, and a device with its queue and its values. -/
abbrev Threads (Thread : Type w) (State : Type u) :=
  Machine Thread Lock (World (Setter State) State) (Pc State)

variable {Thread : Type w} [DecidableEq Thread]

/-- Every interleaving of any number of threads, from a device with an empty queue. -/
def system (Thread : Type w) [DecidableEq Thread] (State : Type u) (plugin : Nat)
    : System (Threads Thread State) (Thread × Move (Command State)) :=
  (program plugin).system
    (fun world =>
      world.configuration.pendingConfigurationRequests = .empty
      ∧ world.configuration.insideConfigurationHandler = 0)

/-- The locks around a lambda, by its runner. -/
def Runner.held (setter : Setter State) : Runner → List Lock
  | .inPlace => [.device, setter.lock]
  | .drain _ => [.device, .plugin]
  | .perform _ => [.device]

/-- The locks held at each program point, the one locked last first. -/
def held : Pc State → List Lock
  | .idle | .lockSetter _ | .lockPlugin | .lockPerform _ => []
  | .testSetter setter | .lockRequest setter | .unlockSetter setter => [setter.lock]
  | .request setter | .unlockRequest setter => [.device, setter.lock]
  | .lockLambda runner setter => runner.held setter
  | .lambda runner setter | .unlockLambda runner setter => setter.lock :: runner.held setter
  | .testOwner | .lockDetach | .unlockPlugin => [.plugin]
  | .detach | .drain | .eraseDrained _ | .unlockDetach => [.device, .plugin]
  | .beginPerform _ | .endPerform _ | .unlockPerform => [.device]

/-- After a lambda its runner goes on with the locks that were around it. -/
theorem held_afterLambda (setter : Setter State) (runner : Runner)
    : held (afterLambda setter runner) = runner.held setter := by
  cases runner <;> rfl

/-- Every instruction locks and unlocks what the program points say. -/
def discipline (plugin : Nat)
    : Discipline
        (program plugin : Program Lock (World (Setter State) State) (Command State) (Pc State))
    where
  held := held
  idle := rfl
  accept := by
    intro pc enter code command
    cases pc <;> simp only [program, instruction, reduceCtorEq, Instruction.accept.injEq] at code
    subst code
    cases command <;> rfl
  acquire := by
    intro pc lock next code
    cases pc <;> simp only [program, instruction, reduceCtorEq, Instruction.acquire.injEq] at code
    all_goals
      obtain ⟨rfl, rfl⟩ := code
      rfl
  release := by
    intro pc lock next code
    cases pc <;> simp only [program, instruction, reduceCtorEq, Instruction.release.injEq] at code
    all_goals
      obtain ⟨rfl, rfl⟩ := code
      first | rfl | rw [held_afterLambda, held]
  compute := by
    intro pc run code world
    cases pc <;> simp only [program, instruction, reduceCtorEq, Instruction.compute.injEq] at code
    all_goals
      subst code
      first | rfl | (dsimp only; split <;> rfl)

-----------------------------------------------------------------------------------------
-- Crossed threads
-----------------------------------------------------------------------------------------

/-- A setter of the stream has passed its tests and is about to lock the device. -/
def SubmitsOn (streamID : Nat) (pc : Pc State) : Prop :=
  ∃ setter, pc = .lockRequest setter ∧ setter.stream = some streamID

/-- A queued change of the stream was chosen under the device lock, and is about to lock the
stream.
-/
def RunsOn (streamID : Nat) (pc : Pc State) : Prop :=
  ∃ runner setter,
    pc = .lockLambda runner setter ∧ runner ≠ .inPlace ∧ setter.stream = some streamID

/-- One thread has locked a stream and needs the device, another has locked the device and needs
that stream.
-/
def Crossed (threads : Threads Thread State) : Prop :=
  ∃ submitting running streamID,
    SubmitsOn streamID (threads.pc submitting) ∧ RunsOn streamID (threads.pc running)

/-- The call that the next step of a program point submits. -/
def submitted (world : World (Setter State) State) : Pc State → Option (Setter State)
  | .testSetter setter => if setter.submits world.state then some setter else none
  | _ => none

/-- The queued change that the next step of a program point chooses to run. -/
def chosen (world : World (Setter State) State) : Pc State → Option (Setter State)
  | .drain => world.configuration.pendingConfigurationRequests.min?.bind (·.2)
  | .beginPerform reqID => (world.configuration.pendingConfigurationRequests.find? reqID).join
  | _ => none

/-- A step does not cross two threads: no change of a stream is submitted while another one of
that stream, chosen from the queue, is about to lock the stream; and none is chosen from the
queue while a setter of that stream is about to lock the device.
-/
def Uncrossing (threads : Threads Thread State) (label : Thread × Move (Command State)) : Prop :=
  (∀ setter streamID,
    submitted threads.data (threads.pc label.1) = some setter
    → setter.stream = some streamID
    → ∀ other, ¬ RunsOn streamID (threads.pc other))
  ∧ ∀ setter streamID,
      chosen threads.data (threads.pc label.1) = some setter
      → setter.stream = some streamID
      → ∀ other, ¬ SubmitsOn streamID (threads.pc other)

variable {plugin : Nat} {threads next : Threads Thread State}

/-- Only a call that passes its tests goes on to submit. -/
theorem submitted_of_follows {world : World (Setter State) State} {before after : Pc State}
    (follows : (program plugin).Follows world before after) {streamID : Nat}
    (submits : SubmitsOn streamID after)
    : ∃ setter, submitted world before = some setter ∧ setter.stream = some streamID := by
  obtain ⟨setter, rfl, onStream⟩ := submits
  cases before <;> simp only [Program.Follows, program, instruction, reduceCtorEq] at follows
  case testSetter tested =>
    split at follows
    · rename_i passes
      obtain rfl := Pc.lockRequest.inj follows
      exact ⟨setter, if_pos passes, onStream⟩
    · cases follows
  case idle =>
    obtain ⟨command, entered⟩ := follows
    cases command <;> cases entered
  case unlockLambda runner _ => cases runner <;> cases follows
  all_goals
    split at follows
    all_goals cases follows

/-- Only a change chosen from the queue goes on to run outside its setter. -/
theorem chosen_of_follows {world : World (Setter State) State} {before after : Pc State}
    (follows : (program plugin).Follows world before after) {streamID : Nat}
    (runs : RunsOn streamID after)
    : ∃ setter, chosen world before = some setter ∧ setter.stream = some streamID := by
  obtain ⟨runner, setter, rfl, queued, onStream⟩ := runs
  cases before <;> simp only [Program.Follows, program, instruction, reduceCtorEq] at follows
  case drain =>
    split at follows
    · rename_i stored
      obtain ⟨-, rfl⟩ := Pc.lockLambda.inj follows
      exact ⟨setter, by simp [chosen, stored], onStream⟩
    · cases follows
  case beginPerform reqID =>
    split at follows
    · rename_i stored
      obtain ⟨-, rfl⟩ := Pc.lockLambda.inj follows
      exact ⟨setter, by simp [chosen, stored], onStream⟩
    · cases follows
  case idle =>
    obtain ⟨command, entered⟩ := follows
    cases command <;> cases entered
  case unlockLambda finished _ => cases finished <;> cases follows
  case request =>
    split at follows
    · cases follows
    · obtain ⟨rfl, -⟩ := Pc.lockLambda.inj follows
      exact absurd rfl queued
  all_goals
    split at follows
    all_goals cases follows

/-- A step that does not cross two threads leaves no threads crossed. -/
theorem not_crossed_of_uncrossing {label : Thread × Move (Command State)}
    (before : ¬ Crossed threads) (uncrossing : Uncrossing threads label)
    (taken : (program plugin).advance threads label = some next)
    : ¬ Crossed next := by
  rintro ⟨submitting, running, streamID, submits, runs⟩
  obtain ⟨after, moved, follows⟩ := Program.advance_pc taken
  rw [moved] at submits runs
  by_cases submitter : submitting = label.1 <;> by_cases runner : running = label.1
  · rw [submitter, Function.update_self] at submits
    rw [runner, Function.update_self] at runs
    obtain ⟨submitted, rfl, -⟩ := submits
    obtain ⟨_, _, atLambda, -⟩ := runs
    cases atLambda
  · rw [Function.update_of_ne runner] at runs
    rw [submitter, Function.update_self] at submits
    obtain ⟨setter, passes, onStream⟩ := submitted_of_follows follows submits
    exact uncrossing.1 setter streamID passes onStream running runs
  · rw [Function.update_of_ne submitter] at submits
    rw [runner, Function.update_self] at runs
    obtain ⟨setter, picked, onStream⟩ := chosen_of_follows follows runs
    exact uncrossing.2 setter streamID picked onStream submitting submits
  · rw [Function.update_of_ne submitter] at submits
    rw [Function.update_of_ne runner] at runs
    exact before ⟨submitting, running, streamID, submits, runs⟩

/-- Every other step crosses two threads, so the condition leaves out nothing else. -/
theorem crossed_of_not_uncrossing {label : Thread × Move (Command State)}
    (crossing : ¬ Uncrossing threads label)
    (taken : (program plugin).advance threads label = some next)
    : Crossed next := by
  obtain ⟨after, moved, follows⟩ := Program.advance_pc taken
  have stays : ∀ other, threads.pc other ≠ threads.pc label.1
      → next.pc other = threads.pc other := by
    intro other different
    rw [moved, Function.update_of_ne (fun same => different (congrArg threads.pc same))]
  have goes : next.pc label.1 = after := by rw [moved, Function.update_self]
  rw [Uncrossing, not_and_or] at crossing
  rcases crossing with submits | chooses
  · push Not at submits
    obtain ⟨setter, streamID, submitting, onStream, other, runs⟩ := submits
    refine ⟨label.1, other, streamID, ?_, ?_⟩
    · rw [goes]
      cases point : threads.pc label.1 <;> rw [point] at submitting follows
      case testSetter tested =>
        simp only [submitted, Option.ite_none_right_eq_some, Option.some.injEq] at submitting
        obtain ⟨passes, rfl⟩ := submitting
        simp only [Program.Follows, program, instruction, passes, if_true] at follows
        exact ⟨tested, follows, onStream⟩
      all_goals cases submitting
    · rw [stays other]
      · exact runs
      · intro same
        obtain ⟨runner, queued, atLambda, -⟩ := runs
        rw [← same, atLambda] at submitting
        cases submitting
  · push Not at chooses
    obtain ⟨setter, streamID, choosing, onStream, other, submits⟩ := chooses
    refine ⟨other, label.1, streamID, ?_, ?_⟩
    · rw [stays other]
      · exact submits
      · intro same
        obtain ⟨submitted, atRequest, -⟩ := submits
        rw [← same, atRequest] at choosing
        cases choosing
    · rw [goes]
      cases point : threads.pc label.1 <;> rw [point] at choosing follows
      case drain =>
        obtain ⟨⟨reqID, stored⟩, first, rfl⟩ := Option.bind_eq_some_iff.mp choosing
        simp only [Program.Follows, program, instruction, first] at follows
        exact ⟨_, setter, follows, by simp, onStream⟩
      case beginPerform reqID =>
        have found := Option.join_eq_some_iff.mp choosing
        simp only [Program.Follows, program, instruction, found] at follows
        exact ⟨_, setter, follows, by simp, onStream⟩
      all_goals cases choosing

-----------------------------------------------------------------------------------------
-- Deadlocks
-----------------------------------------------------------------------------------------

/-- Crossed threads wait for each other. -/
theorem deadlocked_of_crossed (agrees : (discipline plugin).Agrees threads)
    (crossed : Crossed threads)
    : ∃ group, threads.Deadlocked (program plugin) group := by
  obtain ⟨submitting, running, streamID, ⟨submitted, atRequest, ofSubmitted⟩,
    ⟨runner, queued, atLambda, apart, ofQueued⟩⟩ := crossed
  have different : running ≠ submitting := by
    rintro rfl
    simp [atRequest] at atLambda
  refine ⟨{submitting, running}, ⟨submitting, Or.inl rfl⟩, ?_⟩
  rintro thread (rfl | rfl)
  · refine ⟨.device, ⟨.request submitted, by simp [program, atRequest, instruction]⟩,
      running, Or.inr rfl, different, ?_⟩
    rw [agrees.depth_ne_zero_iff, atLambda]
    cases runner <;> simp [discipline, held, Runner.held]
  · refine ⟨.stream streamID,
      ⟨.lambda runner queued, by simp [program, atLambda, instruction, Setter.lock, ofQueued]⟩,
      submitting, Or.inl rfl, different.symm, ?_⟩
    rw [agrees.depth_ne_zero_iff, atRequest]
    simp [discipline, held, Setter.lock, ofSubmitted]

/-- A thread of a deadlock that holds a lock is a setter before its request, the runner of a
lambda, or `RemoveDevice()` before it locks the device.
-/
theorem pc_of_holder {group : Set Thread} (deadlocked : threads.Deadlocked (program plugin) group)
    {thread : Thread} (member : thread ∈ group) {lock : Lock}
    (holds : lock ∈ held (threads.pc thread))
    : (∃ setter, threads.pc thread = .lockRequest setter ∧ lock = setter.lock)
      ∨ (∃ runner setter, threads.pc thread = .lockLambda runner setter)
      ∨ (threads.pc thread = .lockDetach ∧ lock = .plugin) := by
  obtain ⟨waited, ⟨next, waits⟩, -⟩ := deadlocked.waits thread member
  cases point : threads.pc thread <;> rw [point] at holds waits
  case lockRequest setter => exact Or.inl ⟨setter, rfl, List.mem_singleton.mp holds⟩
  case lockLambda runner setter => exact Or.inr (Or.inl ⟨runner, setter, rfl⟩)
  case lockDetach => exact Or.inr (Or.inr ⟨rfl, List.mem_singleton.mp holds⟩)
  case lockSetter | lockPlugin | lockPerform => simp [held] at holds
  all_goals simp [program, instruction] at waits

/-- Every runner of a lambda has locked the device. -/
theorem device_mem_held_runner (runner : Runner) (setter : Setter State)
    : Lock.device ∈ runner.held setter := by
  cases runner <;> simp [Runner.held]

/-- Where a deadlock holds up the runner of a lambda, threads are crossed: the stream is locked
by a setter that waits for the device.
-/
theorem crossed_of_runner (agrees : (discipline plugin).Agrees threads) {group : Set Thread}
    (deadlocked : threads.Deadlocked (program plugin) group) {running : Thread}
    (member : running ∈ group) {runner : Runner} {queued : Setter State}
    (atLambda : threads.pc running = .lockLambda runner queued)
    : Crossed threads := by
  have waits : (program plugin).instruction (threads.pc running)
      = .acquire queued.lock (.lambda runner queued) := by
    rw [atLambda]
    rfl
  obtain ⟨apart, holder, inside, holds⟩ := deadlocked.held_elsewhere agrees member waits
  have deviceHeld : Lock.device ∈ held (threads.pc running) := by
    rw [atLambda]
    exact device_mem_held_runner runner queued
  have notDevice : queued.lock ≠ .device := fun same => apart (same ▸ deviceHeld)
  obtain ⟨streamID, ofQueued⟩ : ∃ streamID, queued.stream = some streamID := by
    cases stream : queued.stream with
    | none => exact absurd (by simp [Setter.lock, stream]) notDevice
    | some streamID => exact ⟨streamID, rfl⟩
  have isStream : queued.lock = .stream streamID := by simp [Setter.lock, ofQueued]
  have queuedRunner : runner ≠ .inPlace := by
    rintro rfl
    rw [atLambda] at apart
    exact apart (by simp [discipline, held, Runner.held])
  rcases pc_of_holder deadlocked inside holds with
    ⟨submitted, atRequest, same⟩ | ⟨other, setter, atOther⟩ | ⟨-, same⟩
  · refine ⟨holder, running, streamID, ⟨submitted, atRequest, ?_⟩,
      ⟨runner, queued, atLambda, queuedRunner, ofQueued⟩⟩
    rw [isStream] at same
    cases stream : submitted.stream with
    | none => simp [Setter.lock, stream] at same
    | some other =>
        simp only [Setter.lock, stream, Lock.stream.injEq] at same
        rw [same]
  · have alsoDevice : Lock.device ∈ held (threads.pc holder) := by
      rw [atOther]
      exact device_mem_held_runner other setter
    obtain rfl := agrees.exclusive deviceHeld alsoDevice
    exact absurd holds apart
  · rw [isStream] at same
    cases same

/-- In a deadlock with a holder of the device threads are crossed. -/
theorem crossed_of_device_holder (agrees : (discipline plugin).Agrees threads)
    {group : Set Thread} (deadlocked : threads.Deadlocked (program plugin) group)
    {thread : Thread} (member : thread ∈ group) (holds : .device ∈ held (threads.pc thread))
    : Crossed threads := by
  rcases pc_of_holder deadlocked member holds with
    ⟨setter, atRequest, same⟩ | ⟨runner, setter, atLambda⟩ | ⟨-, same⟩
  · have waits : (program plugin).instruction (threads.pc thread)
        = .acquire .device (.request setter) := by
      rw [atRequest]
      rfl
    exact absurd holds (deadlocked.held_elsewhere agrees member waits).1
  · exact crossed_of_runner agrees deadlocked member atLambda
  · cases same

/-- In a deadlock threads are crossed. Whoever holds a lock in it waits for the device or runs a
lambda, and whoever holds the device in it runs a lambda.
-/
theorem crossed_of_deadlocked (agrees : (discipline plugin).Agrees threads) {group : Set Thread}
    (deadlocked : threads.Deadlocked (program plugin) group)
    : Crossed threads := by
  have waitsForDevice : ∀ thread ∈ group, ∀ after,
      (program plugin).instruction (threads.pc thread) = .acquire .device after
      → Crossed threads := by
    intro thread member after waits
    obtain ⟨-, holder, inside, holds⟩ := deadlocked.held_elsewhere agrees member waits
    exact crossed_of_device_holder agrees deadlocked inside holds
  obtain ⟨first, member⟩ := deadlocked.nonempty
  obtain ⟨lock, ⟨after, waits⟩, -⟩ := deadlocked.waits first member
  obtain ⟨-, holder, inside, holds⟩ := deadlocked.held_elsewhere agrees member waits
  rcases pc_of_holder deadlocked inside holds with
    ⟨setter, atRequest, -⟩ | ⟨runner, setter, atLambda⟩ | ⟨atDetach, -⟩
  · refine waitsForDevice holder inside (.request setter) ?_
    rw [atRequest]
    rfl
  · exact crossed_of_runner agrees deadlocked inside atLambda
  · refine waitsForDevice holder inside .detach ?_
    rw [atDetach]
    rfl

/-- No deadlock is reachable by steps that do not cross two threads. -/
theorem no_deadlock {plugin : Nat} {threads : Threads Thread State}
    (reached : ((system Thread State plugin).restrict Uncrossing).Reachable threads)
    : ¬ ∃ group, threads.Deadlocked (program plugin) group := by
  have invariant : ((system Thread State plugin).restrict Uncrossing).Invariant
      (fun threads => (discipline plugin).Agrees threads ∧ ¬ Crossed threads) := {
    initial := by
      intro threads starts
      refine ⟨Discipline.agrees_of_starts starts, ?_⟩
      rintro ⟨submitting, _, _, ⟨_, atRequest, _⟩, _⟩
      rw [starts.pc] at atRequest
      cases atRequest
    step := by
      rintro before label after ⟨agrees, uncrossed⟩ ⟨uncrossing, taken⟩
      exact ⟨agrees.advance taken, not_crossed_of_uncrossing uncrossed uncrossing taken⟩
  }
  obtain ⟨agrees, uncrossed⟩ := invariant.reachable reached
  rintro ⟨group, deadlocked⟩
  exact uncrossed (crossed_of_deadlocked agrees deadlocked)

/-- A published device with nothing queued, a control thread `false` and a HAL thread `true`. -/
def publishedDevice : Threads Bool DeviceState where
  pc _ := .idle
  locks _ := .free
  data := { configuration := { host := true, ownerObjectID := 1 }, state := {} }

/-- Setting the latency of stream 3. -/
def setStreamLatency (latency : UInt32) : Setter DeviceState :=
  setterOf (StreamState.latencyProperty.ofStream 3) (some 3) latency

theorem publishedDevice_starts
    : (program 1).Starts
        (fun world =>
          world.configuration.pendingConfigurationRequests = .empty
          ∧ world.configuration.insideConfigurationHandler = 0)
        publishedDevice where
  pc _ := rfl
  locks _ := rfl
  data := ⟨rfl, rfl⟩

/-- A setter that has locked its stream does not deadlock with a removal of the device. -/
theorem no_deadlock_setter_and_removal
    : ∃ threads : Threads Bool DeviceState,
        threads.pc false = .lockRequest (setStreamLatency 5)
        ∧ threads.pc true = .lockDetach
        ∧ ¬ ∃ group, threads.Deadlocked (program 1) group := by
  have start : ((system Bool DeviceState 1).restrict Uncrossing).Reachable publishedDevice :=
    .initial publishedDevice_starts
  have called := start.step (false, .call (.setAsync (setStreamLatency 5)))
    ⟨⟨nofun, nofun⟩, rfl⟩
  have locked := called.step (false, .proceed) ⟨⟨nofun, nofun⟩, rfl⟩
  have removing := locked.step (true, .call .removeDevice) ⟨⟨nofun, nofun⟩, rfl⟩
  have inPlugin := removing.step (true, .proceed) ⟨⟨nofun, nofun⟩, rfl⟩
  have owned := inPlugin.step (true, .proceed) ⟨⟨nofun, nofun⟩, rfl⟩
  have tested := owned.step (false, .proceed) ⟨⟨?noneRuns, nofun⟩, rfl⟩
  case noneRuns =>
    rintro _ _ _ _ (_ | _) ⟨_, _, atLambda, _⟩
    all_goals cases atLambda
  exact ⟨_, rfl, rfl, no_deadlock tested⟩

/-- The control thread queues a change of a stream and sets the stream again while HAL performs
the change: each waits for the lock of the other.
-/
theorem setter_and_delivery_deadlock
    : ¬ ∀ threads : Threads Bool DeviceState,
        (system Bool DeviceState 1).Reachable threads
        → ¬ ∃ group, threads.Deadlocked (program 1) group := by
  intro never
  have start : (system Bool DeviceState 1).Reachable publishedDevice :=
    .initial publishedDevice_starts
  have called := start.step (false, .call (.setAsync (setStreamLatency 5))) rfl
  have locked := called.step (false, .proceed) rfl
  have tested := locked.step (false, .proceed) rfl
  have lockedDevice := tested.step (false, .proceed) rfl
  have enqueued := lockedDevice.step (false, .proceed) rfl
  have unlockedDevice := enqueued.step (false, .proceed) rfl
  have returned := unlockedDevice.step (false, .proceed) rfl
  have delivering := returned.step (true, .call (.performConfigurationChange 0)) rfl
  have performing := delivering.step (true, .proceed) rfl
  have chosen := performing.step (true, .proceed) rfl
  have calledAgain := chosen.step (false, .call (.setAsync (setStreamLatency 7))) rfl
  have lockedAgain := calledAgain.step (false, .proceed) rfl
  have crossed := lockedAgain.step (false, .proceed) rfl
  have invariant : (system Bool DeviceState 1).Invariant (discipline 1).Agrees := {
    initial := fun _ starts => Discipline.agrees_of_starts starts
    step := fun _ _ _ agrees taken => agrees.advance taken
  }
  refine never _ crossed (deadlocked_of_crossed (invariant.reachable crossed) ?_)
  exact ⟨false, true, 3, ⟨_, rfl, rfl⟩, ⟨_, _, rfl, by simp, rfl⟩⟩

end Aspl.Device.LockOrder
