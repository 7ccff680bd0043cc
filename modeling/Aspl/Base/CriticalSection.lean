import Aspl.Base.System
import Mathlib.Logic.Function.Basic

/-! Calls that run under one mutex, one access to the shared data a step, on any number of threads.
In every interleaving the calls that have finished are a sequential run, and whatever each call
keeps throughout holds in every state. Nothing here names a program.
-/

namespace Aspl

universe u v w x

/-- The code of a call. Each access reads the data, which decides how the code goes on, and writes
them in the same step. A blocked call never returns.
-/
inductive Code (Data : Type u) (Result : Type v) where
  | done (result : Result)
  | blocked
  | access (write : Data → Data) (next : Data → Code Data Result)

namespace Code

variable {Data : Type u} {Result : Type v} {View : Type w}

/-- An access that only reads. -/
def read (view : Data → View) (next : View → Code Data Result) : Code Data Result :=
  .access id (fun data => next (view data))

/-- An access that only writes. -/
def write (change : Data → Data) (next : Code Data Result) : Code Data Result :=
  .access change (fun _ => next)

/-- What the code makes of the data when nothing comes between, if it returns. -/
def run : Code Data Result → Data → Option (Data × Result)
  | .done result, data => some (data, result)
  | .blocked, _ => none
  | .access write next, data => (next data).run (write data)

/-- The data satisfy a predicate before, between and after the accesses of the code. -/
def Throughout (holds : Data → Prop) : Code Data Result → Data → Prop
  | .access write next, data => holds data ∧ (next data).Throughout holds (write data)
  | _, data => holds data

@[simp] theorem run_done (result : Result) (data : Data)
    : (Code.done result).run data = some (data, result) := rfl

@[simp] theorem run_blocked (data : Data)
    : (Code.blocked : Code Data Result).run data = none := rfl

@[simp] theorem run_read (view : Data → View) (next : View → Code Data Result) (data : Data)
    : (read view next).run data = (next (view data)).run data := rfl

@[simp] theorem run_write (change : Data → Data) (next : Code Data Result) (data : Data)
    : (write change next).run data = next.run (change data) := rfl

@[simp] theorem throughout_done {holds : Data → Prop} {result : Result} {data : Data}
    : (Code.done result).Throughout holds data ↔ holds data := Iff.rfl

@[simp] theorem throughout_read {holds : Data → Prop} {view : Data → View}
    {next : View → Code Data Result} {data : Data}
    : (read view next).Throughout holds data
      ↔ holds data ∧ (next (view data)).Throughout holds data := Iff.rfl

@[simp] theorem throughout_write {holds : Data → Prop} {change : Data → Data}
    {next : Code Data Result} {data : Data}
    : (write change next).Throughout holds data
      ↔ holds data ∧ next.Throughout holds (change data) := Iff.rfl

/-- What holds throughout holds at the start. -/
theorem Throughout.now {holds : Data → Prop} {code : Code Data Result} {data : Data}
    (throughout : code.Throughout holds data)
    : holds data := by
  cases code with
  | done | blocked => exact throughout
  | access => exact throughout.1

/-- What holds throughout may be weakened, by induction on the code. -/
theorem Throughout.mono {holds weaker : Data → Prop} {code : Code Data Result} {data : Data}
    (throughout : code.Throughout holds data) (weakens : ∀ data, holds data → weaker data)
    : code.Throughout weaker data := by
  induction code generalizing data with
  | done | blocked => exact weakens data throughout
  | access write next ih => exact ⟨weakens data throughout.1, ih data throughout.2⟩

end Code

/-- A thread is outside of any call, waits for the mutex, or has locked it and has code left. -/
inductive Phase (Data : Type u) (Call : Type v) (Result : Type w) where
  | outside
  | waiting (call : Call)
  | inside (call : Call) (code : Code Data Result)

/-- The threads, the mutex, the data, and the calls that have returned with their results. -/
structure Guarded (Thread : Type x) (Data : Type u) (Call : Type v) (Result : Type w) where
  phase : Thread → Phase Data Call Result
  mutex : Option Thread
  data : Data
  finished : List (Call × Result)

namespace Guarded

variable {Thread : Type x} {Data : Type u} {Call : Type v} {Result : Type w}

/-- A thread starts a call, or goes on. -/
inductive Move (Call : Type v) where
  | call (call : Call)
  | proceed

section Steps

variable [DecidableEq Thread] (body : Call → Code Data Result)

/-- The state after one thread moves to another phase. -/
def goto (state : Guarded Thread Data Call Result) (thread : Thread)
    (phase : Phase Data Call Result)
    : Guarded Thread Data Call Result :=
  { state with phase := Function.update state.phase thread phase }

/-- The next step of a thread: it locks the mutex, makes an access, or unlocks and returns. -/
def proceed (state : Guarded Thread Data Call Result) (thread : Thread)
    : Phase Data Call Result → Option (Guarded Thread Data Call Result)
  | .outside => none
  | .waiting call =>
      match state.mutex with
      | some _ => none
      | none => some { state.goto thread (.inside call (body call)) with mutex := some thread }
  | .inside _ .blocked => none
  | .inside call (.access write next) =>
      some { state.goto thread (.inside call (next state.data)) with data := write state.data }
  | .inside call (.done result) =>
      some {
        state.goto thread .outside with
        mutex := none
        finished := state.finished ++ [(call, result)]
      }

/-- One step of one thread, if it can happen. -/
def advance (state : Guarded Thread Data Call Result)
    : Thread × Move Call → Option (Guarded Thread Data Call Result)
  | (thread, .call call) =>
      match state.phase thread with
      | .outside => some (state.goto thread (.waiting call))
      | _ => none
  | (thread, .proceed) => proceed body state thread (state.phase thread)

/-- No thread has done anything. -/
structure Starts (initial : Data → Prop) (state : Guarded Thread Data Call Result) : Prop where
  phase : ∀ thread, state.phase thread = .outside
  mutex : state.mutex = none
  data : initial state.data
  finished : state.finished = []

/-- All interleavings of the calls of all threads. -/
def system (initial : Data → Prop)
    : System (Guarded Thread Data Call Result) (Thread × Move Call) :=
  .ofFunction (Starts initial) (advance body)

end Steps

/-- The calls one after the other, each with its result. -/
def sequential (body : Call → Code Data Result) (initial : Data → Prop)
    : System Data (Call × Result) where
  initial := initial
  step data label next := (body label.1).run data = some (next, label.2)

/-- A thread that is about to lock the mutex has a call that the data allow. -/
def Admits (allowed : Data → Call → Prop) (state : Guarded Thread Data Call Result)
    (label : Thread × Move Call)
    : Prop :=
  ∀ call, label.2 = .proceed → state.phase label.1 = .waiting call → allowed state.data call

section Atomicity

variable {body : Call → Code Data Result} {initial : Data → Prop}
  {allowed : Data → Call → Prop} {before : Data}

/-- A thread is as far in its call as the data are: with what the call has left to do they become
what the whole call makes of the data before it, and they are still to satisfy what the call keeps.
-/
structure Runs (body : Call → Code Data Result) (before data : Data) (call : Call)
    (code : Code Data Result)
    : Prop where
  same : code.run data = (body call).run before
  keeps
    : ∀ holds : Data → Prop, (body call).Throughout holds before → code.Throughout holds data

/-- A call that has just locked the mutex has everything to do. -/
theorem Runs.start (body : Call → Code Data Result) (before : Data) (call : Call)
    : Runs body before before call (body call) :=
  ⟨rfl, fun _ throughout => throughout⟩

/-- An access of a call. -/
theorem Runs.access {data : Data} {call : Call} {write : Data → Data}
    {next : Data → Code Data Result} (runs : Runs body before data call (.access write next))
    : Runs body before (write data) call (next data) :=
  ⟨runs.same, fun holds throughout => (runs.keeps holds throughout).2⟩

/-- Where the data of a state are, seen from the last state without a call under way: the thread
that has locked the mutex is the only one inside a call, which was allowed and has come that far.
-/
structure Located (body : Call → Code Data Result) (allowed : Data → Call → Prop) (before : Data)
    (state : Guarded Thread Data Call Result)
    : Prop where
  holder
    : ∀ thread call code, state.phase thread = .inside call code → state.mutex = some thread
  free : state.mutex = none → state.data = before
  locked
    : ∀ thread,
        state.mutex = some thread
        → ∃ call code,
            state.phase thread = .inside call code
            ∧ allowed before call
            ∧ Runs body before state.data call code

/-- The finished calls are a sequential run, and the data are located after it. -/
def Atomic (body : Call → Code Data Result) (initial : Data → Prop)
    (allowed : Data → Call → Prop) (state : Guarded Thread Data Call Result)
    : Prop :=
  ∃ start before,
    initial start
    ∧ ((sequential body initial).restrict (fun data label => allowed data label.1)).Run start
        state.finished before
    ∧ Located body allowed before state

variable {state next : Guarded Thread Data Call Result} {thread : Thread}

/-- The finished calls lead to `before`, one after the other. The data are still that, or the thread
that has locked the mutex is inside a call that was allowed then, and shows them.
-/
structure Follows (body : Call → Code Data Result) (initial : Data → Prop)
    (allowed : Data → Call → Prop) (shows : Data → Call → Data → Prop) (before : Data)
    (state : Guarded Thread Data Call Result)
    : Prop where
  finished
    : ∃ start,
        initial start
        ∧ ((sequential body initial).restrict (fun data label => allowed data label.1)).Run start
            state.finished before
  free : state.mutex = none → state.data = before
  locked
    : ∀ thread,
        state.mutex = some thread
        → ∃ call code,
            state.phase thread = .inside call code
            ∧ allowed before call
            ∧ shows before call state.data

/-- What a call shows throughout in every sequential state, it shows in every state. -/
theorem follows_of_atomic (atomic : Atomic body initial allowed state) {holds : Data → Prop}
    {shows : Data → Call → Data → Prop}
    (invariant
      : ((sequential body initial).restrict (fun data label => allowed data label.1)).Invariant
          holds)
    (throughout
      : ∀ data call,
          holds data → allowed data call → (body call).Throughout (shows data call) data)
    : ∃ before, holds before ∧ Follows body initial allowed shows before state := by
  obtain ⟨start, before, starts, run, located⟩ := atomic
  have kept := run.preserves invariant.step (invariant.initial start starts)
  refine ⟨before, kept, ⟨start, starts, run⟩, located.free, ?_⟩
  intro thread held
  obtain ⟨call, code, inside, permitted, runs⟩ := located.locked thread held
  exact ⟨call, code, inside, permitted, (runs.keeps _ (throughout before call kept permitted)).now⟩

/-- What a call keeps throughout in every sequential state holds in every state. -/
theorem holds_of_atomic (atomic : Atomic body initial allowed state)
    {holds always : Data → Prop}
    (invariant
      : ((sequential body initial).restrict (fun data label => allowed data label.1)).Invariant
          holds)
    (refl : ∀ data, holds data → always data)
    (throughout
      : ∀ data call, holds data → allowed data call → (body call).Throughout always data)
    : always state.data := by
  have followed
      : ∃ before,
          holds before
          ∧ Follows body initial allowed (fun _ _ data => always data) before state :=
    follows_of_atomic atomic invariant throughout
  obtain ⟨before, kept, follows⟩ := followed
  cases held : state.mutex with
  | none => exact follows.free held ▸ refl before kept
  | some thread =>
      obtain ⟨_, _, -, -, shown⟩ := follows.locked thread held
      exact shown

/-- When no call has locked the mutex, the data satisfy every sequential invariant. -/
theorem free_of_atomic (atomic : Atomic body initial allowed state)
    (free : state.mutex = none) {holds : Data → Prop}
    (invariant
      : ((sequential body initial).restrict (fun data label => allowed data label.1)).Invariant
          holds)
    : holds state.data := by
  obtain ⟨start, before, starts, run, located⟩ := atomic
  rw [located.free free]
  exact run.preserves invariant.step (invariant.initial start starts)

variable [DecidableEq Thread]

/-- A thread that is not inside a call starts one. -/
theorem Located.wait (located : Located body allowed before state) {call : Call}
    (outside : state.phase thread = .outside)
    : Located body allowed before (state.goto thread (.waiting call)) where
  holder := by
    intro other inner code inside
    by_cases same : other = thread
    · subst same
      simp [goto] at inside
    · exact located.holder other inner code (by simpa [goto, same] using inside)
  free := located.free
  locked := by
    intro other holds
    obtain ⟨inner, code, inside, rest⟩ := located.locked other holds
    have different : other ≠ thread := by
      rintro rfl
      rw [outside] at inside
      cases inside
    exact ⟨inner, code, by simpa [goto, different] using inside, rest⟩

/-- A waiting thread locks the free mutex. -/
theorem Located.lock (located : Located body allowed before state) {call : Call}
    (free : state.mutex = none) (permitted : allowed state.data call)
    : Located body allowed before
        { state.goto thread (.inside call (body call)) with mutex := some thread } where
  holder := by
    intro other inner code inside
    by_cases same : other = thread
    · exact congrArg some same.symm
    · have held := located.holder other inner code (by simpa [goto, same] using inside)
      rw [free] at held
      cases held
  free := by
    intro unlocked
    cases unlocked
  locked := by
    intro other holds
    obtain rfl := Option.some.inj holds
    have same := located.free free
    refine ⟨call, body call, by simp [goto], same ▸ permitted, ?_⟩
    exact same ▸ Runs.start body state.data call

/-- The thread that has locked the mutex makes an access. -/
theorem Located.access (located : Located body allowed before state) {call : Call}
    {write : Data → Data} {rest : Data → Code Data Result}
    (inside : state.phase thread = .inside call (.access write rest))
    : Located body allowed before {
        state.goto thread (.inside call (rest state.data)) with
        data := write state.data
      } where
  holder := by
    intro other inner code moved
    by_cases same : other = thread
    · subst same
      exact located.holder other call _ inside
    · exact located.holder other inner code (by simpa [goto, same] using moved)
  free := by
    intro unlocked
    have held := located.holder thread call _ inside
    exact absurd (held.symm.trans unlocked) (Option.some_ne_none thread)
  locked := by
    intro other holds
    have held := located.holder thread call _ inside
    obtain rfl := Option.some.inj (held.symm.trans holds)
    obtain ⟨inner, code, found, permitted, runs⟩ := located.locked thread held
    obtain ⟨rfl, rfl⟩ := Phase.inside.inj (inside.symm.trans found)
    exact ⟨call, rest state.data, by simp [goto], permitted, runs.access⟩

/-- The thread that has locked the mutex unlocks it and returns. -/
theorem Located.unlock (located : Located body allowed before state) {call : Call}
    {result : Result} (inside : state.phase thread = .inside call (.done result))
    : allowed before call
      ∧ (body call).run before = some (state.data, result)
      ∧ Located body allowed state.data {
          state.goto thread .outside with
          mutex := none
          finished := state.finished ++ [(call, result)]
        } := by
  have held := located.holder thread call _ inside
  obtain ⟨inner, code, found, permitted, runs⟩ := located.locked thread held
  obtain ⟨rfl, rfl⟩ := Phase.inside.inj (inside.symm.trans found)
  refine ⟨permitted, runs.same.symm, ?_, fun _ => rfl, ?_⟩
  · intro other inner code moved
    by_cases same : other = thread
    · subst same
      simp [goto] at moved
    · have also := located.holder other inner code (by simpa [goto, same] using moved)
      exact absurd (Option.some.inj (held.symm.trans also)).symm same
  · intro other holds
    cases holds

/-- Every step keeps the finished calls a sequential run. -/
theorem Atomic.advance (atomic : Atomic body initial allowed state) {label : Thread × Move Call}
    (admitted : Admits allowed state label)
    (taken : Guarded.advance body state label = some next)
    : Atomic body initial allowed next := by
  obtain ⟨start, before, starts, run, located⟩ := atomic
  obtain ⟨thread, move⟩ := label
  cases move with
  | call call =>
      simp only [Guarded.advance] at taken
      split at taken
      · rename_i outside
        obtain rfl := Option.some.inj taken
        exact ⟨start, before, starts, run, located.wait outside⟩
      · cases taken
  | proceed =>
      simp only [Guarded.advance] at taken
      cases phase : state.phase thread with
      | outside =>
          rw [phase] at taken
          cases taken
      | waiting call =>
          rw [phase] at taken
          simp only [Guarded.proceed] at taken
          split at taken
          · cases taken
          · rename_i free
            obtain rfl := Option.some.inj taken
            exact ⟨start, before, starts, run, located.lock free (admitted call rfl phase)⟩
      | inside call code =>
          rw [phase] at taken
          cases code with
          | blocked => cases taken
          | access write rest =>
              obtain rfl := Option.some.inj taken
              exact ⟨start, before, starts, run, located.access phase⟩
          | done result =>
              obtain rfl := Option.some.inj taken
              obtain ⟨permitted, returned, after⟩ := located.unlock phase
              exact ⟨start, state.data, starts, run.snoc ⟨permitted, returned⟩, after⟩

/-- In every interleaving whose calls are allowed when they lock the mutex, the finished calls are
a sequential run of allowed calls.
-/
theorem atomic
    (reached : ((system body initial).restrict (Admits allowed)).Reachable state)
    : Atomic body initial allowed state := by
  have invariant
      : ((system body initial : System (Guarded Thread Data Call Result) _).restrict
          (Admits allowed)).Invariant (Atomic body initial allowed) := {
    initial := by
      intro state starts
      refine ⟨state.data, state.data, starts.data, starts.finished ▸ .nil _, ?_, fun _ => rfl, ?_⟩
      · intro thread call code inside
        rw [starts.phase] at inside
        cases inside
      · intro thread held
        rw [starts.mutex] at held
        cases held
    step := fun state label next before taken => before.advance taken.1 taken.2
  }
  exact invariant.reachable reached

/-- No step takes a call from those that have finished. -/
theorem finished_prefix_of_advance {label : Thread × Move Call}
    (taken : Guarded.advance body state label = some next)
    : state.finished <+: next.finished := by
  obtain ⟨thread, move⟩ := label
  cases move with
  | call call =>
      simp only [Guarded.advance] at taken
      split at taken
      · obtain rfl := Option.some.inj taken
        exact List.prefix_refl _
      · cases taken
  | proceed =>
      simp only [Guarded.advance] at taken
      cases phase : state.phase thread with
      | outside =>
          rw [phase] at taken
          cases taken
      | waiting call =>
          rw [phase] at taken
          simp only [Guarded.proceed] at taken
          split at taken
          · cases taken
          · obtain rfl := Option.some.inj taken
            exact List.prefix_refl _
      | inside call code =>
          rw [phase] at taken
          cases code with
          | blocked => cases taken
          | access write rest =>
              obtain rfl := Option.some.inj taken
              exact List.prefix_refl _
          | done result =>
              obtain rfl := Option.some.inj taken
              exact List.prefix_append _ _

/-- Calls that have finished stay so, by induction on the run. -/
theorem finished_prefix {finish : Guarded Thread Data Call Result}
    {labels : List (Thread × Move Call)} (run : (system body initial).Run state labels finish)
    : state.finished <+: finish.finished := by
  induction run with
  | nil => exact List.prefix_refl _
  | snoc _ last ih => exact ih.trans (finished_prefix_of_advance last)

/-- A thread that is inside a call that returns can finish it alone, by induction on what is left of
the call.
-/
theorem exists_finish (initial : Data → Prop) {call : Call} {code : Code Data Result}
    {result : Result} {after : Data}
    (inside : state.phase thread = .inside call code)
    (returns : code.run state.data = some (after, result))
    : ∃ labels finish,
        (∀ label ∈ labels, label = (thread, .proceed))
        ∧ (system body initial).Run state labels finish
        ∧ finish.phase thread = .outside
        ∧ finish.mutex = none
        ∧ finish.data = after := by
  induction code generalizing state with
  | blocked => cases returns
  | done result =>
      obtain ⟨rfl, rfl⟩ := Prod.mk.inj (Option.some.inj returns)
      let finish : Guarded Thread Data Call Result := {
        state.goto thread .outside with
        mutex := none
        finished := state.finished ++ [(call, result)]
      }
      have taken : Guarded.advance body state (thread, .proceed) = some finish := by
        rw [Guarded.advance, inside]
        rfl
      exact ⟨[(thread, .proceed)], finish, by simp, .single taken, by simp [finish, goto], rfl, rfl⟩
  | access write next ih =>
      let middle : Guarded Thread Data Call Result := {
        state.goto thread (.inside call (next state.data)) with
        data := write state.data
      }
      have taken : Guarded.advance body state (thread, .proceed) = some middle := by
        rw [Guarded.advance, inside]
        rfl
      have further : middle.phase thread = .inside call (next state.data) := by
        simp [middle, goto]
      obtain ⟨labels, finish, mine, run, rest⟩ := ih state.data further returns
      refine
        ⟨[(thread, .proceed)] ++ labels, finish, ?_, (System.Run.single taken).append run, rest⟩
      intro label member
      rcases List.mem_append.mp member with first | later
      · exact List.mem_singleton.mp first
      · exact mine label later

/-- If every call returns, the thread that has locked the mutex can unlock it alone. -/
theorem exists_unlock (atomic : Atomic body initial allowed state) {holds : Data → Prop}
    (invariant
      : ((sequential body initial).restrict (fun data label => allowed data label.1)).Invariant
          holds)
    (returns
      : ∀ data call, holds data → allowed data call → ((body call).run data).isSome)
    (locked : state.mutex = some thread)
    : ∃ labels finish,
        (∀ label ∈ labels, label = (thread, .proceed))
        ∧ (system body initial).Run state labels finish
        ∧ finish.phase thread = .outside
        ∧ finish.mutex = none := by
  obtain ⟨start, before, starts, run, located⟩ := atomic
  have kept := run.preserves invariant.step (invariant.initial start starts)
  obtain ⟨call, code, inside, permitted, runs⟩ := located.locked thread locked
  obtain ⟨⟨after, result⟩, returned⟩ :=
    Option.isSome_iff_exists.mp (returns before call kept permitted)
  obtain ⟨labels, finish, mine, path, outside, free, -⟩ :=
    exists_finish initial inside (runs.same.trans returned)
  exact ⟨labels, finish, mine, path, outside, free⟩

end Atomicity

end Guarded

end Aspl
