import Aspl.Base.System
import Mathlib.Data.Set.Basic
import Mathlib.Logic.Function.Basic

/-! Threads that run programs of recursive locks, one lock operation or computation a step.
A discipline says which locks a thread holds at each point of its program; reachable machines
agree with it. A deadlock is a set of threads that wait for each other.
-/

namespace Aspl

universe u v w x y

/-- A recursive lock is free, or locked by one thread and locked again by it some times. -/
inductive RecursiveLock (Thread : Type u) where
  | free
  | held (thread : Thread) (again : Nat)
deriving DecidableEq

namespace RecursiveLock

variable {Thread : Type u} [DecidableEq Thread]

/-- How many times a thread has locked the lock. -/
def depth : RecursiveLock Thread → Thread → Nat
  | .free, _ => 0
  | .held holder again, thread => if holder = thread then again + 1 else 0

/-- Lock once more, unless another thread holds the lock. -/
def lock : RecursiveLock Thread → Thread → Option (RecursiveLock Thread)
  | .free, thread => some (.held thread 0)
  | .held holder again, thread =>
      if holder = thread then some (.held holder (again + 1)) else none

/-- Undo one locking of the holder. -/
def unlock : RecursiveLock Thread → RecursiveLock Thread
  | .held holder (again + 1) => .held holder again
  | _ => .free

/-- Two holders of a lock are one thread. -/
theorem depth_exclusive {lock : RecursiveLock Thread} {left right : Thread}
    (leftHolds : lock.depth left ≠ 0) (rightHolds : lock.depth right ≠ 0)
    : left = right := by
  cases lock with
  | free => simp [depth] at leftHolds
  | held holder again =>
      simp only [depth, ne_eq, ite_eq_right_iff, Nat.succ_ne_zero, imp_false,
        not_not] at leftHolds rightHolds
      exact leftHolds.symm.trans rightHolds

/-- Locking adds one to the depth of its thread. -/
theorem depth_lock {lock locked : RecursiveLock Thread} {thread : Thread}
    (taken : lock.lock thread = some locked) (other : Thread)
    : locked.depth other = lock.depth other + if other = thread then 1 else 0 := by
  cases lock with
  | free =>
      obtain rfl := Option.some.inj taken
      simp only [depth, eq_comm, Nat.zero_add]
  | held holder again =>
      simp only [RecursiveLock.lock] at taken
      split at taken
      · rename_i mine
        obtain rfl := Option.some.inj taken
        subst mine
        by_cases same : other = holder
        · simp [depth, same]
        · simp [depth, same, Ne.symm same]
      · simp at taken

/-- Unlocking takes one from the depth of the holder. -/
theorem depth_unlock {lock : RecursiveLock Thread} {thread : Thread}
    (holds : lock.depth thread ≠ 0) (other : Thread)
    : lock.unlock.depth other = lock.depth other - if other = thread then 1 else 0 := by
  cases lock with
  | free => simp [depth] at holds
  | held holder again =>
      simp only [depth, ne_eq, ite_eq_right_iff, Nat.succ_ne_zero, imp_false,
        not_not] at holds
      subst holds
      by_cases same : other = holder
      · cases again <;> simp [unlock, depth, same]
      · cases again <;> simp [unlock, depth, same, Ne.symm same]

end RecursiveLock

-----------------------------------------------------------------------------------------
-- Programs and the machine that runs them
-----------------------------------------------------------------------------------------

/-- What a thread does next: accept a call, lock, unlock, or compute on the shared data. -/
inductive Instruction (Lock : Type u) (Data : Type v) (Command : Type w) (Pc : Type x) where
  | accept (enter : Command → Pc)
  | acquire (lock : Lock) (next : Pc)
  | release (lock : Lock) (next : Pc)
  | compute (run : Data → Data × Pc)

/-- The instruction at each program point, and the point where every thread starts. -/
structure Program (Lock : Type u) (Data : Type v) (Command : Type w) (Pc : Type x) where
  idle : Pc
  instruction : Pc → Instruction Lock Data Command Pc

/-- The program point of each thread, the locks and the shared data. -/
structure Machine (Thread : Type y) (Lock : Type u) (Data : Type v) (Pc : Type x) where
  pc : Thread → Pc
  locks : Lock → RecursiveLock Thread
  data : Data

/-- A thread is called from outside, or goes on with its program. -/
inductive Move (Command : Type w) where
  | call (command : Command)
  | proceed

section Machines

variable {Thread : Type y} {Lock : Type u} {Data : Type v} {Command : Type w} {Pc : Type x}
  [DecidableEq Thread] [DecidableEq Lock]

/-- The machine after one thread moves to another program point. -/
def Machine.goto (machine : Machine Thread Lock Data Pc) (thread : Thread) (pc : Pc)
    : Machine Thread Lock Data Pc :=
  { machine with pc := Function.update machine.pc thread pc }

/-- The machine with one lock changed. -/
def Machine.setLock (machine : Machine Thread Lock Data Pc) (lock : Lock)
    (value : RecursiveLock Thread)
    : Machine Thread Lock Data Pc :=
  { machine with locks := Function.update machine.locks lock value }

namespace Program

variable (program : Program Lock Data Command Pc)

/-- One move of one thread, if it can happen. -/
def advance (machine : Machine Thread Lock Data Pc)
    : Thread × Move Command → Option (Machine Thread Lock Data Pc)
  | (thread, .call command) =>
      match program.instruction (machine.pc thread) with
      | .accept enter => some (machine.goto thread (enter command))
      | _ => none
  | (thread, .proceed) =>
      match program.instruction (machine.pc thread) with
      | .accept _ => none
      | .acquire lock next =>
          ((machine.locks lock).lock thread).map (machine.goto thread next |>.setLock lock)
      | .release lock next =>
          some ((machine.goto thread next).setLock lock (machine.locks lock).unlock)
      | .compute run =>
          let result := run machine.data
          some { machine.goto thread result.2 with data := result.1 }

/-- Every thread is idle and every lock is free. -/
structure Starts (initial : Data → Prop) (machine : Machine Thread Lock Data Pc) : Prop where
  pc : ∀ thread, machine.pc thread = program.idle
  locks : ∀ lock, machine.locks lock = .free
  data : initial machine.data

/-- All interleavings of threads that run the program. -/
def system (initial : Data → Prop)
    : System (Machine Thread Lock Data Pc) (Thread × Move Command) :=
  .ofFunction (program.Starts initial) program.advance

/-- Everything a move can be, by the instruction of its thread. -/
theorem advance_cases {program : Program Lock Data Command Pc}
    {machine next : Machine Thread Lock Data Pc} {thread : Thread} {move : Move Command}
    (taken : program.advance machine (thread, move) = some next)
    : (∃ command enter,
        move = .call command
        ∧ program.instruction (machine.pc thread) = .accept enter
        ∧ next = machine.goto thread (enter command))
      ∨ (∃ lock pc locked,
          program.instruction (machine.pc thread) = .acquire lock pc
          ∧ (machine.locks lock).lock thread = some locked
          ∧ next = (machine.goto thread pc).setLock lock locked)
      ∨ (∃ lock pc,
          program.instruction (machine.pc thread) = .release lock pc
          ∧ next = (machine.goto thread pc).setLock lock (machine.locks lock).unlock)
      ∨ ∃ run,
          program.instruction (machine.pc thread) = .compute run
          ∧ next
            = { machine.goto thread (run machine.data).2 with data := (run machine.data).1 } := by
  cases move with
  | call command =>
      cases instruction : program.instruction (machine.pc thread) with
      | accept enter =>
          simp only [advance, instruction, Option.some.injEq] at taken
          exact Or.inl ⟨command, enter, rfl, rfl, taken.symm⟩
      | acquire | release | compute => simp [advance, instruction] at taken
  | proceed =>
      cases instruction : program.instruction (machine.pc thread) with
      | accept => simp [advance, instruction] at taken
      | acquire lock pc =>
          simp only [advance, instruction, Option.map_eq_some_iff] at taken
          obtain ⟨locked, available, rfl⟩ := taken
          exact Or.inr (Or.inl ⟨lock, pc, locked, rfl, available, rfl⟩)
      | release lock pc =>
          simp only [advance, instruction, Option.some.injEq] at taken
          exact Or.inr (Or.inr (Or.inl ⟨lock, pc, rfl, taken.symm⟩))
      | compute run =>
          simp only [advance, instruction, Option.some.injEq] at taken
          exact Or.inr (Or.inr (Or.inr ⟨run, rfl, taken.symm⟩))

/-- One program point leads to another on some data. -/
def Follows (data : Data) (before after : Pc) : Prop :=
  match program.instruction before with
  | .accept enter => ∃ command, after = enter command
  | .acquire _ next => after = next
  | .release _ next => after = next
  | .compute run => after = (run data).2

/-- A move changes the program point of its own thread only. -/
theorem advance_pc {program : Program Lock Data Command Pc}
    {machine next : Machine Thread Lock Data Pc} {thread : Thread} {move : Move Command}
    (taken : program.advance machine (thread, move) = some next)
    : ∃ after,
        next.pc = Function.update machine.pc thread after
        ∧ program.Follows machine.data (machine.pc thread) after := by
  rcases advance_cases taken with
    ⟨command, enter, -, instruction, rfl⟩ | ⟨lock, pc, locked, instruction, -, rfl⟩
    | ⟨lock, pc, instruction, rfl⟩ | ⟨run, instruction, rfl⟩
  · exact ⟨_, rfl, by simp only [Follows, instruction]; exact ⟨command, rfl⟩⟩
  all_goals exact ⟨_, rfl, by simp only [Follows, instruction]⟩

end Program

/-- The locks held at each program point, the one locked last first, as scoped locks nest. -/
structure Discipline (program : Program Lock Data Command Pc) where
  held : Pc → List Lock
  idle : held program.idle = []
  accept
    : ∀ {pc enter},
        program.instruction pc = .accept enter
        → ∀ command, held (enter command) = held pc
  acquire
    : ∀ {pc lock next},
        program.instruction pc = .acquire lock next
        → held next = lock :: held pc
  release
    : ∀ {pc lock next},
        program.instruction pc = .release lock next
        → held pc = lock :: held next
  compute
    : ∀ {pc run},
        program.instruction pc = .compute run
        → ∀ data, held (run data).2 = held pc

namespace Discipline

variable {program : Program Lock Data Command Pc} (discipline : Discipline program)

/-- Each lock is locked by each thread as often as the thread's program point says. -/
def Agrees (machine : Machine Thread Lock Data Pc) : Prop :=
  ∀ thread lock,
    (machine.locks lock).depth thread = (discipline.held (machine.pc thread)).count lock

variable {discipline}

/-- Moving one thread within its discipline, with the locks as they are. -/
theorem Agrees.goto {machine : Machine Thread Lock Data Pc} (agrees : discipline.Agrees machine)
    {thread : Thread} {pc : Pc} (same : discipline.held pc = discipline.held (machine.pc thread))
    (data : Data)
    : discipline.Agrees { machine.goto thread pc with data := data } := by
  intro other lock
  by_cases moved : other = thread
  · subst moved
    simp only [Machine.goto, Function.update_self, same]
    exact agrees other lock
  · simp only [Machine.goto, Function.update_of_ne moved]
    exact agrees other lock

/-- Moving one thread while one lock changes by what the discipline says. -/
theorem Agrees.setLock {machine : Machine Thread Lock Data Pc}
    (agrees : discipline.Agrees machine) {thread : Thread} {pc : Pc} {lock : Lock}
    {value : RecursiveLock Thread}
    (mine : value.depth thread = (discipline.held pc).count lock)
    (others : ∀ other ≠ thread, value.depth other = (machine.locks lock).depth other)
    (rest
      : ∀ other ≠ lock,
          (discipline.held pc).count other = (discipline.held (machine.pc thread)).count other)
    : discipline.Agrees ((machine.goto thread pc).setLock lock value) := by
  intro other which
  by_cases moved : other = thread <;> by_cases changed : which = lock
  · subst moved changed
    simpa only [Machine.goto, Machine.setLock, Function.update_self] using mine
  · subst moved
    simp only [Machine.goto, Machine.setLock, Function.update_self,
      Function.update_of_ne changed, rest which changed]
    exact agrees other which
  · subst changed
    simp only [Machine.goto, Machine.setLock, Function.update_self,
      Function.update_of_ne moved, others other moved]
    exact agrees other which
  · simp only [Machine.goto, Machine.setLock, Function.update_of_ne changed,
      Function.update_of_ne moved]
    exact agrees other which

/-- Every move keeps the locks in agreement with the program points. -/
theorem Agrees.advance {machine next : Machine Thread Lock Data Pc}
    (agrees : discipline.Agrees machine) {thread : Thread} {move : Move Command}
    (taken : program.advance machine (thread, move) = some next)
    : discipline.Agrees next := by
  rcases Program.advance_cases taken with
    ⟨command, enter, -, instruction, rfl⟩ | ⟨lock, pc, locked, instruction, available, rfl⟩
    | ⟨lock, pc, instruction, rfl⟩ | ⟨run, instruction, rfl⟩
  · exact agrees.goto (discipline.accept instruction command) machine.data
  · have depths := RecursiveLock.depth_lock available
    have pushed := discipline.acquire instruction
    refine agrees.setLock ?_ ?_ ?_
    · rw [depths, pushed, agrees thread lock, if_pos rfl, List.count_cons_self]
    · intro other different
      rw [depths, if_neg different, Nat.add_zero]
    · intro other different
      rw [pushed, List.count_cons_of_ne different.symm]
  · have popped := discipline.release instruction
    have holds : (machine.locks lock).depth thread ≠ 0 := by
      rw [agrees thread lock, popped, List.count_cons_self]
      exact Nat.succ_ne_zero _
    have depths := RecursiveLock.depth_unlock holds
    refine agrees.setLock ?_ ?_ ?_
    · rw [depths, agrees thread lock, popped, if_pos rfl, List.count_cons_self,
        Nat.add_sub_cancel]
    · intro other different
      rw [depths, if_neg different, Nat.sub_zero]
    · intro other different
      rw [popped, List.count_cons_of_ne different.symm]
  · exact agrees.goto (discipline.compute instruction machine.data) _

/-- A machine on which every lock is free agrees with every thread being idle. -/
theorem agrees_of_starts {initial : Data → Prop} {machine : Machine Thread Lock Data Pc}
    (starts : program.Starts initial machine)
    : discipline.Agrees machine := by
  intro thread lock
  rw [starts.locks, starts.pc, discipline.idle, RecursiveLock.depth, List.count_nil]

/-- A thread has locked a lock when its program point holds it. -/
theorem Agrees.depth_ne_zero_iff {machine : Machine Thread Lock Data Pc}
    (agrees : discipline.Agrees machine) {thread : Thread} {lock : Lock}
    : (machine.locks lock).depth thread ≠ 0
      ↔ lock ∈ discipline.held (machine.pc thread) := by
  rw [agrees, ← Nat.pos_iff_ne_zero, List.count_pos_iff]

/-- Two threads never hold one lock. -/
theorem Agrees.exclusive {machine : Machine Thread Lock Data Pc}
    (agrees : discipline.Agrees machine) {left right : Thread} {lock : Lock}
    (leftHolds : lock ∈ discipline.held (machine.pc left))
    (rightHolds : lock ∈ discipline.held (machine.pc right))
    : left = right :=
  RecursiveLock.depth_exclusive (agrees.depth_ne_zero_iff.mpr leftHolds)
    (agrees.depth_ne_zero_iff.mpr rightHolds)

end Discipline

-----------------------------------------------------------------------------------------
-- Deadlocks
-----------------------------------------------------------------------------------------

/-- The next instruction of the thread locks the lock. -/
def Machine.WaitsFor (program : Program Lock Data Command Pc)
    (machine : Machine Thread Lock Data Pc) (thread : Thread) (lock : Lock)
    : Prop :=
  ∃ next, program.instruction (machine.pc thread) = .acquire lock next

/-- Every thread of the set waits for a lock that another thread of the set holds. -/
structure Machine.Deadlocked (program : Program Lock Data Command Pc)
    (machine : Machine Thread Lock Data Pc) (threads : Set Thread)
    : Prop where
  nonempty : threads.Nonempty
  waits
    : ∀ thread ∈ threads,
        ∃ lock,
          machine.WaitsFor program thread lock
          ∧ ∃ holder ∈ threads, holder ≠ thread ∧ (machine.locks lock).depth holder ≠ 0

/-- A lock that a thread of a deadlock waits for is held in the deadlock, not by that thread. -/
theorem Machine.Deadlocked.held_elsewhere {program : Program Lock Data Command Pc}
    {discipline : Discipline program} {machine : Machine Thread Lock Data Pc}
    {threads : Set Thread} (deadlocked : machine.Deadlocked program threads)
    (agrees : discipline.Agrees machine) {thread : Thread} (member : thread ∈ threads)
    {lock : Lock} {next : Pc}
    (instruction : program.instruction (machine.pc thread) = .acquire lock next)
    : lock ∉ discipline.held (machine.pc thread)
      ∧ ∃ holder ∈ threads, lock ∈ discipline.held (machine.pc holder) := by
  obtain ⟨waited, ⟨after, waits⟩, holder, inside, different, holds⟩ :=
    deadlocked.waits thread member
  obtain ⟨rfl, -⟩ := Instruction.acquire.inj (instruction.symm.trans waits)
  rw [agrees.depth_ne_zero_iff] at holds
  exact ⟨fun mine => different (agrees.exclusive holds mine), holder, inside, holds⟩

end Machines

end Aspl
