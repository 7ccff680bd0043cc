import Aspl.Base.Composition
import Aspl.DoubleBuffer.Register

/-! A typical writer of a double buffer, which gets a copy of the value, modifies the copy and sets
it, while its callers are serialized by a mutex and readers take no mutex. No modification is lost.
-/

namespace Aspl.DoubleBuffer.Updates

universe u v w

variable {Thread : Type u} {Value : Type v} {Change : Type w}

/-- What a thread does: it updates the value with the mutex locked, or looks at it. A look knows
how many calls of `Set()` had returned when it began.
-/
inductive Task (Value : Type v) (Change : Type w) where
  | outside
  | waiting (change : Change)
  | locked (change : Change)
  | getting (change : Change)
  | copying (change : Change) (found : Option Value)
  | modified (change : Change) (value : Value)
  | setting
  | unlocking
  | reading (since : Nat)
  | looking (since : Nat) (found : Option Value)

/-- Whether a thread has locked the mutex. -/
def Task.inside : Task Value Change → Bool
  | .outside | .waiting _ | .reading _ | .looking .. => false
  | _ => true

/-- The threads, the mutex, the changes whose `Set()` has been called, in this order, and how many
of these calls have returned.
-/
structure Program (Thread : Type u) (Value : Type v) (Change : Type w) where
  task : Thread → Task Value Change
  mutex : Option Thread
  changes : List Change
  returned : Nat

/-- No thread has done anything. -/
structure Program.New (program : Program Thread Value Change) : Prop where
  task : ∀ thread, program.task thread = .outside
  mutex : program.mutex = none
  changes : program.changes = []
  returned : program.returned = 0

/-- What a thread does next. -/
inductive Act (Value : Type v) (Change : Type w) where
  | update (change : Change)
  | lock
  | callGet
  | obtain (found : Option Value)
  | release (found : Option Value)
  | callSet
  | returnFromSet
  | unlock

section Steps

variable [DecidableEq Thread]

def Program.goto (program : Program Thread Value Change) (thread : Thread)
    (task : Task Value Change)
    : Program Thread Value Change :=
  { program with task := Function.update program.task thread task }

/-- The next step of a thread, where `modify` makes a change to a copy of the value. A copy cannot
be made of no value. A writer may also drop the copy and unlock the mutex.
-/
def advance (modify : Value → Change → Value) (program : Program Thread Value Change)
    : Thread × Act Value Change → Option (Program Thread Value Change)
  | (thread, act) =>
      match program.task thread, act with
      | .outside, .update change => some (program.goto thread (.waiting change))
      | .waiting change, .lock =>
          match program.mutex with
          | some _ => none
          | none => some { program.goto thread (.locked change) with mutex := some thread }
      | .locked change, .callGet => some (program.goto thread (.getting change))
      | .getting change, .obtain found => some (program.goto thread (.copying change found))
      | .copying change (some value), .release _ =>
          some (program.goto thread (.modified change (modify value change)))
      | .modified change _, .callSet =>
          some { program.goto thread .setting with changes := program.changes ++ [change] }
      | .modified _ _, .unlock => some { program.goto thread .outside with mutex := none }
      | .setting, .returnFromSet =>
          some { program.goto thread .unlocking with returned := program.changes.length }
      | .unlocking, .unlock => some { program.goto thread .outside with mutex := none }
      | .outside, .callGet => some (program.goto thread (.reading program.returned))
      | .reading since, .obtain found => some (program.goto thread (.looking since found))
      | .looking _ _, .release _ => some (program.goto thread .outside)
      | _, _ => none

/-- What a step shows to the double buffer. -/
def seen (program : Program Thread Value Change) (label : Thread × Act Value Change)
    (_ : Program Thread Value Change)
    : Option (Event Thread Value) :=
  match program.task label.1, label.2 with
  | _, .callGet => some (.readCalled label.1)
  | _, .obtain found => some (.lockObtained label.1 found)
  | _, .release found => some (.lockReleased label.1 found)
  | .modified _ value, .callSet => some (.setCalled label.1 value)
  | _, .returnFromSet => some (.setReturned label.1)
  | _, _ => none

/-- All interleavings of updates and looks. -/
def system (Thread : Type u) [DecidableEq Thread] (modify : Value → Change → Value)
    : System (Program Thread Value Change) (Thread × Act Value Change) :=
  .ofFunction Program.New (advance modify)

/-- What a step of a thread does, and what it shows. -/
inductive Stepped (modify : Value → Change → Value) (program : Program Thread Value Change)
    (thread : Thread) (next : Program Thread Value Change)
    : Option (Event Thread Value) → Prop
  | update {change} (outside : program.task thread = .outside)
    (moved : next = program.goto thread (.waiting change))
    : Stepped modify program thread next none
  | lock {change} (waiting : program.task thread = .waiting change)
    (free : program.mutex = none)
    (moved : next = { program.goto thread (.locked change) with mutex := some thread })
    : Stepped modify program thread next none
  | get {change} (locked : program.task thread = .locked change)
    (moved : next = program.goto thread (.getting change))
    : Stepped modify program thread next (some (.readCalled thread))
  | obtain {change found} (getting : program.task thread = .getting change)
    (moved : next = program.goto thread (.copying change found))
    : Stepped modify program thread next (some (.lockObtained thread found))
  | copy {change value found} (copying : program.task thread = .copying change (some value))
    (moved : next = program.goto thread (.modified change (modify value change)))
    : Stepped modify program thread next (some (.lockReleased thread found))
  | set {change value} (modified : program.task thread = .modified change value)
    (moved
      : next = { program.goto thread .setting with changes := program.changes ++ [change] })
    : Stepped modify program thread next (some (.setCalled thread value))
  | returned (setting : program.task thread = .setting)
    (moved
      : next = { program.goto thread .unlocking with returned := program.changes.length })
    : Stepped modify program thread next (some (.setReturned thread))
  | unlock {task} (last : task = .unlocking ∨ ∃ change value, task = .modified change value)
    (point : program.task thread = task)
    (moved : next = { program.goto thread .outside with mutex := none })
    : Stepped modify program thread next none
  | look (outside : program.task thread = .outside)
    (moved : next = program.goto thread (.reading program.returned))
    : Stepped modify program thread next (some (.readCalled thread))
  | find {since found} (reading : program.task thread = .reading since)
    (moved : next = program.goto thread (.looking since found))
    : Stepped modify program thread next (some (.lockObtained thread found))
  | leave {since seen found} (looking : program.task thread = .looking since seen)
    (moved : next = program.goto thread .outside)
    : Stepped modify program thread next (some (.lockReleased thread found))

/-- There is no other step. -/
theorem stepped {modify : Value → Change → Value} {program next : Program Thread Value Change}
    {thread : Thread} {act : Act Value Change}
    (taken : advance modify program (thread, act) = some next)
    : Stepped modify program thread next (seen program (thread, act) next) := by
  cases point : program.task thread with
  | waiting change =>
      cases act <;> simp only [advance, point, reduceCtorEq] at taken
      cases held : program.mutex with
      | some holder => simp only [held, reduceCtorEq] at taken
      | none =>
          simp only [held, Option.some.injEq] at taken
          simp only [seen]
          exact .lock point held taken.symm
  | copying change found =>
      cases found <;> cases act <;>
        simp only [advance, point, reduceCtorEq, Option.some.injEq] at taken
      simp only [seen]
      exact .copy point taken.symm
  | _ =>
      cases act <;> simp only [advance, point, reduceCtorEq, Option.some.injEq] at taken
      all_goals simp only [seen, point]
      all_goals
        first
        | exact .update point taken.symm
        | exact .get point taken.symm
        | exact .obtain point taken.symm
        | exact .set point taken.symm
        | exact .returned point taken.symm
        | exact .unlock (.inl rfl) point taken.symm
        | exact .unlock (.inr ⟨_, _, rfl⟩) point taken.symm
        | exact .look point taken.symm
        | exact .find point taken.symm
        | exact .leave point taken.symm

end Steps

/-- The value after some changes. -/
def valueAfter (modify : Value → Change → Value) (first : Value) (changes : List Change) : Value :=
  changes.foldl modify first

-----------------------------------------------------------------------------------------
-- The register that the threads share
-----------------------------------------------------------------------------------------

section Sharing

variable (modify : Value → Change → Value) (first : Value)

/-- The value that all changes make. -/
def Program.latest (program : Program Thread Value Change) : Value :=
  valueAfter modify first program.changes

/-- A value that some of the changes make, of which there are at least a given number. -/
def Made (program : Program Thread Value Change) (since : Nat) (value : Value) : Prop :=
  ∃ count,
    since ≤ count
    ∧ count ≤ program.changes.length
    ∧ value = valueAfter modify first (program.changes.take count)

/-- Where a thread is in the register, and what it has found there. A thread that updates the value
finds the latest one; one that only looks finds a value of its time.
-/
def Fits (program : Program Thread Value Change) (register : Register.State Thread Value)
    (thread : Thread)
    : Task Value Change → Prop
  | .outside | .waiting _ | .locked _ | .unlocking => register.pc thread = .idle
  | .getting _ =>
      ∃ found,
        register.pc thread = .reading found
        ∧ ∀ value ∈ found, value = program.latest modify first
  | .copying _ found =>
      register.pc thread = .holding (program.latest modify first)
      ∧ found = some (program.latest modify first)
  | .modified change value =>
      register.pc thread = .idle ∧ value = modify (program.latest modify first) change
  | .setting =>
      register.pc thread = .setting (program.latest modify first)
      ∨ register.pc thread = .returning ∧ register.value = program.latest modify first
  | .reading since =>
      since ≤ program.returned
      ∧ ∃ found,
          register.pc thread = .reading found
          ∧ ∀ value ∈ found, Made modify first program since value
  | .looking since found =>
      ∃ value,
        register.pc thread = .holding value
        ∧ found = some value
        ∧ Made modify first program since value

/-- The register has the value that all changes make, or a thread is about to replace it. -/
structure Sound (program : Program Thread Value Change) (register : Register.State Thread Value)
    : Prop where
  fits : ∀ thread, Fits modify first program register thread (program.task thread)
  held : ∀ thread, (program.task thread).inside = true → program.mutex = some thread
  current : Made modify first program program.returned register.value
  settled
    : (∀ thread, program.task thread ≠ .setting) → program.returned = program.changes.length

variable {modify first} {program next : Program Thread Value Change}
  {register after : Register.State Thread Value} {thread : Thread}

/-- More changes follow. -/
theorem Made.grow {since : Nat} {value : Value} (made : Made modify first program since value)
    (grows : program.changes <+: next.changes)
    : Made modify first next since value := by
  obtain ⟨count, enough, bound, same⟩ := made
  refine ⟨count, enough, bound.trans grows.length_le, ?_⟩
  obtain ⟨more, longer⟩ := grows
  rw [same, ← longer, List.take_append_of_le_length bound]

/-- All changes have been made. -/
theorem made_latest {since : Nat} (enough : since ≤ program.changes.length)
    : Made modify first program since (program.latest modify first) :=
  ⟨program.changes.length, enough, le_rfl, by rw [List.take_length]; rfl⟩

/-- Where no call of `Set()` is under way the register has the latest value. -/
theorem Sound.value_latest (sound : Sound modify first program register)
    (quiet : ∀ thread, program.task thread ≠ .setting)
    : register.value = program.latest modify first := by
  obtain ⟨count, enough, bound, same⟩ := sound.current
  rw [sound.settled quiet] at enough
  rw [same, le_antisymm bound enough, List.take_length]
  rfl

/-- No other thread is inside. -/
theorem Sound.only (sound : Sound modify first program register)
    (inside : (program.task thread).inside = true) {other : Thread} (different : other ≠ thread)
    : (program.task other).inside = false := by
  by_contra also
  have mine := sound.held thread inside
  have theirs := sound.held other (Bool.eq_true_of_not_eq_false also)
  exact different (Option.some.inj (theirs.symm.trans mine))

/-- A thread inside that is not setting the value is alone with the latest one. -/
theorem Sound.value_inside (sound : Sound modify first program register)
    (inside : (program.task thread).inside = true) (quiet : program.task thread ≠ .setting)
    : register.value = program.latest modify first := by
  refine sound.value_latest (fun other setting => ?_)
  by_cases same : other = thread
  · exact quiet (same ▸ setting)
  · have outside := sound.only inside same
    rw [setting] at outside
    cases outside

/-- What a step of one thread leaves as it is: the other threads, and unless the thread has locked
the mutex, the changes and the value.
-/
structure Keeps (thread : Thread) (program next : Program Thread Value Change)
    (register after : Register.State Thread Value)
    : Prop where
  task : ∀ other, other ≠ thread → next.task other = program.task other
  pc : ∀ other, other ≠ thread → after.pc other = register.pc other
  returned : program.returned ≤ next.returned
  changes
    : next.changes = program.changes ∧ after.value = register.value
      ∨ program.changes <+: next.changes ∧ (program.task thread).inside = true

/-- The other threads are still where they were. -/
theorem Sound.fits_other (sound : Sound modify first program register)
    (keeps : Keeps thread program next register after) {other : Thread}
    (different : other ≠ thread)
    : Fits modify first next after other (next.task other) := by
  have before := sound.fits other
  rw [keeps.task other different]
  rcases keeps.changes with ⟨same, value⟩ | ⟨grows, inside⟩
  · have latest : next.latest modify first = program.latest modify first := by
      rw [Program.latest, same, Program.latest]
    have made {since : Nat} {value : Value} (found : Made modify first program since value) :
        Made modify first next since value :=
      found.grow (same ▸ List.prefix_rfl)
    cases point : program.task other <;> rw [point] at before <;>
      simp only [Fits, keeps.pc other different, value, latest] at before ⊢
    case reading since =>
      obtain ⟨known, found, reading, values⟩ := before
      exact ⟨known.trans keeps.returned, found, reading, fun value has => made (values value has)⟩
    case looking since found =>
      obtain ⟨value, holding, same, found⟩ := before
      exact ⟨value, holding, same, made found⟩
    all_goals exact before
  · have outside := sound.only inside different
    cases point : program.task other <;> rw [point] at before outside <;>
      simp only [Task.inside, reduceCtorEq] at outside <;>
      simp only [Fits, keeps.pc other different] at before ⊢
    case reading since =>
      obtain ⟨known, found, reading, values⟩ := before
      exact
        ⟨known.trans keeps.returned, found, reading,
          fun value has => (values value has).grow grows⟩
    case looking since found =>
      obtain ⟨value, holding, same, found⟩ := before
      exact ⟨value, holding, same, found.grow grows⟩
    all_goals exact before

/-- A step of one thread keeps the register sound. -/
theorem Sound.step (sound : Sound modify first program register)
    (keeps : Keeps thread program next register after)
    (mine : Fits modify first next after thread (next.task thread))
    (held : (next.task thread).inside = true → next.mutex = some thread)
    (others
      : ∀ other, other ≠ thread → program.mutex = some other → next.mutex = some other)
    (current : Made modify first next next.returned after.value)
    (settled
      : (∀ other, next.task other ≠ .setting) → next.returned = next.changes.length)
    : Sound modify first next after where
  fits := by
    intro other
    by_cases same : other = thread
    · exact same ▸ mine
    · exact sound.fits_other keeps same
  held := by
    intro other inside
    by_cases same : other = thread
    · subst same
      exact held inside
    · rw [keeps.task other same] at inside
      exact others other same (sound.held other inside)
  current := current
  settled := settled

/-- A step that makes no change and replaces no value. -/
theorem Sound.plain (sound : Sound modify first program register) {before : Task Value Change}
    (task : Task Value Change) (point : program.task thread = before)
    (elsewhere : ∀ other, other ≠ thread → next.task other = program.task other)
    (arrived : next.task thread = task)
    (pc : ∀ other, other ≠ thread → after.pc other = register.pc other)
    (changes : next.changes = program.changes) (returned : next.returned = program.returned)
    (value : after.value = register.value) (quiet : before ≠ .setting)
    (held : task.inside = true → next.mutex = some thread)
    (others
      : ∀ other, other ≠ thread → program.mutex = some other → next.mutex = some other)
    (mine : Fits modify first next after thread task)
    : Sound modify first next after := by
  have keeps : Keeps thread program next register after :=
    ⟨elsewhere, pc, returned.ge, .inl ⟨changes, value⟩⟩
  refine sound.step keeps (arrived ▸ mine) (arrived ▸ held) others ?_ (fun still => ?_)
  · rw [returned, value]
    exact sound.current.grow (changes ▸ List.prefix_rfl)
  · rw [returned, changes]
    refine sound.settled (fun other setting => ?_)
    by_cases same : other = thread
    · subst same
      exact quiet (point.symm.trans setting)
    · exact still other ((elsewhere other same).trans setting)

-----------------------------------------------------------------------------------------
-- Steps
-----------------------------------------------------------------------------------------

variable [DecidableEq Thread]

@[simp] theorem goto_task (program : Program Thread Value Change) (thread : Thread)
    (task : Task Value Change)
    : (program.goto thread task).task thread = task :=
  Function.update_self ..

theorem goto_task_other (program : Program Thread Value Change) (task : Task Value Change)
    (other : Thread) (different : other ≠ thread)
    : (program.goto thread task).task other = program.task other :=
  Function.update_of_ne different ..

/-- A step that the register does not see. -/
theorem Sound.stepped_program (sound : Sound modify first program register)
    (taken : Stepped modify program thread next none)
    : Sound modify first next register := by
  have fits := sound.fits thread
  cases taken with
  | @update change outside moved =>
      rw [outside] at fits
      subst moved
      refine sound.plain (.waiting change) outside (goto_task_other program _) (goto_task ..)
        (fun _ _ => rfl) rfl rfl rfl (fun same => by cases same) (fun inside => by cases inside)
        (fun _ _ held => held) fits
  | @lock change waiting free moved =>
      rw [waiting] at fits
      subst moved
      refine sound.plain (.locked change) waiting (goto_task_other program _) (goto_task ..)
        (fun _ _ => rfl) rfl rfl rfl (fun same => by cases same) (fun _ => rfl) ?_ fits
      intro other _ held
      rw [free] at held
      cases held
  | @unlock before last point moved =>
      obtain ⟨idle, inside, quiet⟩ :
          register.pc thread = .idle ∧ before.inside = true ∧ before ≠ .setting := by
        rw [point] at fits
        rcases last with rfl | ⟨change, value, rfl⟩
        · exact ⟨fits, rfl, fun same => by cases same⟩
        · exact ⟨fits.1, rfl, fun same => by cases same⟩
      subst moved
      refine sound.plain .outside point (goto_task_other program _) (goto_task ..)
        (fun _ _ => rfl) rfl rfl rfl quiet (fun outside => by cases outside) ?_ idle
      intro other different held
      have mine := sound.held thread (point ▸ inside)
      exact absurd (Option.some.inj (held.symm.trans mine)) different

/-- A thread looks at the register, or replaces its value. -/
theorem Sound.stepped_register (sound : Sound modify first program register)
    (taken : Register.Stepped register thread after none)
    : Sound modify first program after := by
  have fits := sound.fits thread
  cases taken with
  | @look seen reading moved =>
      subst moved
      have arrived := Register.goto_pc register thread (.reading (some register.value))
      cases point : program.task thread <;> rw [point] at fits <;>
        simp only [Fits, reading, reduceCtorEq, false_and, or_self, exists_false] at fits
      case getting change =>
        have inside : (program.task thread).inside = true := by rw [point]; rfl
        have latest := sound.value_inside inside (by rw [point]; exact fun same => by cases same)
        refine sound.plain (.getting change) point (fun _ _ => rfl) point
          (Register.goto_pc_other register _) rfl rfl rfl (fun same => by cases same)
          (fun _ => sound.held thread inside) (fun _ _ held => held) ?_
        exact ⟨_, arrived, fun found has => (Option.some.inj has).symm.trans latest⟩
      case reading since =>
        refine sound.plain (.reading since) point (fun _ _ => rfl) point
          (Register.goto_pc_other register _) rfl rfl rfl (fun same => by cases same)
          (fun inside => by cases inside) (fun _ _ held => held) ?_
        obtain ⟨count, enough, bound, made⟩ := sound.current
        refine ⟨fits.1, _, arrived, fun found has => ?_⟩
        obtain rfl := Option.some.inj has
        exact ⟨count, fits.1.trans enough, bound, made⟩
  | @replace value setting moved =>
      subst moved
      cases point : program.task thread <;> rw [point] at fits <;>
        simp only [Fits, setting, reduceCtorEq, false_and, and_false, exists_false, or_false,
          Register.Pc.setting.injEq] at fits
      have inside : (program.task thread).inside = true := by rw [point]; rfl
      have keeps
          : Keeps thread program program register
              { register.goto thread .returning with value := value } :=
        ⟨fun _ _ => rfl, Register.goto_pc_other register _, le_rfl,
          .inr ⟨List.prefix_rfl, inside⟩⟩
      refine sound.step keeps ?_ (fun _ => sound.held thread inside) (fun _ _ held => held) ?_
        sound.settled
      · rw [point]
        exact .inr ⟨Register.goto_pc .., fits⟩
      · obtain ⟨count, enough, bound, -⟩ := sound.current
        rw [fits]
        exact made_latest (enough.trans bound)

/-- A step that a thread takes with the register. -/
theorem Sound.stepped_both (sound : Sound modify first program register) {other : Thread}
    {event : Event Thread Value} (taken : Stepped modify program thread next (some event))
    (moved : Register.Stepped register other after (some event))
    : Sound modify first next after := by
  have fits := sound.fits thread
  cases taken with
  | @get change locked there =>
      have inside : (program.task thread).inside = true := by rw [locked]; rfl
      obtain ⟨rfl⟩ := there
      cases moved with
      | read idle here =>
          subst here
          refine sound.plain (.getting change) locked (goto_task_other program _) (goto_task ..)
            (Register.goto_pc_other register _) rfl rfl rfl (fun same => by cases same)
            (fun _ => sound.held thread inside) (fun _ _ held => held) ?_
          exact ⟨none, Register.goto_pc .., fun value has => by cases has⟩
  | @obtain change found getting there =>
      have inside : (program.task thread).inside = true := by rw [getting]; rfl
      subst there
      cases moved with
      | @acquire value reading here =>
          subst here
          rw [getting] at fits
          obtain ⟨seen, same, latest⟩ := fits
          obtain rfl := Register.Pc.reading.inj (reading.symm.trans same)
          obtain rfl := latest value rfl
          refine sound.plain (.copying change _) getting (goto_task_other program _) (goto_task ..)
            (Register.goto_pc_other register _) rfl rfl rfl (fun same => by cases same)
            (fun _ => sound.held thread inside) (fun _ _ held => held) ?_
          exact ⟨Register.goto_pc .., rfl⟩
  | @copy change value found copying there =>
      have inside : (program.task thread).inside = true := by rw [copying]; rfl
      subst there
      cases moved with
      | release holding here =>
          subst here
          rw [copying] at fits
          obtain rfl := Option.some.inj fits.2
          refine sound.plain (.modified change _) copying (goto_task_other program _)
            (goto_task ..) (Register.goto_pc_other register _) rfl rfl rfl
            (fun same => by cases same) (fun _ => sound.held thread inside)
            (fun _ _ held => held) ?_
          exact ⟨Register.goto_pc .., rfl⟩
  | @set change value modified there =>
      have inside : (program.task thread).inside = true := by rw [modified]; rfl
      have grows : program.changes <+: program.changes ++ [change] := List.prefix_append ..
      subst there
      cases moved with
      | set idle here =>
          subst here
          rw [modified] at fits
          have keeps
              : Keeps thread program
                  { program.goto thread .setting with changes := program.changes ++ [change] }
                  register (register.goto thread (.setting value)) :=
            ⟨goto_task_other program _, Register.goto_pc_other register _, le_rfl,
              .inr ⟨grows, inside⟩⟩
          have arrived := goto_task program thread .setting
          refine sound.step keeps ?_ (fun _ => sound.held thread inside) (fun _ _ held => held)
            (sound.current.grow grows) (fun still => absurd arrived (still thread))
          dsimp only
          rw [arrived]
          refine .inl ?_
          rw [Program.latest, valueAfter, List.foldl_concat, Register.goto_pc, fits.2]
          rfl
  | returned setting there =>
      have inside : (program.task thread).inside = true := by rw [setting]; rfl
      subst there
      cases moved with
      | leave returning here =>
          subst here
          rw [setting] at fits
          have latest : register.value = program.latest modify first := by
            rcases fits with replacing | ⟨-, same⟩
            · rw [returning] at replacing
              cases replacing
            · exact same
          obtain ⟨count, enough, bound, -⟩ := sound.current
          have keeps
              : Keeps thread program
                  { program.goto thread .unlocking with returned := program.changes.length }
                  register (register.goto thread .idle) :=
            ⟨goto_task_other program _, Register.goto_pc_other register _, enough.trans bound,
              .inl ⟨rfl, rfl⟩⟩
          refine sound.step keeps ?_ (fun _ => sound.held thread inside) (fun _ _ held => held) ?_
            (fun _ => rfl)
          · dsimp only
            rw [goto_task program thread .unlocking]
            exact Register.goto_pc ..
          · change Made modify first _ _ register.value
            rw [latest]
            exact (made_latest le_rfl).grow List.prefix_rfl
  | look outside there =>
      subst there
      cases moved with
      | read idle here =>
          subst here
          refine sound.plain (.reading program.returned) outside (goto_task_other program _)
            (goto_task ..) (Register.goto_pc_other register _) rfl rfl rfl
            (fun same => by cases same) (fun inside => by cases inside) (fun _ _ held => held) ?_
          exact ⟨le_rfl, none, Register.goto_pc .., fun value has => by cases has⟩
  | @find since found reading there =>
      subst there
      cases moved with
      | @acquire value looking here =>
          subst here
          rw [reading] at fits
          obtain ⟨-, seen, same, made⟩ := fits
          obtain rfl := Register.Pc.reading.inj (looking.symm.trans same)
          refine sound.plain (.looking since _) reading (goto_task_other program _) (goto_task ..)
            (Register.goto_pc_other register _) rfl rfl rfl (fun same => by cases same)
            (fun inside => by cases inside) (fun _ _ held => held) ?_
          exact ⟨value, Register.goto_pc .., rfl, made value rfl⟩
  | leave looking there =>
      subst there
      cases moved with
      | release holding here =>
          subst here
          refine sound.plain .outside looking (goto_task_other program _) (goto_task ..)
            (Register.goto_pc_other register _) rfl rfl rfl (fun same => by cases same)
            (fun inside => by cases inside) (fun _ _ held => held) ?_
          exact Register.goto_pc ..

/-- Every step keeps the register sound. -/
theorem Sound.advance
    {states after : Program Thread Value Change × Register.State Thread Value}
    {label : System.Joint (Thread × Act Value Change) (Thread × Register.Move Value)}
    (sound : Sound modify first states.1 states.2)
    (taken
      : ((system Thread modify).parallel seen (Register.system Thread Value)
          Register.event).step states label after)
    : Sound modify first after.1 after.2 := by
  cases label with
  | left label =>
      obtain ⟨moved, silent, same⟩ := taken
      have step := stepped moved
      rw [silent] at step
      exact same ▸ sound.stepped_program step
  | right label =>
      obtain ⟨moved, silent, same⟩ := taken
      have step := Register.stepped moved
      rw [silent] at step
      exact same ▸ sound.stepped_register step
  | both label tag =>
      obtain ⟨moved, followed, event, sees, shows⟩ := taken
      have step := stepped moved
      have answer := Register.stepped followed
      rw [sees] at step
      rw [shows] at answer
      exact sound.stepped_both step answer

/-- A run keeps the register sound. -/
theorem sound_of_run
    {start finish : Program Thread Value Change × Register.State Thread Value}
    {labels : List (System.Joint (Thread × Act Value Change) (Thread × Register.Move Value))}
    (sound : Sound modify first start.1 start.2)
    (run
      : ((system Thread modify).parallel seen (Register.system Thread Value) Register.event).Run
          start labels finish)
    : Sound modify first finish.1 finish.2 :=
  run.preserves (fun _ _ _ before taken => Sound.advance before taken) sound

omit [DecidableEq Thread] in
/-- A register with the first value, and no changes. -/
theorem sound_new (new : program.New) (idle : ∀ thread, register.pc thread = .idle)
    (value : register.value = first)
    : Sound modify first program register where
  fits := by
    intro thread
    rw [new.task thread]
    exact idle thread
  held := by
    intro thread inside
    rw [new.task thread] at inside
    cases inside
  current := by
    refine ⟨0, new.returned.le, Nat.zero_le _, ?_⟩
    rw [value, List.take_zero]
    rfl
  settled := by
    intro _
    rw [new.returned, new.changes]
    rfl

end Sharing

-----------------------------------------------------------------------------------------
-- The double buffer that the threads share
-----------------------------------------------------------------------------------------

section Buffer

variable [DecidableEq Thread]

/-- Threads that update and look at the value of a double buffer. Fewer than `2 ^ 63 - 1` calls of
`Set()` begin between a load of its index and the re-check.
-/
def shared (Thread : Type u) [DecidableEq Thread] (modify : Value → Change → Value)
    (isTrivial : Bool)
    : System (Program Thread Value Change × State Thread Value)
        (System.Joint (Thread × Act Value Change) (Thread × Move Value)) :=
  (system Thread modify).parallel seen
    ((DoubleBuffer.system Thread Value isTrivial).restrict (FewSets (indexCount - 1))) event

/-- No update is lost. While the mutex is free the double buffer has the value that all changes
make, one after the other, of the constructor's value. A thread that has locked the mutex gets a
copy of that value. A thread that has not finds the value of a moment: some of the changes have
been made, at least those whose `Set()` had returned before the thread began to look.
-/
theorem updates_kept {modify : Value → Change → Value} {isTrivial : Bool} {first : Value}
    {start finish : Program Thread Value Change × State Thread Value}
    {labels : List (System.Joint (Thread × Act Value Change) (Thread × Move Value))}
    (new : start.1.New) (constructed : Constructed start.2) (stored : start.2.stored = [first])
    (run : (shared Thread modify isTrivial).Run start labels finish)
    : (finish.1.mutex = none
        → finish.2.stored[finish.2.switched]?
          = some (valueAfter modify first finish.1.changes))
      ∧ (∀ thread change found,
          finish.1.task thread = .copying change found
          → found = some (valueAfter modify first finish.1.changes))
      ∧ ∀ thread since found,
          finish.1.task thread = .looking since found
          → ∃ count,
              since ≤ count
              ∧ count ≤ finish.1.changes.length
              ∧ found = some (valueAfter modify first (finish.1.changes.take count)) := by
  obtain ⟨register, idle, image⟩ := constructed.image
  have value : register.value = first := by
    have held := image.value
    rw [stored, constructed.switched] at held
    exact (Option.some.inj held).symm
  obtain ⟨path, after, followed, related⟩ :=
    (DoubleBuffer.simulation Thread Value isTrivial).run_parallel run image
  have sound : Sound modify first finish.1 after := sound_of_run (sound_new new idle value) followed
  refine ⟨fun free => ?_, fun thread change found copying => ?_,
    fun thread since found looking => ?_⟩
  · have quiet (thread : Thread) (setting : finish.1.task thread = .setting) : False := by
      have locked := sound.held thread (by rw [setting]; rfl)
      rw [free] at locked
      cases locked
    rw [related.value, sound.value_latest quiet]
    rfl
  · have fits := sound.fits thread
    rw [copying] at fits
    exact fits.2
  · have fits := sound.fits thread
    rw [looking] at fits
    obtain ⟨value, -, rfl, count, enough, bound, rfl⟩ := fits
    exact ⟨count, enough, bound, rfl⟩

/-- Nothing has been updated yet. -/
def noUpdates (Value : Type v) (Change : Type w) : Program Bool Value Change where
  task _ := .outside
  mutex := none
  changes := []
  returned := 0

/-- A thread adds 3 to a 5. -/
theorem updates_kept_added
    : ∃ labels finish,
        (shared Bool Nat.add true).Run (noUpdates Nat Nat, constructed Nat 5) labels finish
        ∧ finish.1.mutex = none
        ∧ finish.2.stored[finish.2.switched]? = some 8 := by
  have start
      : (shared Bool Nat.add true).Run (noUpdates Nat Nat, constructed Nat 5) []
          (noUpdates Nat Nat, constructed Nat 5) :=
    .nil _
  have asked := start.left (false, .update 3) rfl rfl
  have locked := asked.left (false, .lock) rfl rfl
  have called := locked.both (false, .callGet) (false, .read) rfl
    ⟨fun _ same => (by cases same), rfl⟩ rfl rfl
  have loaded := called.right (false, .proceed) ⟨fun _ same => (by cases same), rfl⟩ rfl
  have tried := loaded.right (false, .proceed) ⟨fun _ same => (by cases same), rfl⟩ rfl
  have found := tried.both (false, .obtain (some 5)) (false, .proceed) rfl
    ⟨fun _ same => (by cases same; decide), rfl⟩ rfl rfl
  have copied := found.both (false, .release (some 5)) (false, .proceed) rfl
    ⟨fun _ same => (by cases same), rfl⟩ rfl rfl
  have stored := copied.both (false, .callSet) (false, .set 8) rfl
    ⟨fun _ same => (by cases same), rfl⟩ rfl rfl
  have lockedWrite := stored.right (false, .proceed) ⟨fun _ same => (by cases same), rfl⟩ rfl
  have loadedIndex := lockedWrite.right (false, .proceed) ⟨fun _ same => (by cases same), rfl⟩ rfl
  have storedIndex := loadedIndex.right (false, .proceed) ⟨fun _ same => (by cases same), rfl⟩ rfl
  have lockedNew := storedIndex.right (false, .proceed) ⟨fun _ same => (by cases same), rfl⟩ rfl
  have storedValue := lockedNew.right (false, .proceed) ⟨fun _ same => (by cases same), rfl⟩ rfl
  have unlockedNew := storedValue.right (false, .proceed) ⟨fun _ same => (by cases same), rfl⟩ rfl
  have switched := unlockedNew.right (false, .proceed) ⟨fun _ same => (by cases same), rfl⟩ rfl
  have returned := switched.both (false, .returnFromSet) (false, .proceed) rfl
    ⟨fun _ same => (by cases same), rfl⟩ rfl rfl
  have unlocked := returned.left (false, .unlock) rfl rfl
  have kept :=
    updates_kept ⟨fun _ => rfl, rfl, rfl, rfl⟩ (constructed_constructed Nat 5) rfl unlocked
  exact ⟨_, _, unlocked, rfl, kept.1 rfl⟩

end Buffer

end Aspl.DoubleBuffer.Updates
