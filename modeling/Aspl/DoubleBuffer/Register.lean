import Aspl.Base.Simulation
import Aspl.DoubleBuffer.Safety

/-! A double buffer is an atomic register: what threads see of it they could also see of a single
value that is read and replaced in one step.
-/

namespace Aspl.DoubleBuffer

universe u v

/-- What threads see: their calls, the value that they find when they have obtained and when they
release a read lock, and that `Set()` has returned.
-/
inductive Event (Thread : Type u) (Value : Type v) where
  | readCalled (thread : Thread)
  | lockObtained (thread : Thread) (value : Option Value)
  | lockReleased (thread : Thread) (value : Option Value)
  | setCalled (thread : Thread) (value : Value)
  | setReturned (thread : Thread)

-----------------------------------------------------------------------------------------
-- The register
-----------------------------------------------------------------------------------------

namespace Register

/-- A read has looked at the register or not, and later holds what it saw last. A call that sets
the register has replaced its value or not.
-/
inductive Pc (Value : Type v) where
  | idle
  | reading (seen : Option Value)
  | holding (value : Value)
  | setting (value : Value)
  | returning

structure State (Thread : Type u) (Value : Type v) where
  value : Value
  pc : Thread → Pc Value

/-- Only `look` and `replace` access the register. -/
inductive Move (Value : Type v) where
  | read
  | look
  | acquire
  | release
  | set (value : Value)
  | replace
  | leave

variable {Thread : Type u} {Value : Type v} [DecidableEq Thread]

def State.goto (register : State Thread Value) (thread : Thread) (pc : Pc Value)
    : State Thread Value :=
  { register with pc := Function.update register.pc thread pc }

def advance (register : State Thread Value) : Thread × Move Value → Option (State Thread Value)
  | (thread, move) =>
      match register.pc thread, move with
      | .idle, .read => some (register.goto thread (.reading none))
      | .reading _, .look => some (register.goto thread (.reading (some register.value)))
      | .reading (some value), .acquire => some (register.goto thread (.holding value))
      | .holding _, .release => some (register.goto thread .idle)
      | .idle, .set value => some (register.goto thread (.setting value))
      | .setting value, .replace =>
          some { register.goto thread .returning with value := value }
      | .returning, .leave => some (register.goto thread .idle)
      | _, _ => none

omit [DecidableEq Thread] in
def event (register : State Thread Value) (label : Thread × Move Value)
    (_ : State Thread Value)
    : Option (Event Thread Value) :=
  match register.pc label.1, label.2 with
  | _, .read => some (.readCalled label.1)
  | .reading seen, .acquire => some (.lockObtained label.1 seen)
  | .holding value, .release => some (.lockReleased label.1 (some value))
  | _, .set value => some (.setCalled label.1 value)
  | _, .leave => some (.setReturned label.1)
  | _, _ => none

def system (Thread : Type u) (Value : Type v) [DecidableEq Thread]
    : System (State Thread Value) (Thread × Move Value) :=
  .ofFunction (fun register => ∀ thread, register.pc thread = .idle) advance

theorem goto_pc (register : State Thread Value) (thread : Thread) (pc : Pc Value)
    : (register.goto thread pc).pc thread = pc :=
  Function.update_self ..

theorem goto_pc_other (register : State Thread Value) {thread : Thread} (pc : Pc Value)
    (other : Thread) (different : other ≠ thread)
    : (register.goto thread pc).pc other = register.pc other :=
  Function.update_of_ne different ..

/-- What a step of a thread does, and what it shows. -/
inductive Stepped (register : State Thread Value) (thread : Thread) (after : State Thread Value)
    : Option (Event Thread Value) → Prop
  | read (idle : register.pc thread = .idle) (moved : after = register.goto thread (.reading none))
    : Stepped register thread after (some (.readCalled thread))
  | look {seen} (reading : register.pc thread = .reading seen)
    (moved : after = register.goto thread (.reading (some register.value)))
    : Stepped register thread after none
  | acquire {value} (reading : register.pc thread = .reading (some value))
    (moved : after = register.goto thread (.holding value))
    : Stepped register thread after (some (.lockObtained thread (some value)))
  | release {value} (holding : register.pc thread = .holding value)
    (moved : after = register.goto thread .idle)
    : Stepped register thread after (some (.lockReleased thread (some value)))
  | set {value} (idle : register.pc thread = .idle)
    (moved : after = register.goto thread (.setting value))
    : Stepped register thread after (some (.setCalled thread value))
  | replace {value} (setting : register.pc thread = .setting value)
    (moved : after = { register.goto thread .returning with value := value })
    : Stepped register thread after none
  | leave (returning : register.pc thread = .returning)
    (moved : after = register.goto thread .idle)
    : Stepped register thread after (some (.setReturned thread))

/-- There is no other step. -/
theorem stepped {register after : State Thread Value} {thread : Thread} {move : Move Value}
    (taken : advance register (thread, move) = some after)
    : Stepped register thread after (event register (thread, move) after) := by
  cases point : register.pc thread with
  | reading seen =>
      cases seen <;> cases move <;>
        simp only [advance, point, reduceCtorEq, Option.some.injEq] at taken
      all_goals simp only [event, point]
      · exact .look point taken.symm
      · exact .look point taken.symm
      · exact .acquire point taken.symm
  | _ =>
      cases move <;> simp only [advance, point, reduceCtorEq, Option.some.injEq] at taken
      all_goals simp only [event, point]
      all_goals
        first
        | exact .read point taken.symm
        | exact .release point taken.symm
        | exact .set point taken.symm
        | exact .replace point taken.symm
        | exact .leave point taken.symm

end Register

variable {Thread : Type u} {Value : Type v} [DecidableEq Thread]

/-- What a step of the double buffer shows. -/
def event (state : State Thread Value) (label : Thread × Move Value) (next : State Thread Value)
    : Option (Event Thread Value) :=
  match state.pc label.1, label.2, next.pc label.1 with
  | .idle, .read, _ => some (.readCalled label.1)
  | .idle, .set value, _ => some (.setCalled label.1 value)
  | .recheck _, _, .reading read =>
      some (.lockObtained label.1 (next.bufferAt read.index).value)
  | .reading read, _, _ => some (.lockReleased label.1 (state.bufferAt read.index).value)
  | .unlockWrite _, _, _ => some (.setReturned label.1)
  | _, _, _ => none

-----------------------------------------------------------------------------------------
-- The register that a double buffer is
-----------------------------------------------------------------------------------------

/-- A read has seen the value of the call that it observed; a call has replaced the value where it
has switched.
-/
def PcImage (stored : List Value) (image : Register.Pc Value) : Pc Value → Prop
  | .idle => image = .idle
  | .load _ => ∃ seen, image = .reading seen
  | .tryLock read | .recheck read | .retry read =>
      ∃ value, image = .reading (some value) ∧ stored[read.observed]? = some value
  | .reading read => ∃ value, image = .holding value ∧ stored[read.observed]? = some value
  | .lockWrite value | .loadIndex value _ => image = .setting value
  | .storeIndex call | .lockNew call | .storeValue call | .unlockNew call | .switch call =>
      image = .setting call.value
  | .invalidate _ | .lockOld _ | .destroy _ | .unlockOld _ | .unlockWrite _ =>
      image = .returning

/-- The value of the register is that of the last switch. -/
structure Image (state : State Thread Value) (register : Register.State Thread Value)
    : Prop where
  safe : Safe state
  value : state.stored[state.switched]? = some register.value
  pc : ∀ thread, PcImage state.stored (register.pc thread) (state.pc thread)

/-- Calls that begin leave the values of the earlier ones. -/
theorem PcImage.grow {stored longer : List Value} {image : Register.Pc Value} {pc : Pc Value}
    (related : PcImage stored image pc)
    (grows : ∀ (number : Nat) value, stored[number]? = some value → longer[number]? = some value)
    : PcImage longer image pc := by
  cases pc with
  | tryLock | recheck | retry | reading =>
      obtain ⟨value, same, observed⟩ := related
      exact ⟨value, same, grows _ _ observed⟩
  | _ => exact related

variable {state next : State Thread Value} {register after : Register.State Thread Value}
  {thread : Thread}

/-- One thread moves in the double buffer and in the register. -/
theorem Image.update (related : Image state register) (safe : Safe next) {pc : Pc Value}
    {image : Register.Pc Value} (moved : next.pc = Function.update state.pc thread pc)
    (followed : after.pc = Function.update register.pc thread image)
    (grows
      : ∀ (number : Nat) value,
          state.stored[number]? = some value → next.stored[number]? = some value)
    (value : next.stored[next.switched]? = some after.value)
    (mine : PcImage next.stored image pc)
    : Image next after where
  safe := safe
  value := value
  pc := by
    intro other
    by_cases same : other = thread
    · subst same
      rw [moved, followed, Function.update_self, Function.update_self]
      exact mine
    · rw [moved, followed, Function.update_of_ne same, Function.update_of_ne same]
      exact (related.pc other).grow grows

/-- One thread moves in the double buffer; in the register it stays where it is. -/
theorem Image.stay (related : Image state register) (safe : Safe next) {pc : Pc Value}
    (moved : next.pc = Function.update state.pc thread pc)
    (grows
      : ∀ (number : Nat) value,
          state.stored[number]? = some value → next.stored[number]? = some value)
    (same : next.switched = state.switched)
    (mine : PcImage next.stored (register.pc thread) pc)
    : Image next register := by
  refine related.update safe moved (Function.update_eq_self ..).symm grows ?_ mine
  rw [same]
  exact grows _ _ related.value

/-- The double buffer and the register have moved alike, and have shown the same. -/
def Answered (state : State Thread Value) (register : Register.State Thread Value)
    (label : Thread × Move Value) (next : State Thread Value)
    : Prop :=
  (Register.system Thread Value).CanShow Register.event register (event state label next).toList
    (Image next)

/-- A step that shows nothing is answered by no step. -/
theorem answered_of_silent {label : Thread × Move Value} (related : Image next register)
    (silent : event state label next = none)
    : Answered state register label next := by
  rw [Answered, silent]
  exact .nil related

/-- A step is answered by one step that shows the same. -/
theorem answered_of_step {label : Thread × Move Value} {move : Register.Move Value}
    (taken : Register.advance register (thread, move) = some after)
    (same : Register.event register (thread, move) after = event state label next)
    (related : Image next after)
    : Answered state register label next := by
  rw [Answered, ← same]
  exact .single taken related

-----------------------------------------------------------------------------------------
-- Steps
-----------------------------------------------------------------------------------------

omit [DecidableEq Thread] in
/-- A read lock is on the value that the register holds for the read. -/
theorem Safe.observed_value (safe : Safe state) {read : Read}
    (reading : state.pc thread = .reading read) {value : Value}
    (observed : state.stored[read.observed]? = some value)
    : (state.bufferAt read.index).value = some value := by
  obtain ⟨found, stored, held⟩ := safe.reads.observes thread read reading
  rw [held, ← stored, observed]

/-- The steps of a read are answered. -/
theorem Image.advanceRead (related : Image state register) (safe : Safe next) {move : Move Value}
    (taken : DoubleBuffer.advanceRead state thread (state.pc thread) move = some next)
    : Answered state register (thread, move) next := by
  have grows : ∀ (number : Nat) value,
      state.stored[number]? = some value → next.stored[number]? = some value :=
    ((sameContents_of_advanceRead taken).1.forward thread).stored
  have switched := (sameContents_of_advanceRead taken).1.switched
  have stored := (sameContents_of_advanceRead taken).1.stored
  have image := related.pc thread
  cases point : state.pc thread <;> cases move <;> rw [point] at taken image <;>
    simp only [DoubleBuffer.advanceRead, reduceCtorEq, Option.some.injEq] at taken
  case load.proceed since =>
    -- the read may have looked before
    obtain ⟨seen, mine⟩ := image
    subst taken
    have looks : Register.advance register (thread, .look)
        = some (register.goto thread (.reading (some register.value))) := by
      simp only [Register.advance, mine]
    refine answered_of_step looks ?_ ?_
    · simp [Register.event, event, point]
    · exact related.update safe rfl rfl grows related.value ⟨_, rfl, related.value⟩
  case tryLock.proceed read =>
    obtain ⟨value, mine, observed⟩ := image
    have silent : event state (thread, .proceed) next = none := by simp [event, point]
    split at taken <;> obtain rfl := Option.some.inj taken
    · exact answered_of_silent
        (related.stay safe rfl grows switched ⟨value, mine, grows _ _ observed⟩) silent
    · exact answered_of_silent (related.stay safe rfl grows switched ⟨_, mine⟩) silent
  case tryLock.failTryLock read =>
    obtain ⟨value, mine, observed⟩ := image
    subst taken
    refine answered_of_silent (related.stay safe rfl grows switched ⟨_, mine⟩) ?_
    simp [event, point]
  case recheck.proceed read =>
    obtain ⟨value, mine, observed⟩ := image
    split at taken <;> obtain rfl := Option.some.inj taken
    · have holds : Register.advance register (thread, .acquire)
          = some (register.goto thread (.holding value)) := by
        simp only [Register.advance, mine]
      refine answered_of_step holds ?_ ?_
      · have found := safe.observed_value (goto_pc state thread (.reading read)) observed
        simp [Register.event, event, mine, point, found]
      · exact related.update safe rfl rfl grows related.value ⟨value, rfl, observed⟩
    · refine answered_of_silent
        (related.stay safe rfl grows switched ⟨value, mine, observed⟩) ?_
      simp [event, point]
  case retry.proceed read =>
    obtain ⟨value, mine, observed⟩ := image
    subst taken
    refine answered_of_silent (related.stay safe rfl grows switched ⟨_, mine⟩) ?_
    simp [event, point]
  case reading.proceed read =>
    obtain ⟨value, mine, observed⟩ := image
    subst taken
    have released : Register.advance register (thread, .release)
        = some (register.goto thread .idle) := by
      simp only [Register.advance, mine]
    refine answered_of_step released ?_ ?_
    · have found := related.safe.observed_value point observed
      simp [Register.event, event, mine, point, found]
    · exact related.update safe rfl rfl grows related.value rfl

/-- The steps of `Set()` are answered: the register is replaced at the switch. -/
theorem Image.advanceSet (related : Image state register) (safe : Safe next) {isTrivial : Bool}
    (taken : DoubleBuffer.advanceSet isTrivial state thread (state.pc thread) = some next)
    : Answered state register (thread, .proceed) next := by
  have grows : ∀ (number : Nat) value,
      state.stored[number]? = some value → next.stored[number]? = some value :=
    (forward_of_advanceSet related.safe.locked related.safe.contents taken).1.stored
  have image := related.pc thread
  have mine := related.safe.locked.writer thread
  have phase := fun inSet => related.safe.contents.phase (mine inSet)
  cases point : state.pc thread <;> rw [point] at taken image phase <;>
    simp only [DoubleBuffer.advanceSet, reduceCtorEq, Option.some.injEq] at taken
  case lockWrite value =>
    split at taken
    · cases taken
    · obtain rfl := Option.some.inj taken
      refine answered_of_silent (related.stay safe rfl grows rfl image) ?_
      simp [event, point]
  case lockNew | lockOld =>
    obtain ⟨mutex, -, rfl⟩ := Option.map_eq_some_iff.mp taken
    refine answered_of_silent (related.stay safe rfl grows rfl image) ?_
    simp [event, point]
  case switch call =>
    subst taken
    change register.pc thread = .setting call.value at image
    have replaced : Register.advance register (thread, .replace)
        = some { register.goto thread .returning with value := call.value } := by
      simp only [Register.advance, image]
    refine answered_of_step replaced ?_ ?_
    · simp [Register.event, event, point]
    · refine related.update safe rfl rfl grows (phase rfl).1.value ?_
      cases isTrivial <;> rfl
  case unlockWrite call =>
    subst taken
    change register.pc thread = .returning at image
    have left : Register.advance register (thread, .leave)
        = some (register.goto thread .idle) := by
      simp only [Register.advance, image]
    refine answered_of_step left ?_ ?_
    · simp [Register.event, event, point]
    · exact related.update safe rfl rfl grows related.value rfl
  all_goals
    subst taken
    refine answered_of_silent (related.stay safe rfl grows rfl image) ?_
    simp [event, point]

/-- Every step is answered. -/
theorem Image.advance (related : Image state register) {isTrivial : Bool}
    {label : Thread × Move Value} (few : FewSets (indexCount - 1) state label)
    (taken : DoubleBuffer.advance isTrivial state label = some next)
    : Answered state register label next := by
  have safe := related.safe.advance few taken
  obtain ⟨thread, move⟩ := label
  have image := related.pc thread
  simp only [DoubleBuffer.advance] at taken
  split at taken
  · rename_i idle
    obtain rfl := Option.some.inj taken
    rw [idle] at image
    have called : Register.advance register (thread, .read)
        = some (register.goto thread (.reading none)) := by
      simp only [Register.advance, show register.pc thread = .idle from image]
    refine answered_of_step called ?_ ?_
    · simp [Register.event, event, idle]
    · exact related.update safe rfl rfl (fun _ _ stored => stored) related.value ⟨none, rfl⟩
  · rename_i value idle
    obtain rfl := Option.some.inj taken
    rw [idle] at image
    have called : Register.advance register (thread, .set value)
        = some (register.goto thread (.setting value)) := by
      simp only [Register.advance, show register.pc thread = .idle from image]
    refine answered_of_step called ?_ ?_
    · simp [Register.event, event, idle]
    · exact related.update safe rfl rfl (fun _ _ stored => stored) related.value rfl
  · rcases Option.or_eq_some_iff.mp taken with reads | ⟨-, sets⟩
    · exact related.advanceRead safe reads
    · exact related.advanceSet safe sets
  · exact related.advanceRead safe taken

omit [DecidableEq Thread] in
/-- A new double buffer is a register with the constructor's value. -/
theorem Constructed.image (constructed : Constructed state)
    : ∃ register : Register.State Thread Value,
        (∀ thread, register.pc thread = .idle) ∧ Image state register := by
  obtain ⟨value, stored, -⟩ := constructed.current
  refine ⟨⟨value, fun _ => .idle⟩, fun _ => rfl, constructed.safe, ?_, ?_⟩
  · rw [stored, constructed.switched]
    rfl
  · intro thread
    rw [constructed.pc]
    rfl

/-- The register answers the double buffer, for reads between whose load and re-check fewer than
`2 ^ 63 - 1` calls begin.
-/
theorem simulation (Thread : Type u) (Value : Type v) [DecidableEq Thread] (isTrivial : Bool)
    : System.Simulation ((system Thread Value isTrivial).restrict (FewSets (indexCount - 1)))
        (Register.system Thread Value) event Register.event Image where
  initial _ constructed := constructed.image
  step _ _ _ _ related taken := related.advance taken.1 taken.2

/-- What threads see of a double buffer they could also see of an atomic register: their calls in
this order, at each lock the value that the register had at some moment during the read, the same
value at the release. This is for reads between whose load and re-check fewer than `2 ^ 63 - 1`
calls of `Set()` begin.
-/
theorem refines_register {isTrivial : Bool} {start finish : State Thread Value}
    (constructed : Constructed start) {shown : List (Event Thread Value)}
    (run
      : ((system Thread Value isTrivial).restrict (FewSets (indexCount - 1))).Shows event start
          shown finish)
    : ∃ register after,
        (∀ thread, register.pc thread = .idle)
        ∧ start.stored = [register.value]
        ∧ (Register.system Thread Value).Shows Register.event register shown after := by
  obtain ⟨register, idle, image⟩ := constructed.image
  obtain ⟨after, shows, -⟩ := (simulation Thread Value isTrivial).follow run image
  refine ⟨register, after, idle, ?_, shows⟩
  obtain ⟨value, stored, -⟩ := constructed.current
  have held := image.value
  rw [stored, constructed.switched] at held
  rw [stored, Option.some.inj held]

/-- A read that a call of `Set()` overtakes gets the new value before the call returns. -/
theorem refines_register_overtaken
    : ∃ register after,
        register.value = 5
        ∧ (Register.system Bool Nat).Shows Register.event register
            [
              .readCalled false,
              .setCalled true 9,
              .lockObtained false (some 9),
              .setReturned true,
              .lockReleased false (some 9)
            ] after := by
  have shown
      : (System.playShown (System.guarded (FewSets (indexCount - 1)) (advance false)) event
          (constructed Nat 5)
          (overtaken ++ .replicate 4 (true, .proceed) ++ [(false, .proceed)])).map Prod.fst
        = some [
            .readCalled false,
            .setCalled true 9,
            .lockObtained false (some 9),
            .setReturned true,
            .lockReleased false (some 9)
          ] :=
    rfl
  obtain ⟨⟨_, finish⟩, played, rfl⟩ := Option.map_eq_some_iff.mp shown
  obtain ⟨register, after, -, stored, shows⟩ :=
    refines_register (constructed_constructed Nat 5) (System.shows_restrict_of_playShown played)
  exact ⟨register, after, (List.singleton_inj.mp stored).symm, shows⟩

end Aspl.DoubleBuffer
