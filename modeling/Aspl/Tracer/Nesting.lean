import Aspl.Base.Scopes
import Aspl.Tracer.Model

/-! Nesting of traced operations: the two counters of a thread stand for the stack of its open
operations, and the lines printed are those outside of ignored operations.
-/

namespace Aspl.Tracer

open Scopes

/-- The change of the nesting that a call makes. -/
def Call.change : Call → Change
  | .operationBegin _ => .enter
  | .message _ => .stay
  | .operationEnd _ _ => .leave

/-- The lines of the calls that are neither in an ignored operation nor begin or end one. The
answers of `ShouldIgnore()` for the open operations are listed from the innermost one; a line
shows the number of open operations.
-/
def visibleLines (tracer : Tracer) : List Bool → List Call → List Bytes
  | _, [] => []
  | opened, .operationBegin op :: rest =>
      let entered := tracer.shouldIgnore op :: opened
      (if true ∈ entered then []
        else [tracer.formatOperationBegin op (UInt32.ofNat entered.length)])
      ++ tracer.visibleLines entered rest
  | opened, .message text :: rest =>
      (if true ∈ opened then []
        else [tracer.formatMessage (truncate text) (UInt32.ofNat opened.length)])
      ++ tracer.visibleLines opened rest
  | opened, .operationEnd op status :: rest =>
      (if true ∈ opened then []
        else [tracer.formatOperationEnd op status (UInt32.ofNat opened.length)])
      ++ tracer.visibleLines opened.tail rest

namespace ThreadLocalState

/-- The depth is within its limit, and an ignored operation is at most that deep. -/
structure Sound (state : ThreadLocalState) : Prop where
  limited : state.depthCounter ≤ depthHardLimit
  ignored : state.ignoreCounter = 0 ∨ state.ignoreCounter ≤ state.depthCounter

/-- The counters stand for the answers of `ShouldIgnore()` for the open operations. -/
structure Encodes (state : ThreadLocalState) (opened : List Bool) : Prop where
  depth : state.depthCounter.toNat = opened.length
  ignore : state.ignoreCounter.toNat = outermost opened

theorem sound_fresh : ({} : ThreadLocalState).Sound := ⟨by decide, Or.inl rfl⟩

theorem encodes_fresh : ({} : ThreadLocalState).Encodes [] := ⟨rfl, rfl⟩

/-- A thread with a sound state is ignoring exactly if it has an ignored operation. -/
theorem Sound.isIgnoring_eq {state : ThreadLocalState} (sound : state.Sound)
    : state.isIgnoring = decide (state.ignoreCounter ≠ 0) := by
  rcases sound.ignored with zero | within
  · simp [isIgnoring, zero]
  · simp [isIgnoring, within]

end ThreadLocalState

open ThreadLocalState

/-- A depth at which the increment does not wrap. -/
theorem toNat_increment {depth : UInt32} (below : depth < depthHardLimit)
    : (depth + 1).toNat = depth.toNat + 1 := by
  have limit := UInt32.lt_iff_toNat_lt.mp below
  have hard : depthHardLimit.toNat = 1000 := rfl
  have one : (1 : UInt32).toNat = 1 := rfl
  rw [UInt32.toNat_add]
  omega

/-- A depth at which the decrement does not wrap. -/
theorem toNat_decrement {depth : UInt32} (positive : depth ≠ 0)
    : (depth - 1).toNat = depth.toNat - 1 := by
  have one : (1 : UInt32).toNat = 1 := rfl
  have nonzero : depth.toNat ≠ 0 := fun zero => positive (UInt32.toNat_inj.mp zero)
  rw [UInt32.toNat_sub_of_le _ _ (UInt32.le_iff_toNat_le.mpr (by omega)), one]

namespace ThreadLocalState

/-- The state in which `OperationBegin()` asks whether the thread is ignoring. -/
def entered (state : ThreadLocalState) : ThreadLocalState :=
  if state.depthCounter < depthHardLimit then
    { state with depthCounter := state.depthCounter + 1 }
  else state

@[simp] theorem entered_ignoreCounter (state : ThreadLocalState)
    : state.entered.ignoreCounter = state.ignoreCounter := by
  rw [entered]
  split <;> rfl

/-- The depth grows by one, up to its limit. -/
theorem Sound.entered_depthCounter {state : ThreadLocalState} (sound : state.Sound)
    : state.entered.depthCounter.toNat = min (state.depthCounter.toNat + 1) 1000 := by
  have hard : depthHardLimit.toNat = 1000 := rfl
  have limited := UInt32.le_iff_toNat_le.mp sound.limited
  rw [entered]
  split
  · rename_i below
    have under := UInt32.lt_iff_toNat_lt.mp below
    rw [toNat_increment below]
    omega
  · rename_i above
    have reached := UInt32.le_iff_toNat_le.mp (UInt32.not_lt.mp above)
    omega

theorem Sound.entered {state : ThreadLocalState} (sound : state.Sound)
    : state.entered.Sound := by
  have hard : depthHardLimit.toNat = 1000 := rfl
  have limited := UInt32.le_iff_toNat_le.mp sound.limited
  have depth := sound.entered_depthCounter
  refine ⟨UInt32.le_iff_toNat_le.mpr (by omega), ?_⟩
  rw [entered_ignoreCounter]
  refine sound.ignored.imp_right (fun within => UInt32.le_iff_toNat_le.mpr ?_)
  have before := UInt32.le_iff_toNat_le.mp within
  omega

/-- While the counters stand for a stack of answers, a thread is ignoring exactly inside of an
operation that `ShouldIgnore()` accepted.
-/
theorem Encodes.isIgnoring_eq {state : ThreadLocalState} {opened : List Bool}
    (encodes : state.Encodes opened)
    : state.isIgnoring = decide (true ∈ opened) := by
  have zero : state.ignoreCounter = 0 ↔ true ∉ opened := by
    rw [← outermost_eq_zero_iff, ← encodes.ignore, ← UInt32.toNat_inj, UInt32.toNat_zero]
  have within : state.ignoreCounter ≤ state.depthCounter := by
    rw [UInt32.le_iff_toNat_le, encodes.ignore, encodes.depth]
    exact outermost_le_length opened
  by_cases marked : true ∈ opened
  · have nonzero : state.ignoreCounter ≠ 0 := fun equal => zero.mp equal marked
    simp [isIgnoring, marked, nonzero, within]
  · simp [isIgnoring, marked, zero.mpr marked]

/-- The depth that is stored is the one that a line shows. -/
theorem Encodes.depthCounter_eq {state : ThreadLocalState} {opened : List Bool}
    (encodes : state.Encodes opened)
    : state.depthCounter = UInt32.ofNat opened.length := by
  rw [← encodes.depth, UInt32.ofNat_toNat]

theorem Encodes.depthCounter_lt {state : ThreadLocalState} {opened : List Bool}
    (encodes : state.Encodes opened) (below : opened.length < 1000)
    : state.depthCounter < depthHardLimit := by
  rw [UInt32.lt_iff_toNat_lt, encodes.depth]
  exact below

theorem Encodes.sound {state : ThreadLocalState} {opened : List Bool}
    (encodes : state.Encodes opened) (within : opened.length ≤ 1000)
    : state.Sound := by
  refine ⟨?_, Or.inr ?_⟩
  · rw [UInt32.le_iff_toNat_le, encodes.depth]
    exact within
  · rw [UInt32.le_iff_toNat_le, encodes.depth, encodes.ignore]
    exact outermost_le_length opened

/-- Below the limit, going deeper keeps the outermost ignored operation. -/
theorem Encodes.entered {state : ThreadLocalState} {opened : List Bool}
    (encodes : state.Encodes opened) (below : opened.length < 1000)
    : state.entered.Encodes (false :: opened) := by
  have room := encodes.depthCounter_lt below
  refine ⟨?_, ?_⟩
  · rw [ThreadLocalState.entered, if_pos room, toNat_increment room, encodes.depth,
      List.length_cons]
  · rw [entered_ignoreCounter, encodes.ignore]
    by_cases marked : true ∈ opened
    · rw [outermost_cons_of_marked _ marked]
    · rw [outermost_cons_of_unmarked _ marked]
      exact (outermost_eq_zero_iff opened).mpr marked

end ThreadLocalState

/-- `Message()` leaves the counters. -/
theorem message_state (tracer : Tracer) (text : Bytes) (state : ThreadLocalState)
    : (tracer.message text state).1 = state := by
  rw [message]
  split
  · rfl
  · split <;> rfl

section Active

variable {tracer : Tracer} (active : tracer.mode ≠ .noop)

include active

/-- `OperationBegin()` remembers the depth of the first operation to ignore. -/
theorem operationBegin_state (op : Operation) {state : ThreadLocalState} (sound : state.Sound)
    : (tracer.operationBegin op state).1
      = if state.ignoreCounter = 0 ∧ tracer.shouldIgnore op then
          { state.entered with ignoreCounter := state.entered.depthCounter }
        else state.entered := by
  have ignoring := sound.entered.isIgnoring_eq
  rw [entered_ignoreCounter] at ignoring
  rw [operationBegin, if_neg active]
  change (if state.entered.isIgnoring then _ else _ : ThreadLocalState × List Bytes).1 = _
  rw [ignoring]
  by_cases zero : state.ignoreCounter = 0
  · cases answer : tracer.shouldIgnore op <;> simp [zero, entered]
  · simp [zero, entered]

/-- `OperationEnd()` goes one operation up, and stops ignoring at the one that started it. -/
theorem operationEnd_state (op : Operation) (status : Int32) {state : ThreadLocalState}
    (sound : state.Sound)
    : (tracer.operationEnd op status state).1
      = {
          depthCounter := if state.depthCounter = 0 then 0 else state.depthCounter - 1
          ignoreCounter :=
            if state.depthCounter = state.ignoreCounter then 0 else state.ignoreCounter
        } := by
  rw [operationEnd, if_neg active, sound.isIgnoring_eq]
  by_cases zero : state.ignoreCounter = 0
  · by_cases top : state.depthCounter = 0
    · obtain ⟨depthCounter, ignoreCounter⟩ := state
      subst zero top
      simp
    · simp [zero, top]
  · -- An ignored operation is open, so that the depth is not zero.
    have top : state.depthCounter ≠ 0 := by
      intro top
      have within := sound.ignored.resolve_left zero
      rw [top] at within
      exact zero (UInt32.le_zero_iff.mp within)
    simp [zero, top]

/-- `OperationEnd()` takes one from the depth, without going below zero. -/
theorem operationEnd_depth (op : Operation) (status : Int32) {state : ThreadLocalState}
    (sound : state.Sound)
    : (tracer.operationEnd op status state).1.depthCounter.toNat
      = state.depthCounter.toNat - 1 := by
  rw [operationEnd_state active op status sound]
  by_cases top : state.depthCounter = 0
  · simp [top]
  · simp only [if_neg top]
    exact toNat_decrement top

/-- `OperationBegin()` adds one to the depth, up to its limit. -/
theorem operationBegin_depth (op : Operation) {state : ThreadLocalState} (sound : state.Sound)
    : (tracer.operationBegin op state).1.depthCounter.toNat
      = min (state.depthCounter.toNat + 1) 1000 := by
  rw [operationBegin_state active op sound, ← sound.entered_depthCounter]
  split <;> rfl

/-- Every call keeps the counters sound. -/
theorem ThreadLocalState.Sound.perform {state : ThreadLocalState} (sound : state.Sound)
    (call : Call)
    : (tracer.perform state call).1.Sound := by
  cases call with
  | operationBegin op =>
      rw [Tracer.perform, operationBegin_state active op sound]
      split
      · exact ⟨sound.entered.limited, Or.inr le_rfl⟩
      · exact sound.entered
  | message text =>
      rw [Tracer.perform, message_state]
      exact sound
  | operationEnd op status =>
      have depth := operationEnd_depth active op status sound
      have limited := UInt32.le_iff_toNat_le.mp sound.limited
      refine ⟨UInt32.le_iff_toNat_le.mpr (by rw [Tracer.perform]; omega), ?_⟩
      rw [Tracer.perform]
      rw [operationEnd_state active op status sound] at depth ⊢
      by_cases closing : state.depthCounter = state.ignoreCounter
      · simp [closing]
      · simp only [if_neg closing] at depth ⊢
        refine sound.ignored.imp_right (fun within => UInt32.le_iff_toNat_le.mpr ?_)
        have before := UInt32.le_iff_toNat_le.mp within
        have apart : state.depthCounter.toNat ≠ state.ignoreCounter.toNat := fun equal =>
          closing (UInt32.toNat_inj.mp equal)
        omega

/-- A whole run keeps the counters sound, by induction on its calls. -/
theorem ThreadLocalState.Sound.run {state : ThreadLocalState} (sound : state.Sound)
    (calls : List Call)
    : (tracer.run state calls).1.Sound := by
  induction calls generalizing state with
  | nil => exact sound
  | cons call rest ih => exact ih (sound.perform active call)

/-- The depth is never above the number of open operations, also beyond the limit. -/
theorem depth_le_of_play {state : ThreadLocalState} (sound : state.Sound) {calls : List Call}
    {height final : Nat} (within : state.depthCounter.toNat ≤ height)
    (played : System.play Change.apply height (calls.map Call.change) = some final)
    : (tracer.run state calls).1.depthCounter.toNat ≤ final := by
  induction calls generalizing state height with
  | nil =>
      obtain rfl := Option.some.inj played
      exact within
  | cons call rest ih =>
      obtain ⟨next, taken, later⟩ := Option.bind_eq_some_iff.mp played
      refine ih (sound.perform active call) ?_ later
      cases call with
      | operationBegin op =>
          obtain rfl := Option.some.inj taken
          rw [Tracer.perform, operationBegin_depth active op sound]
          omega
      | message text =>
          obtain rfl := Option.some.inj taken
          rw [Tracer.perform, message_state]
          exact within
      | operationEnd op status =>
          cases height with
          | zero => exact absurd taken (by simp [Call.change, Change.apply])
          | succ outer =>
              obtain rfl := Option.some.inj taken
              rw [Tracer.perform, operationEnd_depth active op status sound]
              omega

/-- Below the limit, `OperationBegin()` pushes an answer and prints unless one is true. -/
theorem operationBegin_encodes (op : Operation) {state : ThreadLocalState}
    {opened : List Bool} (encodes : state.Encodes opened) (below : opened.length < 1000)
    : (tracer.operationBegin op state).1.Encodes (tracer.shouldIgnore op :: opened)
      ∧ (tracer.operationBegin op state).2
        = if true ∈ tracer.shouldIgnore op :: opened then []
          else [tracer.formatOperationBegin op (UInt32.ofNat (opened.length + 1))] := by
  have room := encodes.depthCounter_lt below
  have deeper := encodes.entered below
  have ignoring := deeper.isIgnoring_eq
  have shown := deeper.depthCounter_eq
  have result : tracer.operationBegin op state
      = if state.entered.isIgnoring then (state.entered, [])
        else if tracer.shouldIgnore op then
          ({ state.entered with ignoreCounter := state.entered.depthCounter }, [])
        else
          (state.entered, [tracer.formatOperationBegin op state.entered.depthCounter]) := by
    simp only [operationBegin, if_neg active, entered, if_pos room, List.nil_append]
  rw [result, ignoring]
  by_cases marked : true ∈ opened
  · have same : state.entered.Encodes (tracer.shouldIgnore op :: opened) := by
      refine ⟨deeper.depth, ?_⟩
      rw [deeper.ignore, outermost_cons_of_marked _ marked, outermost_cons_of_marked _ marked]
    simp [marked, same]
  · cases answer : tracer.shouldIgnore op with
    | true =>
        have remembered
            : ThreadLocalState.Encodes
                { state.entered with ignoreCounter := state.entered.depthCounter }
                (true :: opened) := by
          refine ⟨deeper.depth, ?_⟩
          rw [outermost_cons_of_unmarked _ marked]
          exact deeper.depth
        simp [marked, remembered]
    | false =>
        rw [List.length_cons] at shown
        simp [marked, deeper, shown]

/-- Below the limit, `Message()` prints unless it is in an ignored operation. -/
theorem message_encodes (text : Bytes) {state : ThreadLocalState} {opened : List Bool}
    (encodes : state.Encodes opened)
    : (tracer.message text state).2
      = if true ∈ opened then []
        else [tracer.formatMessage (truncate text) (UInt32.ofNat opened.length)] := by
  rw [message, if_neg active, encodes.isIgnoring_eq, ← encodes.depthCounter_eq]
  by_cases marked : true ∈ opened <;> simp [marked]

/-- `OperationEnd()` pops an answer and prints unless one was true. -/
theorem operationEnd_encodes (op : Operation) (status : Int32) {state : ThreadLocalState}
    {answer : Bool} {outer : List Bool} (encodes : state.Encodes (answer :: outer))
    (within : outer.length < 1000)
    : (tracer.operationEnd op status state).1.Encodes outer
      ∧ (tracer.operationEnd op status state).2
        = if true ∈ answer :: outer then []
          else [tracer.formatOperationEnd op status (UInt32.ofNat (outer.length + 1))] := by
  have sound := encodes.sound within
  have depth := encodes.depth
  rw [List.length_cons] at depth
  have nonzero : state.depthCounter ≠ 0 := by
    intro zero
    rw [zero, UInt32.toNat_zero] at depth
    omega
  refine ⟨⟨?_, ?_⟩, ?_⟩
  · rw [operationEnd_depth active op status sound, depth, Nat.add_sub_cancel]
  · have closing : state.depthCounter = state.ignoreCounter
        ↔ outermost (answer :: outer) = outer.length + 1 := by
      rw [← UInt32.toNat_inj, depth, encodes.ignore]
      exact eq_comm
    rw [operationEnd_state active op status sound, outermost_tail answer outer]
    simp only [closing]
    split
    · rfl
    · exact encodes.ignore
  · have shown := encodes.depthCounter_eq
    rw [List.length_cons] at shown
    rw [operationEnd, if_neg active, encodes.isIgnoring_eq, ← shown]
    by_cases marked : true ∈ answer :: outer <;> simp [marked, nonzero]

/-- Up to the nesting that the limit allows, a run prints the visible lines, by induction on its
calls with the stack of answers along.
-/
theorem run_lines {state : ThreadLocalState} {opened : List Bool} {calls : List Call}
    {final : Nat} (encodes : state.Encodes opened)
    (played : System.play Change.apply opened.length (calls.map Call.change) = some final)
    (within : peak opened.length (calls.map Call.change) ≤ 1000)
    : (tracer.run state calls).2 = tracer.visibleLines opened calls := by
  induction calls generalizing state opened with
  | nil => cases opened <;> rfl
  | cons call rest ih =>
      obtain ⟨next, taken, later⟩ := Option.bind_eq_some_iff.mp played
      have restWithin := (peak_next_le taken).trans within
      have nextWithin := (le_peak next (rest.map Call.change)).trans restWithin
      cases call with
      | operationBegin op =>
          obtain rfl := Option.some.inj taken
          obtain ⟨pushed, line⟩ := operationBegin_encodes active op encodes nextWithin
          rw [Tracer.run, visibleLines, Tracer.perform, line, ih pushed later restWithin]
          rfl
      | message text =>
          obtain rfl := Option.some.inj taken
          have same := encodes
          rw [← message_state tracer text state] at same
          rw [Tracer.run, visibleLines, Tracer.perform, message_encodes active text encodes,
            ih same later restWithin]
      | operationEnd op status =>
          cases opened with
          | nil => exact absurd taken (by simp [Call.change, Change.apply])
          | cons answer outer =>
              have current := (le_peak _ _).trans within
              obtain rfl := Option.some.inj taken
              obtain ⟨popped, line⟩ := operationEnd_encodes active op status encodes current
              rw [Tracer.run, visibleLines, Tracer.perform, line, ih popped later restWithin]
              rfl

/-- Tracing is sound for every complete sequence of calls of a fresh thread. -/
theorem nesting_sound {calls : List Call} (nested : Nested (calls.map Call.change))
    : (∀ before after, calls = before ++ after →
        let state := (tracer.run {} before).1
        state.depthCounter ≤ 1000
        ∧ (state.ignoreCounter = 0 ∨ state.ignoreCounter ≤ state.depthCounter)
        ∧ ∀ op status,
            (tracer.operationEnd op status state).1.depthCounter.toNat
              = state.depthCounter.toNat - 1)
      ∧ (tracer.run {} calls).1 = { depthCounter := 0, ignoreCounter := 0 }
      ∧ (peak 0 (calls.map Call.change) ≤ 1000
          → (tracer.run {} calls).2 = tracer.visibleLines [] calls) := by
  refine ⟨?_, ?_, fun within => run_lines active encodes_fresh nested within⟩
  · rintro before after -
    have sound := sound_fresh.run active before
    exact ⟨sound.limited, sound.ignored, fun op status =>
      operationEnd_depth active op status sound⟩
  · have sound := sound_fresh.run active calls
    have depth := depth_le_of_play active sound_fresh (Nat.le_refl 0) nested
    have top : (tracer.run {} calls).1.depthCounter = 0 :=
      UInt32.toNat_inj.mp (Nat.le_zero.mp depth)
    have calm : (tracer.run {} calls).1.ignoreCounter = 0 := by
      rcases sound.ignored with zero | below
      · exact zero
      · rw [top] at below
        exact UInt32.le_zero_iff.mp below
    calc
      (tracer.run {} calls).1
          = ⟨(tracer.run {} calls).1.depthCounter, (tracer.run {} calls).1.ignoreCounter⟩ := rfl
      _ = { depthCounter := 0, ignoreCounter := 0 } := by rw [top, calm]

end Active

/-- A tracer that does not print read-only operations. -/
def withoutReadonly : Tracer where
  mode := .stderr
  style := .hierarchical
  propertySelectorToString := toString
  propertyScopeToString := toString
  statusToString := toString
  shouldIgnore op := op.flags &&& 1 != 0

/-- An ignored operation in a printed one hides its own message and the operation in it. -/
theorem nesting_sound_readonly_inside
    : let outer : Operation := { name := "SetRawValue()" }
      let getter : Operation := { name := "GetRawValue()", flags := 1 }
      let inner : Operation := { name := "Convert()" }
      (withoutReadonly.run {} [
        .operationBegin outer,
        .operationBegin getter, .message (bytes "reading"),
        .operationBegin inner, .operationEnd inner 0,
        .operationEnd getter 0,
        .message (bytes "not changed"),
        .operationEnd outer 0
      ]).2
      = [
        bytes "|- SetRawValue() begin objectID=0",
        bytes "|-- not changed",
        bytes "|- SetRawValue() end status=0"
      ] :=
  ((@nesting_sound withoutReadonly (by decide) _ (by decide)).2.2 (by decide)).trans (by decide)

end Aspl.Tracer
