import Aspl.Base.Termination
import Aspl.Device.ReentrancySafety
import Mathlib.Algebra.GroupWithZero.Nat

/-! Calls of the device terminate: each function runs through its body, and a function that is
submitted is part of the body that submits it.
-/

namespace Aspl.Device.Reentrancy

universe u

variable {Seen : Type u}

/-- What is left of a body after a call, and the function that the call submits. -/
inductive Child : Body Seen → Body Seen → Prop where
  | func (func : Body Seen) (next : Seen → Body Seen)
    : Child func (.request func next)
  | afterRequest (func : Body Seen) (next : Seen → Body Seen) (seen : Seen)
    : Child (next seen) (.request func next)
  | afterCall (operation : Operation) (next : Seen → Body Seen) (seen : Seen)
    : Child (next seen) (.call operation next)

/-- A body has no infinite chain of children, by induction on the body. -/
theorem child_wellFounded
    : WellFounded (Child : Body Seen → Body Seen → Prop) := by
  refine ⟨fun body => ?_⟩
  induction body with
  | done => exact ⟨_, nofun⟩
  | request func next funcIH nextIH =>
      refine ⟨_, fun child isChild => ?_⟩
      cases isChild with
      | func => exact funcIH
      | afterRequest => exact nextIH _
  | call operation next ih =>
      refine ⟨_, fun child isChild => ?_⟩
      cases isChild with
      | afterCall => exact ih _

instance : Preorder (Body Seen) := descendantOrder child_wellFounded

instance : WellFoundedLT (Body Seen) := ⟨child_wellFounded.transGen⟩

theorem lt_of_child {child parent : Body Seen} (isChild : Child child parent)
    : child < parent :=
  .single isChild

/-- The bodies that functions on the stack have left to run. -/
def codes (stack : List (Frame Seen)) : Multiset (Body Seen) :=
  stack.filterMap
    (fun frame =>
      match frame with
      | .code body => some body
      | _ => none)

/-- The body of an entry of the map, unless its function runs already. -/
def waitingBody (running : List Nat) (entry : Nat × Option (Submission Seen))
    : Option (Body Seen) :=
  if entry.1 ∈ running then none else entry.2.map Submission.body

/-- The bodies that wait in the map. -/
def waiting (pending : OrderedMap Nat (Option (Submission Seen))) (running : List Nat)
    : Multiset (Body Seen) :=
  pending.entries.filterMap (waitingBody running)

/-- All bodies that are left to run. -/
def Machine.bodies (machine : Machine Seen) : Multiset (Body Seen) :=
  codes machine.stack
  + waiting machine.configuration.pendingConfigurationRequests (runningIDs machine.stack)

/-- What a frame has left to do besides running a body. -/
def Frame.weight : Frame Seen → Nat
  | .code _ => 0
  | .endPerform _ => 1
  | .drain => 1
  | .eraseDrained _ => 2

/-- What the device has left to do besides running bodies. -/
def Machine.bookkeeping (machine : Machine Seen) : Nat :=
  3 * (waiting machine.configuration.pendingConfigurationRequests
    (runningIDs machine.stack)).card
  + (machine.stack.map Frame.weight).sum

/-- An empty function has no body. -/
theorem waitingBody_none (running : List Nat) (reqID : Nat)
    : waitingBody running (reqID, none) = (none : Option (Body Seen)) := by
  unfold waitingBody
  split <;> rfl

/-- Taking an entry from the map. -/
theorem waiting_of_find? {pending : OrderedMap Nat (Option (Submission Seen))}
    {running : List Nat} {reqID : Nat} {func : Option (Submission Seen)}
    (found : pending.find? reqID = some func)
    : waiting pending running
      = ((waitingBody running (reqID, func)).toList : Multiset (Body Seen))
        + waiting (pending.erase reqID) running := by
  have perm := (pending.entries_perm_erase found).filterMap (waitingBody running)
  unfold waiting
  rw [Multiset.coe_eq_coe.mpr perm, Multiset.coe_add, Multiset.coe_eq_coe]
  cases body : waitingBody running (reqID, func) <;> simp [body]

/-- Inserting an entry into the map replaces the one with its key. -/
theorem waiting_insert (pending : OrderedMap Nat (Option (Submission Seen)))
    (running : List Nat) (reqID : Nat) (func : Option (Submission Seen))
    : waiting (pending.insert reqID func) running
      = ((waitingBody running (reqID, func)).toList : Multiset (Body Seen))
        + waiting (pending.erase reqID) running := by
  have perm := (pending.entries_insert_perm reqID func).filterMap (waitingBody running)
  unfold waiting
  rw [Multiset.coe_eq_coe.mpr perm, Multiset.coe_add, Multiset.coe_eq_coe]
  cases body : waitingBody running (reqID, func) <;> simp [body]

/-- Erasing an entry of the map drops at most its own body. -/
theorem exists_dropped (pending : OrderedMap Nat (Option (Submission Seen)))
    (running : List Nat) (reqID : Nat)
    : ∃ dropped, waiting pending running = waiting (pending.erase reqID) running + dropped := by
  cases found : pending.find? reqID with
  | none => exact ⟨0, by rw [pending.erase_of_find?_none found, add_zero]⟩
  | some func => exact ⟨_, (waiting_of_find? found).trans (add_comm _ _)⟩

/-- Entries whose functions start or stop running are the only ones to matter. -/
theorem waiting_congr {pending : OrderedMap Nat (Option (Submission Seen))}
    {left right : List Nat}
    (same : ∀ reqID func, pending.find? reqID = some func → (reqID ∈ left ↔ reqID ∈ right))
    : waiting pending left = waiting pending right := by
  unfold waiting
  congr 1
  refine List.filterMap_congr (fun entry member => ?_)
  have found := pending.find?_eq_some_iff.mpr (show (entry.1, entry.2) ∈ _ from member)
  simp only [waitingBody, same entry.1 entry.2 found]

/-- Without an entry in the map it does not matter whether its function runs. -/
theorem waiting_erase_running (pending : OrderedMap Nat (Option (Submission Seen)))
    (running : List Nat) (reqID : Nat)
    : waiting (pending.erase reqID) running
      = waiting (pending.erase reqID) (reqID :: running) := by
  apply waiting_congr
  intro other func found
  have different : other ≠ reqID := (OrderedMap.find?_erase_eq_some_iff.mp found).1
  simp [different]

/-- A function that starts to run no longer waits. -/
theorem waiting_take {pending : OrderedMap Nat (Option (Submission Seen))} {running : List Nat}
    {reqID : Nat} {submission : Submission Seen}
    (found : pending.find? reqID = some (some submission)) (apart : reqID ∉ running)
    : waiting pending running = submission.body ::ₘ waiting pending (reqID :: running) := by
  rw [waiting_of_find? found, waiting_of_find? found, waiting_erase_running]
  simp [waitingBody, apart]

/-- Erasing the request of a function that has run changes nothing that waits. -/
theorem waiting_finish {pending : OrderedMap Nat (Option (Submission Seen))}
    {running : List Nat} (reqID : Nat)
    : waiting (pending.erase reqID) running = waiting pending (reqID :: running) := by
  rw [waiting_erase_running]
  cases found : pending.find? reqID with
  | none => rw [pending.erase_of_find?_none found]
  | some func =>
      rw [waiting_of_find? found]
      simp [waitingBody]

-----------------------------------------------------------------------------------------
-- Steps make the measure smaller
-----------------------------------------------------------------------------------------

/-- Fewer bodies are left to run, or the same ones and less bookkeeping. -/
def Smaller (after before : Machine Seen) : Prop :=
  Prod.Lex Multiset.IsDershowitzMannaLT (· < ·) (after.bodies, after.bookkeeping)
    (before.bodies, before.bookkeeping)

/-- A body is replaced by its children, and what waits is kept or dropped. -/
theorem smaller_of_children {before after : Machine Seen} {body : Body Seen}
    {kept dropped children : Multiset (Body Seen)}
    (isChild : ∀ child ∈ children, Child child body)
    (beforeBodies : before.bodies = body ::ₘ (kept + dropped))
    (afterBodies : after.bodies = kept + children)
    : Smaller after before := by
  refine Prod.Lex.left _ _ ?_
  rw [beforeBodies, afterBodies]
  exact dershowitzManna_replace (fun child member => lt_of_child (isChild child member))

/-- The same bodies are left to run, and less bookkeeping. -/
theorem smaller_of_bookkeeping {before after : Machine Seen}
    (bodies : after.bodies = before.bodies) (less : after.bookkeeping < before.bookkeeping)
    : Smaller after before := by
  unfold Smaller
  rw [bodies]
  exact Prod.Lex.right _ less

variable {machine : Machine Seen} {rest : List (Frame Seen)}

/-- The bodies of a machine whose innermost frame runs a function. -/
theorem bodies_code {body : Body Seen} (stack : machine.stack = .code body :: rest)
    : machine.bodies
      = body ::ₘ (codes rest + waiting machine.configuration.pendingConfigurationRequests
        (runningIDs rest)) := by
  rw [Machine.bodies, stack, runningIDs_code, ← Multiset.cons_add]
  rfl

/-- A call that leaves at most fewer entries in the map. -/
theorem smaller_of_waiting {body next : Body Seen} (stack : machine.stack = .code body :: rest)
    (isChild : Child next body) {after : Machine Seen}
    (codesAfter : codes after.stack = next ::ₘ codes rest)
    (dropped : ∃ dropped,
      waiting machine.configuration.pendingConfigurationRequests (runningIDs rest)
      = waiting after.configuration.pendingConfigurationRequests (runningIDs after.stack)
        + dropped)
    : Smaller after machine := by
  obtain ⟨dropped, same⟩ := dropped
  have isOnlyChild : ∀ child ∈ ({next} : Multiset (Body Seen)), Child child body := by
    intro child member
    rw [Multiset.mem_singleton.mp member]
    exact isChild
  have before : machine.bodies
      = body ::ₘ (codes rest
        + waiting after.configuration.pendingConfigurationRequests (runningIDs after.stack)
        + dropped) := by
    rw [bodies_code stack, same, ← add_assoc]
  refine smaller_of_children isOnlyChild before ?_
  rw [Machine.bodies, codesAfter, ← Multiset.singleton_add]
  ac_rfl

/-- Enqueueing leaves the entries that were there, without the one it replaces. -/
theorem waiting_enqueue (pending : OrderedMap Nat (Option (Submission Seen)))
    (running : List Nat) (reqID : Nat) (func : Option (Submission Seen))
    : ∃ kept dropped new,
        waiting pending running = kept + dropped
        ∧ waiting (pending.insert reqID func) running = kept + new
        ∧ ∀ body ∈ new, func.map Submission.body = some body := by
  obtain ⟨dropped, same⟩ := exists_dropped pending running reqID
  refine ⟨_, dropped, _, same, (waiting_insert pending running reqID func).trans (add_comm _ _), ?_⟩
  intro body member
  have found : waitingBody running (reqID, func) = some body := by
    simpa [Option.mem_toList] using member
  simp only [waitingBody] at found
  split at found
  · cases found
  · exact found

/-- A request for a function leaves what the function and its caller have left. -/
theorem smaller_request {func : Body Seen} {next : Seen → Body Seen} {seen : Seen}
    (stack : machine.stack = .code (.request func next) :: rest) {after : Machine Seen}
    (taken : { machine with stack := .code (next seen) :: rest }.request func = .defined after)
    : Smaller after machine := by
  have children : ∀ child ∈ ({next seen, func} : Multiset (Body Seen)),
      Child child (.request func next) := by
    intro child member
    rcases Multiset.mem_cons.mp member with same | last
    · exact same ▸ .afterRequest func next seen
    · exact Multiset.mem_singleton.mp last ▸ .func func next
  unfold Machine.request at taken
  simp only at taken
  split at taken
  · unfold Machine.enqueue at taken
    split at taken
    · cases taken
    · obtain rfl := State.defined.inj taken
      obtain ⟨kept, dropped, new, before, inserted, onlyFunc⟩ :=
        waiting_enqueue machine.configuration.pendingConfigurationRequests (runningIDs rest)
          machine.configuration.lastConfigurationRequestID
          (some { tag := machine.submitted, body := func })
      have beforeBodies : machine.bodies
          = .request func next ::ₘ (codes rest + kept + dropped) := by
        rw [bodies_code stack, before, ← add_assoc]
      have newChildren : ∀ child ∈ next seen ::ₘ new, Child child (.request func next) := by
        intro child member
        rcases Multiset.mem_cons.mp member with same | isNew
        · exact same ▸ .afterRequest func next seen
        · exact Option.some.inj (onlyFunc child isNew) ▸ .func func next
      refine smaller_of_children newChildren beforeBodies ?_
      change (next seen ::ₘ codes rest)
        + waiting (machine.configuration.pendingConfigurationRequests.insert _ _) (runningIDs rest)
        = _
      rw [inserted, ← Multiset.singleton_add, ← Multiset.singleton_add]
      ac_rfl
  · obtain rfl := State.defined.inj taken
    have beforeBodies : machine.bodies
        = .request func next ::ₘ (codes rest
          + waiting machine.configuration.pendingConfigurationRequests (runningIDs rest) + 0) := by
      rw [bodies_code stack, add_zero]
    refine smaller_of_children children beforeBodies ?_
    change (func ::ₘ next seen ::ₘ codes rest)
      + waiting machine.configuration.pendingConfigurationRequests (runningIDs rest) = _
    rw [Multiset.insert_eq_cons, ← Multiset.singleton_add, ← Multiset.singleton_add,
      ← Multiset.singleton_add]
    ac_rfl

/-- A request without a function leaves what its caller has left, or throws. -/
theorem smaller_requestEmpty {next : Seen → Body Seen} {seen : Seen}
    (stack : machine.stack = .code (.call .requestEmpty next) :: rest) {after : Machine Seen}
    (taken : { machine with stack := .code (next seen) :: rest }.requestEmpty = .defined after)
    : after.stack = [] ∨ Smaller after machine := by
  unfold Machine.requestEmpty at taken
  split at taken
  · unfold Machine.enqueue at taken
    split at taken
    · cases taken
    · obtain rfl := State.defined.inj taken
      refine Or.inr (smaller_of_waiting stack (.afterCall .requestEmpty next seen) rfl ?_)
      obtain ⟨dropped, same⟩ := exists_dropped
        machine.configuration.pendingConfigurationRequests (runningIDs rest)
        machine.configuration.lastConfigurationRequestID
      refine ⟨dropped, same.trans (congrArg (· + dropped) ?_)⟩
      change _ = waiting (machine.configuration.pendingConfigurationRequests.insert _ none) _
      rw [waiting_insert, waitingBody_none]
      exact (zero_add _).symm
  · obtain rfl := State.defined.inj taken
    exact Or.inl rfl

/-- A performed function leaves the caller what it had left, and is no longer waiting itself. -/
theorem smaller_perform {reqID : Nat} {next : Seen → Body Seen} {seen : Seen}
    (stack : machine.stack = .code (.call (.perform reqID) next) :: rest)
    (harmless : machine.Harmless)
    : Smaller ({ machine with stack := .code (next seen) :: rest }.perform reqID) machine := by
  have isChild : Child (next seen) (.call (.perform reqID) next) := .afterCall _ next seen
  unfold Machine.Harmless at harmless
  rw [stack] at harmless
  unfold Machine.perform
  split
  · rename_i submission found
    have apart : reqID ∉ runningIDs rest := harmless (by rw [found]; rfl)
    have beforeBodies : machine.bodies
        = .call (.perform reqID) next ::ₘ (submission.body ::ₘ (codes rest
          + waiting machine.configuration.pendingConfigurationRequests
            (reqID :: runningIDs rest)) + 0) := by
      rw [bodies_code stack, waiting_take found apart, add_zero, Multiset.add_cons]
    have onlyChild : ∀ child ∈ ({next seen} : Multiset (Body Seen)),
        Child child (.call (.perform reqID) next) := by
      intro child member
      exact Multiset.mem_singleton.mp member ▸ isChild
    refine smaller_of_children onlyChild beforeBodies ?_
    change (submission.body ::ₘ next seen ::ₘ codes rest)
      + waiting machine.configuration.pendingConfigurationRequests (reqID :: runningIDs rest)
      = _
    rw [← Multiset.singleton_add, ← Multiset.singleton_add, ← Multiset.singleton_add]
    ac_rfl
  · exact smaller_of_waiting stack isChild rfl (exists_dropped _ _ reqID)

/-- A call that submits no function leaves what its caller has left, or throws. -/
theorem smaller_operate {operation : Operation} {next : Seen → Body Seen} {seen : Seen}
    (stack : machine.stack = .code (.call operation next) :: rest) (harmless : machine.Harmless)
    {after : Machine Seen}
    (taken : { machine with stack := .code (next seen) :: rest }.operate operation
      = .defined after)
    : after.stack = [] ∨ Smaller after machine := by
  have isChild : Child (next seen) (.call operation next) := .afterCall operation next seen
  cases operation with
  | requestEmpty => exact smaller_requestEmpty stack taken
  | perform reqID =>
      obtain rfl := State.defined.inj taken
      exact Or.inr (smaller_perform stack harmless)
  | abort reqID =>
      simp only [Machine.operate, Machine.abort] at taken
      refine Or.inr ?_
      split at taken
      · obtain rfl := State.defined.inj taken
        exact smaller_of_waiting stack isChild rfl ⟨0, (add_zero _).symm⟩
      all_goals
        unfold Machine.erase at taken
        split at taken
        · cases taken
        · obtain rfl := State.defined.inj taken
          exact smaller_of_waiting stack isChild rfl (exists_dropped _ _ reqID)
  | attach owner =>
      simp only [Machine.operate, Machine.attach] at taken
      obtain rfl := State.defined.inj taken
      refine Or.inr ?_
      split
      all_goals exact smaller_of_waiting stack isChild rfl ⟨0, (add_zero _).symm⟩
  | detach owner =>
      simp only [Machine.operate, Machine.detach] at taken
      obtain rfl := State.defined.inj taken
      refine Or.inr ?_
      split
      all_goals exact smaller_of_waiting stack isChild rfl ⟨0, (add_zero _).symm⟩

/-- The end of a function that was taken from the map leaves less bookkeeping. -/
theorem smaller_finish {frame : Frame Seen} (stack : machine.stack = frame :: rest) {reqID : Nat}
    (runs : frame.runningID = some reqID) {next after : Machine Seen}
    (taken : next.erase reqID = .defined after)
    (pending : next.configuration.pendingConfigurationRequests
      = machine.configuration.pendingConfigurationRequests)
    (running : runningIDs next.stack = runningIDs rest)
    (sameCodes : codes next.stack = codes machine.stack)
    (lighter : (next.stack.map Frame.weight).sum < (machine.stack.map Frame.weight).sum)
    : Smaller after machine := by
  have runningStack : runningIDs machine.stack = reqID :: runningIDs rest := by
    rw [stack, runningIDs, List.filterMap_cons_some runs]
    rfl
  unfold Machine.erase at taken
  split at taken
  · cases taken
  · obtain rfl := State.defined.inj taken
    have sameWaiting : waiting (next.configuration.pendingConfigurationRequests.erase reqID)
        (runningIDs next.stack)
        = waiting machine.configuration.pendingConfigurationRequests
          (runningIDs machine.stack) := by
      rw [pending, running, runningStack, waiting_finish]
    apply smaller_of_bookkeeping
    · simp only [Machine.bodies, Configuration.erase, sameCodes, sameWaiting]
    · simp only [Machine.bookkeeping, Configuration.erase, sameWaiting]
      omega

/-- A round of the drain loop leaves less bookkeeping, or throws. -/
theorem smaller_drainRound (stack : machine.stack = .drain :: rest) (harmless : machine.Harmless)
    : { machine with stack := rest }.drainRound.stack = []
      ∨ Smaller { machine with stack := rest }.drainRound machine := by
  have runningStack : runningIDs machine.stack = runningIDs rest := by
    rw [stack, runningIDs_drain]
  have codesStack : codes machine.stack = codes rest := by
    rw [stack]
    rfl
  have weights : (machine.stack.map Frame.weight).sum = 1 + (rest.map Frame.weight).sum := by
    rw [stack]
    rfl
  unfold Machine.Harmless at harmless
  rw [stack] at harmless
  simp only at harmless
  unfold Machine.drainRound
  split at harmless
  · rename_i empty
    simp only [empty]
    refine Or.inr (smaller_of_bookkeeping ?_ ?_)
    · simp only [Machine.bodies, runningStack, codesStack]
    · simp only [Machine.bookkeeping, runningStack]
      omega
  · rename_i first
    simp only [first]
    exact Or.inl rfl
  · rename_i reqID submission first
    simp only [first]
    have found : machine.configuration.pendingConfigurationRequests.find? reqID
        = some (some submission) := by
      rw [OrderedMap.find?_eq_some_iff]
      exact List.mem_of_mem_head? first
    have taken := waiting_take found harmless
    refine Or.inr (smaller_of_bookkeeping ?_ ?_)
    · simp only [Machine.bodies, runningStack, codesStack, taken, Multiset.add_cons]
      change (submission.body ::ₘ codes rest) + _ = _
      rw [Multiset.cons_add]
      rfl
    · simp only [Machine.bookkeeping, runningStack, taken, Multiset.card_cons, weights]
      change 3 * (waiting machine.configuration.pendingConfigurationRequests
          (reqID :: runningIDs rest)).card
        + (0 + (2 + (rest.map Frame.weight).sum)) < _
      omega

/-- A harmless step of a device that was called. -/
def CallStep (before after : State Seen) : Prop :=
  ∃ seen, Harmless before (.proceed seen) ∧ advance before (.proceed seen) = some after

/-- The call in progress ends: its harmless steps cannot go on for ever. -/
def Terminates (state : State Seen) : Prop :=
  Acc (fun after before => CallStep before after) state

/-- What is left to do in a state. -/
def State.measure : State Seen → Multiset (Body Seen) × Nat
  | .defined machine => (machine.bodies, machine.bookkeeping)
  | .undefined => (0, 0)

/-- A harmless step leaves less to do, or ends the call by a throw. -/
theorem smaller_proceed {machine after : Machine Seen} (harmless : machine.Harmless) {seen : Seen}
    (taken : machine.proceed seen = some (.defined after))
    : after.stack = [] ∨ Smaller after machine := by
  unfold Machine.proceed at taken
  split at taken
  · cases taken
  · rename_i rest stack
    obtain rfl := State.defined.inj (Option.some.inj taken)
    have beforeBodies : machine.bodies
        = .done ::ₘ (codes rest
          + waiting machine.configuration.pendingConfigurationRequests (runningIDs rest) + 0) := by
      rw [bodies_code stack, add_zero]
    exact Or.inr (smaller_of_children (by simp) beforeBodies (add_zero _).symm)
  · rename_i func next rest stack
    exact Or.inr (smaller_request stack (Option.some.inj taken))
  · rename_i operation next rest stack
    exact smaller_operate stack harmless (Option.some.inj taken)
  · rename_i reqID rest stack
    refine Or.inr (smaller_finish stack rfl (Option.some.inj taken) rfl rfl ?_ ?_)
    · rw [stack]
      rfl
    · rw [stack, List.map_cons, List.sum_cons]
      exact Nat.lt_add_of_pos_left Nat.one_pos
  · rename_i rest stack
    obtain rfl := State.defined.inj (Option.some.inj taken)
    exact smaller_drainRound stack harmless
  · rename_i reqID rest stack
    refine Or.inr (smaller_finish stack rfl (Option.some.inj taken) rfl rfl ?_ ?_)
    · rw [stack]
      rfl
    · rw [stack, List.map_cons, List.map_cons, List.sum_cons, List.sum_cons]
      exact Nat.add_lt_add_right (Nat.lt_succ_self 1) _

/-- A sound state terminates. -/
theorem terminates_of_sound {state : State Seen} (sound : state.Sound)
    : Terminates state := by
  have wf : WellFounded (Prod.Lex Multiset.IsDershowitzMannaLT
      ((· < ·) : Nat → Nat → Prop) : Multiset (Body Seen) × Nat → _ → Prop) :=
    WellFounded.prod_lex Multiset.wellFounded_isDershowitzMannaLT wellFounded_lt
  refine acc_of_measure wf State.measure ?_ sound
  rintro before after ⟨machine, rfl, soundBefore⟩ ⟨seen, harmless, taken⟩
  obtain ⟨next, rfl, soundAfter⟩ := soundBefore.proceed harmless taken
  rcases smaller_proceed harmless taken with ended | smaller
  · refine Or.inl ?_
    rintro later ⟨seen, -, more⟩
    simp [advance, Machine.proceed, ended] at more
  · exact Or.inr ⟨⟨next, rfl, soundAfter⟩, smaller⟩

/-- A device that is in the middle of a call can go on. -/
theorem exists_proceed {machine : Machine Seen} (busy : machine.stack ≠ []) (seen : Seen)
    : ∃ next, machine.proceed seen = some next := by
  unfold Machine.proceed
  split
  · rename_i stack
    exact absurd stack busy
  all_goals exact ⟨_, rfl⟩

/-- A published device, with functions that see nothing. -/
def published : Machine Unit where
  configuration := { host := true, ownerObjectID := 1 }

theorem published_new
    : New published where
  pending := rfl
  stack := rfl
  history := rfl

/-- The call that submits a function and returns. -/
def submit (func : Body Unit) : Body Unit := .request func (fun _ => .done)

end Aspl.Device.Reentrancy
