import Aspl.Base.CriticalSection

/-! An observer that keeps what it has read of data that calls change under a mutex. It takes no
lock, and reads a key again when it is notified of it. If every call notifies of what it changes,
a stale value is one that the observer is still to be notified of. Nothing here names a program.
-/

namespace Aspl

universe u v w x y z

/-- What there is to observe of data, under keys, and the notifications that were sent. -/
structure Source (Data : Type u) (Key : Type v) (Value : Type w) where
  view : Data → Key → Value
  sent : Data → List Key

namespace Code

variable {Data : Type u} {Key : Type v} {Value : Type w} {Result : Type x} {View : Type y}
  (source : Source Data Key Value)

/-- The notifications that code is to send, when nothing comes between. -/
def announced : Code Data Result → Data → List Key
  | .access write next, data =>
      (source.sent (write data)).drop (source.sent data).length
        ++ (next data).announced (write data)
  | _, _ => []

/-- Every access keeps the notifications that were sent, and what it changes is announced by it or
later on.
-/
def Announces : Code Data Result → Data → Prop
  | .access write next, data =>
      source.sent data <+: source.sent (write data)
      ∧ (∀ key, source.view (write data) key ≠ source.view data key
          → key ∈ (Code.access write next).announced source data)
      ∧ (next data).Announces (write data)
  | _, _ => True

variable {source} {data : Data}

@[simp] theorem announced_done {result : Result} : (Code.done result).announced source data = [] :=
  rfl

@[simp] theorem announces_done {result : Result} : (Code.done result).Announces source data :=
  trivial

@[simp] theorem announces_blocked : (Code.blocked : Code Data Result).Announces source data :=
  trivial

@[simp] theorem announced_read {view : Data → View} {next : View → Code Data Result}
    : (read view next).announced source data = (next (view data)).announced source data := by
  simp [read, announced]

@[simp] theorem announces_read {view : Data → View} {next : View → Code Data Result}
    : (read view next).Announces source data ↔ (next (view data)).Announces source data := by
  simp [read, Announces]

@[simp] theorem announced_write {change : Data → Data} {next : Code Data Result}
    : (write change next).announced source data
      = (source.sent (change data)).drop (source.sent data).length
        ++ next.announced source (change data) := rfl

/-- A write that sends nothing and changes nothing but what the rest of the code announces. -/
theorem announces_write_of_silent {change : Data → Data} {next : Code Data Result}
    (silent : source.sent (change data) = source.sent data)
    (announced : ∀ key, source.view (change data) key ≠ source.view data key
      → key ∈ next.announced source (change data))
    (rest : next.Announces source (change data))
    : (write change next).Announces source data :=
  ⟨silent ▸ List.prefix_refl _,
    fun key changed => List.mem_append_right _ (announced key changed), rest⟩

/-- A write that sends notifications and changes nothing to observe. -/
theorem announces_write_of_sends {change : Data → Data} {next : Code Data Result}
    (keys : List Key) (sends : source.sent (change data) = source.sent data ++ keys)
    (same : source.view (change data) = source.view data)
    (rest : next.Announces source (change data))
    : (write change next).Announces source data :=
  ⟨sends ▸ List.prefix_append _ _, fun _ changed => absurd (congrFun same _) changed, rest⟩

/-- A write that sends nothing and changes nothing to observe. -/
theorem announces_write_of_same {change : Data → Data} {next : Code Data Result}
    (silent : source.sent (change data) = source.sent data)
    (same : source.view (change data) = source.view data)
    (rest : next.Announces source (change data))
    : (write change next).Announces source data :=
  announces_write_of_silent silent (fun key changed => absurd (congrFun same key) changed) rest

end Code

/-- The calls with the observer: the values that it has seen last, and how many notifications it
has acted on.
-/
structure Mirrored (Thread : Type x) (Data : Type u) (Call : Type y) (Result : Type z)
    (Key : Type v) (Value : Type w)
    where
  guarded : Guarded Thread Data Call Result
  seen : Key → Option Value
  delivered : Nat

namespace Mirrored

variable {Thread : Type x} {Data : Type u} {Call : Type y} {Result : Type z} {Key : Type v}
  {Value : Type w}

/-- A step of a thread, or the observer acts on the next notification, or reads on its own. -/
inductive Event (Thread : Type x) (Call : Type y) (Key : Type v) where
  | move (label : Thread × Guarded.Move Call)
  | notify
  | read (key : Key)

section Steps

variable [DecidableEq Thread] [DecidableEq Key] (body : Call → Code Data Result)
  (source : Source Data Key Value)

/-- The observer reads what is under a key. -/
def look (state : Mirrored Thread Data Call Result Key Value) (key : Key)
    : Mirrored Thread Data Call Result Key Value :=
  {
    state with
    seen := Function.update state.seen key (some (source.view state.guarded.data key))
  }

/-- One event, if it can happen. -/
def advance (state : Mirrored Thread Data Call Result Key Value)
    : Event Thread Call Key → Option (Mirrored Thread Data Call Result Key Value)
  | .move label =>
      (Guarded.advance body state.guarded label).map (fun next => { state with guarded := next })
  | .notify =>
      (source.sent state.guarded.data)[state.delivered]?.map (fun key =>
        { state.look source key with delivered := state.delivered + 1 })
  | .read key => some (state.look source key)

/-- No thread has done anything, and the observer has read nothing. -/
structure Starts (initial : Data → Prop) (state : Mirrored Thread Data Call Result Key Value)
    : Prop where
  guarded : state.guarded.Starts initial
  seen : ∀ key, state.seen key = none
  delivered : state.delivered = 0

/-- All interleavings of the threads and the observer. -/
def system (initial : Data → Prop)
    : System (Mirrored Thread Data Call Result Key Value) (Event Thread Call Key) :=
  .ofFunction (Starts initial) (advance body source)

end Steps

/-- A thread that is about to lock the mutex has a call that the data allow. -/
def Admits (allowed : Data → Call → Prop) (state : Mirrored Thread Data Call Result Key Value)
    : Event Thread Call Key → Prop
  | .move label => state.guarded.Admits allowed label
  | _ => True

/-- The observer is still to act on a notification of a key: it was sent, or the call that is
under way is to send it.
-/
def Owed (source : Source Data Key Value) (state : Mirrored Thread Data Call Result Key Value)
    (key : Key)
    : Prop :=
  key ∈ (source.sent state.guarded.data).drop state.delivered
  ∨ ∃ thread call code,
      state.guarded.phase thread = .inside call code
      ∧ key ∈ code.announced source state.guarded.data

/-- The observer has acted on all notifications, and no call is under way. -/
structure Settled (source : Source Data Key Value)
    (state : Mirrored Thread Data Call Result Key Value)
    : Prop where
  free : state.guarded.mutex = none
  delivered : (source.sent state.guarded.data).length ≤ state.delivered

/-- Calls announce what they change, and the observer is owed what it has not seen. -/
structure Following (body : Call → Code Data Result) (source : Source Data Key Value)
    (initial : Data → Prop) (allowed : Data → Call → Prop)
    (state : Mirrored Thread Data Call Result Key Value)
    : Prop where
  atomic : state.guarded.Atomic body initial allowed
  announces
    : ∀ thread call code,
        state.guarded.phase thread = .inside call code
        → code.Announces source state.guarded.data
  delivered : state.delivered ≤ (source.sent state.guarded.data).length
  fresh
    : ∀ key value,
        state.seen key = some value
        → value = source.view state.guarded.data key ∨ state.Owed source key

variable {body : Call → Code Data Result} {source : Source Data Key Value}
  {initial : Data → Prop} {allowed : Data → Call → Prop}
  {state next : Mirrored Thread Data Call Result Key Value}

/-- Where everything is settled, the observer has seen what there is. -/
theorem Following.seen_of_settled (following : Following body source initial allowed state)
    (settled : state.Settled source) {key : Key} {value : Value}
    (seen : state.seen key = some value)
    : value = source.view state.guarded.data key := by
  rcases following.fresh key value seen with current | pending | ⟨thread, call, code, inside, -⟩
  · exact current
  · simp [List.drop_of_length_le settled.delivered] at pending
  · obtain ⟨_, _, -, -, located⟩ := following.atomic
    have held := located.holder thread call code inside
    exact absurd (held.symm.trans settled.free) (Option.some_ne_none thread)

section Preservation

variable [DecidableEq Thread] [DecidableEq Key]

omit [DecidableEq Thread] in
/-- The observer sees one more key. -/
theorem Following.look (following : Following body source initial allowed state) (key : Key)
    : Following body source initial allowed (state.look source key) where
  atomic := following.atomic
  announces := following.announces
  delivered := following.delivered
  fresh other value seen := by
    by_cases same : other = key
    · subst same
      simp only [Mirrored.look, Function.update_self] at seen
      exact .inl (Option.some.inj seen).symm
    · simp only [Mirrored.look, Function.update_of_ne same] at seen
      exact following.fresh other value seen

omit [DecidableEq Thread] in
/-- The observer acts on a notification. -/
theorem Following.notify (following : Following body source initial allowed state) {key : Key}
    (pending : (source.sent state.guarded.data)[state.delivered]? = some key)
    : Following body source initial allowed
        { state.look source key with delivered := state.delivered + 1 } where
  atomic := following.atomic
  announces := following.announces
  delivered := by
    obtain ⟨within, -⟩ := List.getElem?_eq_some_iff.mp pending
    exact within
  fresh other value seen := by
    rcases (following.look key).fresh other value seen with current | sent | owed
    · exact .inl current
    · obtain ⟨within, same⟩ := List.getElem?_eq_some_iff.mp pending
      have first := List.drop_eq_getElem_cons within
      rw [same] at first
      change other ∈ (source.sent state.guarded.data).drop state.delivered at sent
      rw [first, List.mem_cons] at sent
      rcases sent with rfl | later
      · simp only [Mirrored.look, Function.update_self] at seen
        exact .inl (Option.some.inj seen).symm
      · exact .inr (.inl later)
    · exact .inr (.inr owed)

omit [DecidableEq Key] in
/-- A thread waits for the mutex, or has locked it, and the data are the same. -/
theorem Following.goto (following : Following body source initial allowed state)
    {guarded : Guarded Thread Data Call Result} (thread : Thread)
    {phase : Phase Data Call Result}
    (atomic : guarded.Atomic body initial allowed)
    (phases : guarded.phase = Function.update state.guarded.phase thread phase)
    (same : guarded.data = state.guarded.data)
    (outside : ∀ call code, state.guarded.phase thread ≠ .inside call code)
    (announces : ∀ call code, phase = .inside call code → code.Announces source guarded.data)
    : Following body source initial allowed { state with guarded := guarded } where
  atomic := atomic
  announces other call code inside := by
    change guarded.phase other = .inside call code at inside
    rw [phases] at inside
    by_cases mine : other = thread
    · subst mine
      rw [Function.update_self] at inside
      exact announces call code inside
    · rw [Function.update_of_ne mine] at inside
      exact same ▸ following.announces other call code inside
  delivered := same ▸ following.delivered
  fresh key value seen := by
    rcases following.fresh key value seen with current | sent | ⟨other, call, code, inside, owed⟩
    · exact .inl (same ▸ current)
    · exact .inr (.inl (same ▸ sent))
    · refine .inr (.inr ⟨other, call, code, ?_, same ▸ owed⟩)
      have different : other ≠ thread := by
        rintro rfl
        exact outside call code inside
      change guarded.phase other = _
      rw [phases, Function.update_of_ne different, inside]

omit [DecidableEq Key] in
/-- What an access changes or announced before is announced by it or after it. -/
theorem Following.access (following : Following body source initial allowed state)
    {thread : Thread} {call : Call} {write : Data → Data} {rest : Data → Code Data Result}
    (inside : state.guarded.phase thread = .inside call (.access write rest))
    {guarded : Guarded Thread Data Call Result} (atomic : guarded.Atomic body initial allowed)
    (moved
      : guarded = {
          state.guarded.goto thread (.inside call (rest state.guarded.data)) with
          data := write state.guarded.data
        })
    : Following body source initial allowed { state with guarded := guarded } := by
  subst moved
  obtain ⟨_, _, -, -, located⟩ := following.atomic
  have mine (other : Thread) {inner : Call} {code : Code Data Result}
      (within : state.guarded.phase other = .inside inner code) : other = thread := by
    have held := located.holder other inner code within
    exact Option.some.inj (held.symm.trans (located.holder thread call _ inside))
  obtain ⟨kept, announced, further⟩ := following.announces thread call _ inside
  obtain ⟨added, kept⟩ := kept
  have announces {key : Key}
      (member : key ∈ (Code.access write rest).announced source state.guarded.data) :
      key ∈ (source.sent (write state.guarded.data)).drop state.delivered
        ∨ key ∈ (rest state.guarded.data).announced source (write state.guarded.data) := by
    refine (List.mem_append.mp member).imp_left (fun sent => ?_)
    rw [← kept, List.drop_left] at sent
    rw [← kept, List.drop_append_of_le_length following.delivered]
    exact List.mem_append_right _ sent
  refine ⟨atomic, ?_, ?_, ?_⟩
  · intro other inner code within
    by_cases same : other = thread
    · subst same
      have now : Phase.inside call (rest state.guarded.data) = .inside inner code := by
        simpa [Guarded.goto] using within
      obtain ⟨rfl, rfl⟩ := Phase.inside.inj now
      exact further
    · exact absurd (mine other (by simpa [Guarded.goto, same] using within)) same
  · have longer := congrArg List.length kept
    rw [List.length_append] at longer
    have fewer := following.delivered
    change state.delivered ≤ (source.sent (write state.guarded.data)).length
    omega
  · intro key value seen
    have owes
        (now : key ∈ (source.sent (write state.guarded.data)).drop state.delivered
          ∨ key ∈ (rest state.guarded.data).announced source (write state.guarded.data)) :
        Owed source {
          state with
          guarded := {
            state.guarded.goto thread (.inside call (rest state.guarded.data)) with
            data := write state.guarded.data
          }
        } key := by
      refine now.imp id (fun later => ?_)
      exact ⟨thread, call, rest state.guarded.data, by simp [Guarded.goto], later⟩
    rcases following.fresh key value seen with current | sent | ⟨other, inner, code, within, owed⟩
    · by_cases same : source.view (write state.guarded.data) key
          = source.view state.guarded.data key
      · exact .inl (current.trans same.symm)
      · exact .inr (owes (announces (announced key same)))
    · refine .inr (owes (.inl ?_))
      rw [← kept, List.drop_append_of_le_length following.delivered]
      exact List.mem_append_left _ sent
    · obtain rfl := mine other within
      obtain ⟨rfl, rfl⟩ := Phase.inside.inj (inside.symm.trans within)
      exact .inr (owes (announces owed))

omit [DecidableEq Key] in
/-- The call that is under way returns. -/
theorem Following.unlock (following : Following body source initial allowed state)
    {thread : Thread} {call : Call} {result : Result}
    (inside : state.guarded.phase thread = .inside call (.done result))
    {guarded : Guarded Thread Data Call Result} (atomic : guarded.Atomic body initial allowed)
    (phases : guarded.phase = Function.update state.guarded.phase thread .outside)
    (same : guarded.data = state.guarded.data)
    : Following body source initial allowed { state with guarded := guarded } := by
  obtain ⟨_, _, -, -, located⟩ := following.atomic
  have none (other : Thread) {inner : Call} {code : Code Data Result}
      (within : guarded.phase other = .inside inner code) : False := by
    rw [phases] at within
    by_cases mine : other = thread
    · subst mine
      simp at within
    · rw [Function.update_of_ne mine] at within
      have held := located.holder other inner code within
      exact mine (Option.some.inj (held.symm.trans (located.holder thread call _ inside)))
  refine ⟨atomic, fun other _ _ within => (none other within).elim, same ▸ following.delivered, ?_⟩
  intro key value seen
  rcases following.fresh key value seen with current | sent | ⟨other, inner, code, within, owed⟩
  · exact .inl (same ▸ current)
  · exact .inr (.inl (same ▸ sent))
  · have held := located.holder other inner code within
    obtain rfl := Option.some.inj (held.symm.trans (located.holder thread call _ inside))
    obtain ⟨rfl, rfl⟩ := Phase.inside.inj (inside.symm.trans within)
    simp at owed

/-- Every step keeps the observer following, if allowed calls announce what they change. -/
theorem Following.advance (following : Following body source initial allowed state)
    (announcing
      : ∀ data, state.guarded.mutex = none → state.guarded.data = data
          → ∀ call, allowed data call → (body call).Announces source data)
    {event : Event Thread Call Key} (admitted : state.Admits allowed event)
    (taken : Mirrored.advance body source state event = some next)
    : Following body source initial allowed next := by
  cases event with
  | read key =>
      obtain rfl := Option.some.inj taken
      exact following.look key
  | notify =>
      obtain ⟨key, pending, rfl⟩ := Option.map_eq_some_iff.mp taken
      exact following.notify pending
  | move label =>
      obtain ⟨guarded, moved, rfl⟩ := Option.map_eq_some_iff.mp taken
      have atomic := following.atomic.advance admitted moved
      obtain ⟨thread, move⟩ := label
      cases move with
      | call call =>
          simp only [Guarded.advance] at moved
          split at moved
          · rename_i outside
            obtain rfl := Option.some.inj moved
            refine following.goto thread atomic rfl rfl ?_ ?_
            · simp [outside]
            · intro inner code waits
              cases waits
          · cases moved
      | proceed =>
          simp only [Guarded.advance] at moved
          cases phase : state.guarded.phase thread with
          | outside =>
              rw [phase] at moved
              cases moved
          | waiting call =>
              rw [phase] at moved
              simp only [Guarded.proceed] at moved
              split at moved
              · cases moved
              · rename_i free
                obtain rfl := Option.some.inj moved
                refine following.goto thread atomic rfl rfl ?_ ?_
                · simp [phase]
                · intro inner code inside
                  obtain ⟨rfl, rfl⟩ := Phase.inside.inj inside
                  exact announcing _ free rfl call (admitted call rfl phase)
          | inside call code =>
              rw [phase] at moved
              cases code with
              | blocked => cases moved
              | access write rest =>
                  exact following.access phase atomic (Option.some.inj moved).symm
              | done result =>
                  obtain rfl := Option.some.inj moved
                  exact following.unlock phase atomic rfl rfl

/-- In every interleaving the observer follows, if allowed calls announce what they change. -/
theorem following {holds : Data → Prop}
    (invariant
      : ((Guarded.sequential body initial).restrict
          (fun data label => allowed data label.1)).Invariant holds)
    (announces
      : ∀ data call, holds data → allowed data call → (body call).Announces source data)
    (reached : ((system body source initial).restrict (Admits allowed)).Reachable state)
    : Following body source initial allowed state := by
  have kept
      : ((system body source initial
          : System (Mirrored Thread Data Call Result Key Value) _).restrict
            (Admits allowed)).Invariant (Following body source initial allowed) := {
    initial := by
      intro state starts
      refine ⟨Guarded.atomic (.initial starts.guarded), ?_, ?_, ?_⟩
      · intro thread call code inside
        rw [starts.guarded.phase] at inside
        cases inside
      · rw [starts.delivered]
        exact Nat.zero_le _
      · intro key value seen
        rw [starts.seen] at seen
        cases seen
    step := by
      intro state event next before taken
      refine before.advance ?_ taken.1 taken.2
      rintro _ free rfl call permitted
      exact announces _ call (Guarded.free_of_atomic before.atomic free invariant) permitted
  }
  exact kept.reachable reached

/-- Where all calls are allowed, the steps are not restricted. -/
theorem reachable_restrict (reached : (system body source initial).Reachable state)
    : ((system body source initial).restrict (Admits (fun _ _ => True))).Reachable state := by
  refine reached.restrict ?_
  intro state event
  cases event with
  | move => exact fun _ _ _ => trivial
  | notify | read => trivial

/-- Steps of threads are steps with an observer that does nothing. -/
theorem run_of_guarded {guarded finish : Guarded Thread Data Call Result}
    {labels : List (Thread × Guarded.Move Call)}
    (run : (Guarded.system body initial).Run guarded labels finish)
    (state : Mirrored Thread Data Call Result Key Value) (same : state.guarded = guarded)
    : (system body source initial).Run state (labels.map .move)
        { state with guarded := finish } := by
  induction run with
  | nil =>
      subst same
      exact .nil _
  | snoc _ last ih =>
      rw [List.map_append]
      refine ih.append (System.Run.single ?_)
      exact Option.map_eq_some_iff.mpr ⟨_, last, rfl⟩

variable (body source) in
/-- The observer can act on all notifications, by induction on how many there are left. -/
theorem exists_delivered (initial : Data → Prop)
    (state : Mirrored Thread Data Call Result Key Value)
    : ∃ count finish,
        (system body source initial).Run state (List.replicate count .notify) finish
        ∧ finish.guarded = state.guarded
        ∧ (source.sent finish.guarded.data).length ≤ finish.delivered := by
  induction left : (source.sent state.guarded.data).length - state.delivered
    generalizing state with
  | zero => exact ⟨0, state, .nil _, rfl, by omega⟩
  | succ left ih =>
      have within : state.delivered < (source.sent state.guarded.data).length := by omega
      let next : Mirrored Thread Data Call Result Key Value := {
        state.look source (source.sent state.guarded.data)[state.delivered] with
        delivered := state.delivered + 1
      }
      have taken : Mirrored.advance body source state .notify = some next :=
        Option.map_eq_some_iff.mpr ⟨_, List.getElem?_eq_getElem within, rfl⟩
      obtain ⟨count, finish, run, same, all⟩ := ih next (by simp only [next, look]; omega)
      refine ⟨count + 1, finish, ?_, same, all⟩
      rw [List.replicate_succ, ← List.singleton_append]
      exact (System.Run.single taken).append run

/-- If every call returns, then without any further call everything can be settled. -/
theorem Following.exists_settled (following : Following body source initial allowed state)
    {holds : Data → Prop}
    (invariant
      : ((Guarded.sequential body initial).restrict
          (fun data label => allowed data label.1)).Invariant holds)
    (returns : ∀ data call, holds data → allowed data call → ((body call).run data).isSome)
    : ∃ events finish,
        (∀ event ∈ events, event = .notify ∨ ∃ thread, event = .move (thread, .proceed))
        ∧ (system body source initial).Run state events finish
        ∧ finish.Settled source := by
  have unlocked
      : ∃ events middle,
          (∀ event ∈ events,
            event = Event.notify ∨ ∃ thread, event = Event.move (thread, .proceed))
          ∧ (system body source initial).Run state events middle
          ∧ middle.guarded.mutex = none := by
    cases held : state.guarded.mutex with
    | none => exact ⟨[], state, by simp, .nil _, held⟩
    | some thread =>
        obtain ⟨labels, finish, mine, run, -, free⟩ :=
          Guarded.exists_unlock following.atomic invariant returns held
        refine
          ⟨labels.map .move, { state with guarded := finish }, ?_, run_of_guarded run state rfl,
            free⟩
        intro event member
        obtain ⟨label, listed, rfl⟩ := List.mem_map.mp member
        exact .inr ⟨thread, congrArg Event.move (mine label listed)⟩
  obtain ⟨events, middle, moves, run, free⟩ := unlocked
  obtain ⟨count, finish, notified, same, all⟩ :=
    exists_delivered body source initial middle
  refine ⟨events ++ List.replicate count .notify, finish, ?_, run.append notified, ?_, all⟩
  · intro event member
    rcases List.mem_append.mp member with first | later
    · exact moves event first
    · exact .inl (List.eq_of_mem_replicate later)
  · exact same ▸ free

end Preservation

end Mirrored

end Aspl
