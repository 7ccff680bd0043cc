import Aspl.Device.Configuration
import Mathlib.Data.Set.Insert

/-! Where change functions run, for functions of any kind and for the empty one.
What it does to call a function is a parameter. A function may look at the device and change it in
any way, call its operations, throw, or not return.
-/

namespace Aspl.Device.EmptyChanges

universe u v w

/-- How a call ends: by returning, or with an exception. -/
inductive Ending (Exception : Type u) where
  | returned
  | badFunctionCall
  | threw (exception : Exception)
deriving DecidableEq

/-- What is left of a device, and how a call has ended. There is no result where the call does not
end, or where its behaviour is undefined.
-/
abbrev Result (Func : Type u) (State : Type v) (Exception : Type w) :=
  Option (World Func State × Ending Exception)

/-- What it does to a device to call a function. -/
abbrev Run (Func : Type u) (State : Type v) (Exception : Type w) :=
  Func → World Func State → Result Func State Exception

variable {Func : Type u} {State : Type v} {Exception : Type w}

-----------------------------------------------------------------------------------------
-- The operations
-----------------------------------------------------------------------------------------

section Operations

variable (run : Run Func State Exception)

/-- `Device::RequestConfigurationChange()`; the default argument is the empty function. -/
def requestConfigurationChange (func : Option Func) (world : World Func State)
    : Result Func State Exception :=
  if world.configuration.enqueues then
    some ({ world with configuration := world.configuration.enqueue func }, .returned)
  else
    match func with
    | some func => run func world
    | none => some (world, .badFunctionCall)

/-- `Device::PerformConfigurationChange()`: an exception passes the erasure and the end of the
handler.
-/
def performConfigurationChange (reqID : Nat) (world : World Func State)
    : Result Func State Exception :=
  let entered := { world with configuration := world.configuration.enterHandler }
  match entered.configuration.pendingConfigurationRequests.find? reqID with
  | some (some func) =>
      match run func entered with
      | some (after, .returned) =>
          some
            (
              {
                after with
                configuration := (after.configuration.erase reqID).leaveHandler
              },
              .returned
            )
      | thrown => thrown
  | _ =>
      some
        (
          {
            entered with
            configuration := (entered.configuration.erase reqID).leaveHandler
          },
          .returned
        )

/-- The loop of `RequestOwnershipChange()`, for so many rounds: an exception passes the erasure and
the rest. A function that erases its own entry leaves the loop with an iterator that is not valid.
-/
def applyPending : Nat → World Func State → Result Func State Exception
  | 0, world =>
      match world.configuration.pendingConfigurationRequests.min? with
      | none => some (world, .returned)
      | some _ => none
  | rounds + 1, world =>
      match world.configuration.pendingConfigurationRequests.min? with
      | none => some (world, .returned)
      | some (_, none) => some (world, .badFunctionCall)
      | some (reqID, some func) =>
          match run func world with
          | some (after, .returned) =>
              match after.configuration.pendingConfigurationRequests.find? reqID with
              | none => none
              | some _ =>
                  applyPending rounds
                    { after with configuration := after.configuration.erase reqID }
          | thrown => thrown

/-- `Device::RequestOwnershipChange()`, with so many rounds of its loop. -/
def requestOwnershipChange (rounds owner : Nat) (shouldHaveOwnership : Bool)
    (world : World Func State)
    : Result Func State Exception :=
  if shouldHaveOwnership then
    if world.configuration.hasOwner then
      some (world, .returned)
    else
      some ({ world with configuration := world.configuration.attachOwner owner }, .returned)
  else if !world.configuration.hasOwner then
    some (world, .returned)
  else
    applyPending run rounds
      { world with configuration := world.configuration.detachOwner owner }

end Operations

-----------------------------------------------------------------------------------------
-- All paths
-----------------------------------------------------------------------------------------

/-- The functions that wait, from lower to higher request IDs. -/
def waiting (world : World Func State) : List (Option Func) :=
  world.configuration.pendingConfigurationRequests.entries.map Prod.snd

/-- Every path gives these functions the same effects and outcomes, on every device, and does
nothing else to the device but what it is for: in place, through the host, and through the
detachment by the owner, which returns and leaves none of them waiting.
-/
structure PathsAlike (run : Run Func State Exception) (functions : Set (Option Func))
    (effect : Option Func → State → State × Ending Exception)
    : Prop where
  empty : none ∈ functions → ∀ state, effect none state = (state, .returned)
  inPlace
    : ∀ func ∈ functions, ∀ world,
        world.configuration.enqueues = false
        → requestConfigurationChange run func world
          = some ({ world with state := (effect func world.state).1 },
              (effect func world.state).2)
  performed
    : ∀ func ∈ functions, ∀ world reqID,
        world.configuration.pendingConfigurationRequests.find? reqID = some func
        → performConfigurationChange run reqID world
          = some
              (
                {
                  configuration := world.configuration.erase reqID
                  state := (effect func world.state).1
                },
                (effect func world.state).2
              )
  detached
    : ∀ world,
        (∀ func ∈ waiting world, func ∈ functions)
        → world.configuration.hasOwner = true
        → ∃ rounds,
            requestOwnershipChange run rounds world.configuration.ownerObjectID false world
            = some
                (
                  {
                    configuration :=
                      {
                        world.configuration.detachOwner world.configuration.ownerObjectID with
                        pendingConfigurationRequests := .empty
                      }
                    state :=
                      (waiting world).foldl (fun state func => (effect func state).1) world.state
                  },
                  .returned
                )

/-- Where requests run in place, a function returns, leaves the owner, the host and the requests
alone, and changes the rest in a way that depends on nothing but the rest.
-/
structure Undisturbed (run : Run Func State Exception) (func : Func) : Prop where
  returns
    : ∀ world : World Func State,
        world.configuration.enqueues = false
        → ∃ after, run func world = some (after, .returned)
  apart
    : ∀ world after ending,
        world.configuration.enqueues = false
        → run func world = some (after, ending)
        → after.configuration = world.configuration
  blind
    : ∀ first second firstAfter secondAfter firstEnding secondEnding,
        first.configuration.enqueues = false
        → second.configuration.enqueues = false
        → first.state = second.state
        → run func first = some (firstAfter, firstEnding)
        → run func second = some (secondAfter, secondEnding)
        → firstAfter.state = secondAfter.state

/-- What a function changes on a device that is not published. -/
def change (run : Run Func State Exception) (func : Func) (state : State) : State :=
  match run func { configuration := {}, state := state } with
  | some (after, _) => after.state
  | none => state

-----------------------------------------------------------------------------------------
-- Undisturbed functions
-----------------------------------------------------------------------------------------

section Undisturbed

variable {run : Run Func State Exception} {world : World Func State}

/-- Inside the handler requests run in place. -/
theorem enqueues_enterHandler (configuration : Configuration Func)
    : configuration.enterHandler.enqueues = false := by
  simp [Configuration.enqueues, Configuration.enterHandler]

/-- On a detached device requests run in place. -/
theorem enqueues_detachOwner (configuration : Configuration Func)
    : (configuration.detachOwner configuration.ownerObjectID).enqueues = false := by
  simp [Configuration.enqueues, Configuration.detachOwner, Configuration.hasOwner]

/-- An undisturbed function makes everywhere the change that it makes on a device that is not
published.
-/
theorem Undisturbed.run_eq {func : Func} (undisturbed : Undisturbed run func)
    (direct : world.configuration.enqueues = false)
    : run func world = some ({ world with state := change run func world.state }, .returned) := by
  obtain ⟨after, result⟩ := undisturbed.returns world direct
  obtain ⟨alone, unpublished⟩ :=
    undisturbed.returns { configuration := {}, state := world.state } rfl
  have configuration := undisturbed.apart world after .returned direct result
  have state : after.state = change run func world.state := by
    have inPlace : ({ configuration := {}, state := world.state }
        : World Func State).configuration.enqueues = false := rfl
    rw [change, unpublished]
    exact undisturbed.blind _ _ _ _ _ _ direct inPlace rfl result unpublished
  rw [result, ← configuration, ← state]

/-- An undisturbed function is requested as one that is only known by what it changes. -/
theorem Undisturbed.requestConfigurationChange {func : Func} (undisturbed : Undisturbed run func)
    (world : World Func State)
    : requestConfigurationChange run (some func) world
      = some ((Device.requestConfigurationChange (change run) (some func) world).1, .returned) := by
  cases direct : world.configuration.enqueues with
  | true =>
      rw [Device.requestConfigurationChange_enqueues direct]
      simp only [EmptyChanges.requestConfigurationChange, direct, if_true]
  | false =>
      rw [Device.requestConfigurationChange_inPlace direct]
      simp only [EmptyChanges.requestConfigurationChange, direct, Bool.false_eq_true, if_false]
      exact undisturbed.run_eq direct

/-- An undisturbed function is performed as one that is only known by what it changes. -/
theorem Undisturbed.performConfigurationChange {func : Func} (undisturbed : Undisturbed run func)
    {reqID : Nat}
    (stored
      : world.configuration.pendingConfigurationRequests.find? reqID = some (some func))
    : performConfigurationChange run reqID world
      = some (Device.performConfigurationChange (change run) reqID world, .returned) := by
  have found
      : world.configuration.enterHandler.pendingConfigurationRequests.find? reqID
        = some (some func) :=
    stored
  rw [Device.performConfigurationChange_some stored]
  simp only [EmptyChanges.performConfigurationChange, found]
  have entered : ({ world with configuration := world.configuration.enterHandler }
      : World Func State).configuration.enqueues = false :=
    enqueues_enterHandler _
  rw [undisturbed.run_eq entered]
  rfl

/-- The loop runs undisturbed functions as ones that are only known by what they change. Witness:
induction on the functions, one round for each.
-/
theorem applyPending_of_undisturbed {funcs : List (Nat × Func)}
    (undisturbed : ∀ entry ∈ funcs, Undisturbed run entry.2)
    (direct : world.configuration.enqueues = false)
    (stored
      : world.configuration.pendingConfigurationRequests.entries
        = funcs.map (fun entry => (entry.1, some entry.2)))
    : applyPending run funcs.length world
      = some ((Device.applyPending (change run) funcs.length world).1, .returned) := by
  induction funcs generalizing world with
  | nil =>
      have first : world.configuration.pendingConfigurationRequests.min? = none := by
        simp [OrderedMap.min?, stored]
      simp only [List.length_nil, applyPending, first, Device.applyPending]
  | cons entry rest ih =>
      obtain ⟨reqID, func⟩ := entry
      have first
          : world.configuration.pendingConfigurationRequests.min? = some (reqID, some func) := by
        simp [OrderedMap.min?, stored]
      have waits
          : world.configuration.pendingConfigurationRequests.find? reqID = some (some func) :=
        (OrderedMap.find?_eq_some_iff _).mpr (by simp [stored])
      have erased :=
        world.configuration.pendingConfigurationRequests.entries_erase_head stored
      simp only [List.length_cons, applyPending, Device.applyPending, first, waits,
        (undisturbed (reqID, func) List.mem_cons_self).run_eq direct]
      exact ih (fun other member => undisturbed other (List.mem_cons_of_mem _ member)) direct erased

/-- Undisturbed functions are drained as ones that are only known by what they change. -/
theorem requestOwnershipChange_of_undisturbed {funcs : List (Nat × Func)}
    (undisturbed : ∀ entry ∈ funcs, Undisturbed run entry.2)
    (stored
      : world.configuration.pendingConfigurationRequests.entries
        = funcs.map (fun entry => (entry.1, some entry.2)))
    (owned : world.configuration.hasOwner = true)
    : requestOwnershipChange run funcs.length world.configuration.ownerObjectID false world
      = some
          ((Device.requestOwnershipChange (change run) world.configuration.ownerObjectID false
            world).1, .returned) := by
  have rounds : world.configuration.pendingConfigurationRequests.size = funcs.length := by
    simp [OrderedMap.size, stored]
  simp only [requestOwnershipChange, Device.requestOwnershipChange, owned, rounds,
    Bool.false_eq_true, if_false, Bool.not_true]
  have detached : ({
        world with
        configuration := world.configuration.detachOwner world.configuration.ownerObjectID
      } : World Func State).configuration.enqueues = false :=
    enqueues_detachOwner _
  exact applyPending_of_undisturbed undisturbed detached stored

end Undisturbed

-----------------------------------------------------------------------------------------
-- Which functions are treated alike
-----------------------------------------------------------------------------------------

section Alike

variable {run : Run Func State Exception} {functions : Set (Option Func)}

/-- What undisturbed functions are meant to do, and the empty one. -/
def intended (run : Run Func State Exception) : Option Func → State → State × Ending Exception
  | some func, state => (change run func state, .returned)
  | none, state => (state, .returned)

/-- Functions none of which is empty. -/
theorem exists_funcs {entries : List (Nat × Option Func)}
    (nonempty
      : ∀ func ∈ entries.map Prod.snd, ∃ body, func = some body ∧ Undisturbed run body)
    : ∃ funcs : List (Nat × Func),
        entries = funcs.map (fun entry => (entry.1, some entry.2))
        ∧ ∀ entry ∈ funcs, Undisturbed run entry.2 := by
  induction entries with
  | nil => exact ⟨[], rfl, by simp⟩
  | cons entry rest ih =>
      obtain ⟨reqID, func⟩ := entry
      obtain ⟨funcs, same, undisturbed⟩ :=
        ih (fun func member => nonempty func (List.mem_cons_of_mem _ member))
      obtain ⟨body, rfl, first⟩ := nonempty func List.mem_cons_self
      refine ⟨(reqID, body) :: funcs, by rw [same]; rfl, fun other member => ?_⟩
      rcases List.mem_cons.mp member with rfl | later
      · exact first
      · exact undisturbed other later

/-- Undisturbed functions are treated alike. -/
theorem PathsAlike.of_undisturbed
    (undisturbed : ∀ func ∈ functions, ∃ body, func = some body ∧ Undisturbed run body)
    : PathsAlike run functions (intended run) where
  empty _ _ := rfl
  inPlace := by
    intro func member world direct
    obtain ⟨body, rfl, alone⟩ := undisturbed func member
    rw [alone.requestConfigurationChange, Device.requestConfigurationChange_inPlace direct]
    rfl
  performed := by
    intro func member world reqID stored
    obtain ⟨body, rfl, alone⟩ := undisturbed func member
    rw [alone.performConfigurationChange stored, Device.performConfigurationChange_some stored]
    rfl
  detached := by
    intro world among owned
    have nonempty : ∀ func ∈ waiting world, ∃ body, func = some body ∧ Undisturbed run body :=
      fun func member => undisturbed func (among func member)
    obtain ⟨funcs, stored, all⟩ := exists_funcs nonempty
    refine ⟨funcs.length, ?_⟩
    rw [requestOwnershipChange_of_undisturbed all stored owned,
      Device.requestOwnershipChange_detach owned stored, waiting, stored, List.map_map,
      List.foldl_map]
    rfl

variable {effect : Option Func → State → State × Ending Exception}

/-- The empty function is not treated alike: it throws in place, and does nothing through the host.
-/
theorem PathsAlike.nonempty [Inhabited State] (alike : PathsAlike run functions effect)
    : none ∉ functions := by
  intro empty
  have thrown := alike.inPlace none empty { configuration := {}, state := default } rfl
  rw [alike.empty empty] at thrown
  cases congrArg Prod.snd (Option.some.inj thrown)

/-- A function that is treated alike returns: an exception would leave the device inside the
handler, with the function stored still.
-/
theorem PathsAlike.returns (alike : PathsAlike run functions effect) {func : Func}
    (member : some func ∈ functions) (state : State)
    : (effect (some func) state).2 = .returned := by
  let stored : Configuration Func :=
    { pendingConfigurationRequests := OrderedMap.empty.insert 0 (some func) }
  have performed := alike.performed (some func) member { configuration := stored, state := state }
    0 rfl
  have entered := alike.inPlace (some func) member
    { configuration := stored.enterHandler, state := state } (enqueues_enterHandler _)
  have called
      : run func { configuration := stored.enterHandler, state := state }
        = some ({ configuration := stored.enterHandler, state := (effect (some func) state).1 },
            (effect (some func) state).2) := by
    rw [← entered]
    simp [requestConfigurationChange, enqueues_enterHandler]
  have found : stored.enterHandler.pendingConfigurationRequests.find? 0 = some (some func) := rfl
  simp only [performConfigurationChange, found, called] at performed
  cases ending : (effect (some func) state).2 with
  | returned => rfl
  | _ =>
      rw [ending] at performed
      have handler := congrArg
        (fun result => result.map (fun after => after.1.configuration.insideConfigurationHandler))
        performed
      cases handler

/-- A function that is treated alike is undisturbed. -/
theorem PathsAlike.undisturbed (alike : PathsAlike run functions effect) {func : Func}
    (member : some func ∈ functions)
    : Undisturbed run func := by
  have called {world : World Func State} (direct : world.configuration.enqueues = false) :
      run func world
        = some ({ world with state := (effect (some func) world.state).1 }, .returned) := by
    rw [← alike.returns member world.state, ← alike.inPlace (some func) member world direct]
    simp [requestConfigurationChange, direct]
  constructor
  · exact fun world direct => ⟨_, called direct⟩
  · intro world after ending direct result
    rw [called direct] at result
    obtain ⟨rfl, -⟩ := Prod.mk.inj (Option.some.inj result)
    rfl
  · intro first second firstAfter secondAfter _ _ direct directToo same result resultToo
    rw [called direct] at result
    rw [called directToo] at resultToo
    obtain ⟨rfl, -⟩ := Prod.mk.inj (Option.some.inj result)
    obtain ⟨rfl, -⟩ := Prod.mk.inj (Option.some.inj resultToo)
    exact congrArg (fun state => (effect (some func) state).1) same

end Alike

/-- The paths treat functions alike, on every device where such functions wait, exactly if none of
them is empty and all are undisturbed.
-/
theorem paths_alike_iff [Inhabited State] (run : Run Func State Exception)
    (functions : Set (Option Func))
    : (∃ effect, PathsAlike run functions effect)
      ↔ ∀ func ∈ functions, ∃ body, func = some body ∧ Undisturbed run body := by
  constructor
  · intro ⟨effect, alike⟩ func member
    cases func with
    | none => exact absurd member alike.nonempty
    | some body => exact ⟨body, rfl, alike.undisturbed member⟩
  · exact fun undisturbed => ⟨intended run, .of_undisturbed undisturbed⟩

-----------------------------------------------------------------------------------------
-- Scripts
-----------------------------------------------------------------------------------------

/-- What a function can see of a device besides the rest. -/
structure Sight where
  host : Bool
  ownerObjectID : Nat

/-- A function that is written down. After each step it goes on with what it sees then: the device,
the rest that it has just changed, or how the request that it made has ended. Where it does not
catch an exception it finishes with it.
-/
inductive Script (State : Type u) (Exception : Type v) where
  | finish (ending : Ending Exception)
  | look (next : Sight → Script State Exception)
  | change (step : State → State) (next : State → Script State Exception)
  | request (script : Script State Exception) (next : Ending Exception → Script State Exception)
  | requestEmpty (next : Ending Exception → Script State Exception)

namespace Script

/-- What a device shows. -/
def sight (configuration : Configuration Func) : Sight :=
  ⟨configuration.host, configuration.ownerObjectID⟩

/-- Call a script. The requests that it makes are calls of `RequestConfigurationChange()`. -/
def execute
    : Script State Exception
      → World (Script State Exception) State
      → World (Script State Exception) State × Ending Exception
  | .finish ending, world => (world, ending)
  | .look next, world => execute (next (sight world.configuration)) world
  | .change step next, world =>
      execute (next (step world.state)) { world with state := step world.state }
  | .request script next, world =>
      let requested :=
        if world.configuration.enqueues then
          ({ world with configuration := world.configuration.enqueue (some script) }, .returned)
        else
          execute script world
      execute (next requested.2) requested.1
  | .requestEmpty next, world =>
      if world.configuration.enqueues then
        execute (next .returned)
          { world with configuration := world.configuration.enqueue none }
      else
        execute (next .badFunctionCall) world

/-- Calls of scripts. -/
def run : Run (Script State Exception) State Exception :=
  fun script world => some (execute script world)

/-- What a script does by itself where the requests that it makes run in place. -/
def effect : Script State Exception → Sight → State → State × Ending Exception
  | .finish ending, _, state => (state, ending)
  | .look next, seen, state => effect (next seen) seen state
  | .change step next, seen, state => effect (next (step state)) seen (step state)
  | .request script next, seen, state =>
      let requested := effect script seen state
      effect (next requested.2) seen requested.1
  | .requestEmpty next, seen, state => effect (next .badFunctionCall) seen state

/-- Where requests run in place, a script changes nothing but the rest of the device, by induction
on the script: no step of it changes the configuration.
-/
theorem execute_inPlace (script : Script State Exception)
    (world : World (Script State Exception) State)
    (direct : world.configuration.enqueues = false)
    : execute script world
      = ({ world with state := (effect script (sight world.configuration) world.state).1 },
          (effect script (sight world.configuration) world.state).2) := by
  induction script generalizing world with
  | finish ending => rfl
  | look next ih => exact ih (sight world.configuration) world direct
  | change step next ih =>
      exact ih (step world.state) { world with state := step world.state } direct
  | request script next ihScript ihNext =>
      simp only [execute, direct, Bool.false_eq_true, if_false]
      rw [ihScript world direct]
      exact ihNext _
        { world with state := (effect script (sight world.configuration) world.state).1 } direct
  | requestEmpty next ih =>
      simp only [execute, direct, Bool.false_eq_true, if_false]
      exact ih .badFunctionCall world direct

/-- A script is undisturbed exactly if it returns whatever it sees, and has the same effect. -/
theorem undisturbed_iff (script : Script State Exception)
    : Undisturbed run script
      ↔ ∀ state, ∃ after, ∀ seen, effect script seen state = (after, .returned) := by
  constructor
  · intro undisturbed state
    refine ⟨EmptyChanges.change run script state, fun seen => ?_⟩
    -- inside the handler a script may see anything
    let world : World (Script State Exception) State := {
      configuration := {
        host := seen.host
        ownerObjectID := seen.ownerObjectID
        insideConfigurationHandler := 1
      }
      state := state
    }
    have direct : world.configuration.enqueues = false := by simp [world, Configuration.enqueues]
    have result := Option.some.inj (undisturbed.run_eq direct)
    rw [execute_inPlace script world direct] at result
    obtain ⟨after, ending⟩ := Prod.mk.inj result
    exact Prod.ext (congrArg World.state after) ending
  · intro same
    have called {world : World (Script State Exception) State}
        (direct : world.configuration.enqueues = false) {after : State}
        (all : ∀ seen, effect script seen world.state = (after, .returned)) :
        run script world = some ({ world with state := after }, .returned) := by
      rw [run, execute_inPlace script world direct, all]
    constructor
    · intro world direct
      obtain ⟨after, all⟩ := same world.state
      exact ⟨_, called direct all⟩
    · intro world after ending direct result
      obtain ⟨final, all⟩ := same world.state
      rw [called direct all] at result
      obtain ⟨rfl, -⟩ := Prod.mk.inj (Option.some.inj result)
      rfl
    · intro first second firstAfter secondAfter _ _ direct directToo equal result resultToo
      obtain ⟨final, all⟩ := same first.state
      rw [called direct all] at result
      rw [called directToo (equal ▸ all)] at resultToo
      obtain ⟨rfl, -⟩ := Prod.mk.inj (Option.some.inj result)
      obtain ⟨rfl, -⟩ := Prod.mk.inj (Option.some.inj resultToo)
      rfl

end Script

/-- A script that counts, and one that notes the owner. -/
def counts : Script Nat Empty := .change (· + 1) (fun _ => .finish .returned)

@[inherit_doc counts]
def notesOwner : Script Nat Empty :=
  .look (fun seen => .change (fun _ => seen.ownerObjectID) (fun _ => .finish .returned))

/-- Counting is treated alike; to note the owner is not, which the drain does after the device has
been detached.
-/
example : (∃ effect, PathsAlike Script.run {some counts} effect)
    ∧ ¬∃ effect, PathsAlike Script.run {some notesOwner} effect := by
  rw [paths_alike_iff, paths_alike_iff]
  constructor
  · rintro func rfl
    exact ⟨counts, rfl, (Script.undisturbed_iff counts).mpr (fun state => ⟨_, fun _ => rfl⟩)⟩
  · intro undisturbed
    obtain ⟨body, same, alone⟩ := undisturbed _ rfl
    obtain rfl := Option.some.inj same
    obtain ⟨after, all⟩ := (Script.undisturbed_iff notesOwner).mp alone 0
    have first : (1, _) = (after, _) := all ⟨true, 1⟩
    have second : (0, _) = (after, _) := all ⟨true, 0⟩
    cases first.trans second.symm

/-- A device that is not published, and a published one on which the default argument and then a
function that counts were enqueued.
-/
def unpublished : World (Script Nat Empty) Nat where
  configuration := {}
  state := 0

@[inherit_doc unpublished]
def emptyWaits : World (Script Nat Empty) Nat where
  configuration :=
    (({ host := true, ownerObjectID := 1 } : Configuration (Script Nat Empty)).enqueue
      none).enqueue (some counts)
  state := 0

/-- The default argument throws in place on an unpublished device; enqueued on a published one
it does nothing when the host performs it, but a detachment throws, with both functions still
waiting on the detached device.
-/
theorem empty_change_throws
    : (¬∃ effect, PathsAlike Script.run {none, some counts} effect)
      ∧ requestConfigurationChange Script.run none unpublished
        = some (unpublished, .badFunctionCall)
      ∧ (performConfigurationChange Script.run 0 emptyWaits).map Prod.snd = some .returned
      ∧ ∃ after,
          requestOwnershipChange Script.run 2 1 false emptyWaits = some (after, .badFunctionCall)
          ∧ after.configuration.hasOwner = false
          ∧ (waiting after).length = 2 := by
  refine ⟨?_, rfl, rfl, _, rfl, rfl, rfl⟩
  intro ⟨effect, alike⟩
  exact alike.nonempty (Set.mem_insert _ _)

end Aspl.Device.EmptyChanges
