import Aspl.Object.OwnershipRuns

/-! Adding an object to an owner goes through exactly if the object has no owner. The previous
owner that it may have is asked to remove it by a call that holds the mutexes of the new owner and
of the object, and that locks one of them again.
-/

namespace Aspl.Object

open CoreAudio

variable {state next : State} {owner object : Pointer}

/-- Adding an object returns, without waiting for a mutex that the call has locked, and leaves the
object in the map of that owner under that scope and nowhere else, with the ID of that owner.
-/
def Reparents (state : State) (owner object : Pointer) (scope : AudioObjectPropertyScope)
    : Prop :=
  ∃ next,
    state.addOwnedObject owner (some object) scope = .ok next
    ∧ Owns next owner object scope (next.getID object)
    ∧ (∀ other otherScope otherID,
        Owns next other object otherScope otherID → other = owner ∧ otherScope = scope)
    ∧ next.getOwnerID object = next.getID owner

/-- Objects have no owner when they are added, or are added to themselves. -/
def AddsUnowned (state : State) : Label → Prop
  | .addOwnedObject owner object _ =>
      ∀ added ∈ object, added = owner ∨ state.ownerObject added = none
  | _ => True

/-- The links between calls that all return: an owner that was not destroyed has what it owns. -/
structure Idle (state : State) : Prop extends Placed state where
  unlocked : state.locked = ∅
  notSelf : ∀ object, state.ownerObject object ≠ some object
  known : ∀ object owner, state.ownerObject object = some owner → owner < state.constructed
  linked
    : ∀ object owner,
        state.Live object → state.Live owner → state.ownerObject object = some owner
        → ∃ scope, Owns state owner object scope (state.getID object)

/-- References that are not in the map of an owner do not matter to the links. -/
theorem Idle.setHeld (idle : Idle state) (held : References Holder Pointer)
    : Idle { state with held := held } :=
  { idle with }

/-- Giving an object another owner, or none, by a call that returns keeps the links. -/
theorem Idle.relinks {link : Option Pointer} {scope : AudioObjectPropertyScope}
    (idle : Idle state) (relinks : Relinks state next object link scope)
    (liveObject : state.Live object) (liveOwner : ∀ owner ∈ link, state.Live owner)
    (notSelf : link ≠ some object)
    : Idle (next.setLocked state.locked) := by
  have placed : Placed (next.setLocked state.locked) :=
    { idle.toPlaced.relinks relinks liveObject with }
  refine ⟨placed, idle.unlocked, ?_, ?_, ?_⟩
  · intro other
    rw [State.ownerObject_setLocked, relinks.ownerObject]
    split
    · rename_i same
      exact same ▸ notSelf
    · exact idle.notSelf other
  · intro other owner linked
    rw [State.ownerObject_setLocked, relinks.ownerObject] at linked
    have created : (next.setLocked state.locked).constructed = state.constructed :=
      relinks.constructed
    rw [created]
    split at linked
    · exact idle.fresh owner (liveOwner owner linked)
    · exact idle.known other owner linked
  · intro other owner live liveOwner linked
    have live := (relinks.live other).mp live
    have liveOwner := (relinks.live owner).mp liveOwner
    rw [State.ownerObject_setLocked, relinks.ownerObject] at linked
    rw [State.getID_setLocked, relinks.getID]
    split at linked
    · rename_i same
      refine ⟨scope, (relinks.owns _ _ _ _).mpr ?_⟩
      rw [if_pos same, same]
      exact ⟨linked, rfl, rfl⟩
    · rename_i different
      obtain ⟨otherScope, entry⟩ := idle.linked other owner live liveOwner linked
      refine ⟨otherScope, (relinks.owns _ _ _ _).mpr ?_⟩
      rw [if_neg different]
      exact entry

/-- Constructing an object keeps the links. -/
theorem Idle.construct {objectID : AudioObjectID} {isInstance : AudioClassID → Bool}
    (idle : Idle state) (enabled : Enabled state (.construct objectID isInstance))
    : Idle (state.construct objectID isInstance) := by
  have unused := idle.unused
  refine ⟨idle.toPlaced.construct enabled, idle.unlocked, ?_, ?_, ?_⟩
  · intro other
    rw [ownerObject_construct unused]
    exact idle.notSelf other
  · intro other owner link
    rw [ownerObject_construct unused] at link
    exact (idle.known other owner link).trans (Nat.lt_succ_self _)
  · intro other owner live liveOwner link
    rw [ownerObject_construct unused] at link
    have attached : state.Live other := by
      by_contra dead
      rw [State.ownerObject, State.find?_of_not_live dead] at link
      cases link
    rcases State.live_construct.mp liveOwner with rfl | liveOwner
    · exact absurd (idle.known other _ link) (Nat.lt_irrefl _)
    · obtain ⟨scope, entry⟩ := idle.linked other owner attached liveOwner link
      refine ⟨scope, (owns_construct unused _ _ _ _).mpr ?_⟩
      rw [idle.getID_construct attached]
      exact entry

/-- Destroying an object without references keeps the links. -/
theorem Idle.destroy (idle : Idle state) (unreferenced : state.useCount object = 0)
    : Idle (state.destroy object) := by
  have linkedBefore : ∀ other owner, (state.destroy object).ownerObject other = some owner
      → other ≠ object ∧ state.ownerObject other = some owner := by
    intro other owner link
    have different : other ≠ object := by
      rintro rfl
      rw [State.ownerObject, State.find?_destroy, if_pos rfl] at link
      cases link
    have same : (state.destroy object).ownerObject other = state.ownerObject other :=
      State.read_destroy Fields.ownerObject _ different
    exact ⟨different, same.symm.trans link⟩
  refine ⟨idle.toPlaced.destroy unreferenced, idle.unlocked, ?_, ?_, ?_⟩
  · intro other link
    exact idle.notSelf other (linkedBefore other other link).2
  · intro other owner link
    exact idle.known other owner (linkedBefore other owner link).2
  · intro other owner live liveOwner link
    obtain ⟨different, link⟩ := linkedBefore other owner link
    obtain ⟨ownerDifferent, liveOwner⟩ := State.live_destroy.mp liveOwner
    obtain ⟨scope, entry⟩ :=
      idle.linked other owner (State.live_destroy.mp live).2 liveOwner link
    have sameMap : (state.destroy object).ownedObjects owner = state.ownedObjects owner :=
      State.read_destroy Fields.ownedObjects _ ownerDifferent
    have sameID : (state.destroy object).getID other = state.getID other :=
      State.read_destroy Fields.objectID _ different
    refine ⟨scope, ?_⟩
    rw [Owns, sameMap, sameID]
    exact entry

/-- Before any object is constructed there are no links. -/
theorem idle_of_initial (start : system.initial state) : Idle state := by
  obtain ⟨empty, unlocked, -⟩ := start
  have unlinked : ∀ object, state.ownerObject object = none := by
    intro object
    rw [State.ownerObject, empty]
    rfl
  refine ⟨(sound_of_empty empty).toPlaced, unlocked, ?_, ?_, ?_⟩
  · intro object link
    rw [unlinked] at link
    cases link
  · intro object owner link
    rw [unlinked] at link
    cases link
  · intro object owner _ _ link
    rw [unlinked] at link
    cases link

/-- Adding no object, or an owner to itself, changes nothing. -/
theorem addOwnedObject_of_skipped {added? : Option Pointer} (scope : AudioObjectPropertyScope)
    (live : state.Live owner) (unlocked : owner ∉ state.locked)
    (skipped : ∀ object ∈ added?, object = owner)
    : state.addOwnedObject owner added? scope = .ok state := by
  rcases lock_cases live with ⟨isLocked, -⟩ | ⟨-, taken⟩
  · exact absurd isLocked unlocked
  have restored : (state.setLocked (insert owner state.locked)).unlock owner = state := by
    rw [State.unlock, State.locked_setLocked, Finset.erase_insert unlocked,
      State.setLocked_setLocked]
    rfl
  rw [State.addOwnedObject, taken]
  cases added? with
  | none => simp only [bind, Except.bind, pure, Except.pure, restored]
  | some object =>
      simp only [bind, Except.bind, pure, Except.pure]
      rw [if_pos (skipped object rfl), restored]

/-- Removing an ID that is not owned returns with nothing changed. -/
theorem removeOwnedObject_of_absent {objectID : AudioObjectID} (live : state.Live owner)
    (unlocked : owner ∉ state.locked)
    (absent : (state.ownedObjects owner).findInner? objectID = none)
    : state.removeOwnedObject owner objectID = .ok state := by
  rcases lock_cases live with ⟨isLocked, -⟩ | ⟨-, taken⟩
  · exact absurd isLocked unlocked
  rw [State.removeOwnedObject, taken]
  simp only [bind, Except.bind, pure, Except.pure, State.ownedObjects_setLocked, absent,
    State.unlock, State.locked_setLocked, Finset.erase_insert unlocked,
    State.setLocked_setLocked]
  rfl

/-- Every call of a run that adds objects without owners only returns and keeps the links. -/
theorem Idle.perform (idle : Idle state) {label : Label} (enabled : Enabled state label)
    (adds : AddsUnowned state label)
    : ∃ next, perform state label = .ok next ∧ Idle next := by
  have unlocked : ∀ object, object ∉ state.locked := by simp [idle.unlocked]
  cases label with
  | construct objectID isInstance => exact ⟨_, rfl, idle.construct enabled⟩
  | copy object => exact ⟨_, rfl, idle.setHeld _⟩
  | drop object => exact ⟨_, rfl, idle.setHeld _⟩
  | addOwnedObject owner added? scope =>
      obtain ⟨live, liveObjects⟩ := enabled
      by_cases skipped : ∀ object ∈ added?, object = owner
      · have same := addOwnedObject_of_skipped scope live (unlocked owner) skipped
        exact ⟨state, by rw [Object.perform, same]; rfl, idle⟩
      · obtain ⟨object, given, different⟩ := by simpa using skipped
        subst given
        have unlinked := (adds object rfl).resolve_left different
        have liveObject := liveObjects object rfl
        have isAdded := addOwnedObject_of_free scope live liveObject (unlocked owner)
          (by simp [idle.unlocked, different]) unlinked
        refine ⟨_, by rw [Object.perform, isAdded]; rfl, ?_⟩
        refine idle.relinks (idle.relinks_added live liveObject unlinked scope) liveObject ?_ ?_
        · intro _ same
          exact Option.some.inj same ▸ live
        · exact fun same => different (Option.some.inj same).symm
  | removeOwnedObject owner objectID =>
      cases found : (state.ownedObjects owner).findInner? objectID with
      | none =>
          have same := removeOwnedObject_of_absent enabled (unlocked owner) found
          exact ⟨state, by rw [Object.perform, same]; rfl, idle⟩
      | some entry =>
          obtain ⟨scope, object⟩ := entry
          have stored := NestedMap.lookup_of_findInner? found
          obtain ⟨liveObject, -, link⟩ := idle.entry owner object scope objectID stored
          have different : object ≠ owner := fun same => idle.notSelf object (same ▸ link)
          have isRemoved := removeOwnedObject_of_free enabled liveObject (unlocked owner)
            (by simp [idle.unlocked, different]) found
          refine ⟨_, by rw [Object.perform, isRemoved]; rfl, ?_⟩
          exact idle.relinks (idle.relinks_removed stored) liveObject nofun nofun

/-- In every run that adds objects without owners only, calls return and the links are kept. -/
theorem idle_of_reachable (reached : (system.restrict AddsUnowned).Reachable state)
    : Idle state := by
  have invariant : (system.restrict AddsUnowned).Invariant Idle := by
    refine ⟨fun _ start => idle_of_initial start, ?_⟩
    rintro state label next idle ⟨adds, enabled, leads⟩
    obtain ⟨after, result, idleAfter⟩ := idle.perform enabled adds
    rw [result] at leads
    obtain rfl := leads
    exact State.collect_preserves (fun _ _ idle _ unreferenced => idle.destroy unreferenced) _
      idleAfter
  exact invariant.reachable reached

-----------------------------------------------------------------------------------------
-- Adding an object
-----------------------------------------------------------------------------------------

/-- An object that no owner has is in the map of the owner that it is added to. -/
theorem Idle.reparents_of_unowned (idle : Idle state) (live : state.Live owner)
    (liveObject : state.Live object) (different : object ≠ owner)
    (scope : AudioObjectPropertyScope) (unlinked : state.ownerObject object = none)
    : Reparents state owner object scope := by
  have isAdded := addOwnedObject_of_free scope live liveObject (by simp [idle.unlocked])
    (by simp [idle.unlocked, different]) unlinked
  have relinks := idle.relinks_added live liveObject unlinked scope
  refine ⟨_, isAdded, ?_, ?_, ?_⟩
  · refine (relinks.owns _ _ _ _).mpr ?_
    rw [if_pos rfl]
    exact ⟨rfl, rfl, relinks.getID object⟩
  · intro other otherScope otherID entry
    have entry := (relinks.owns _ _ _ _).mp entry
    rw [if_pos rfl] at entry
    exact ⟨(Option.some.inj entry.1).symm, entry.2.1⟩
  · refine (relinks.getOwnerID object).trans ?_
    rw [if_pos rfl]
    exact (relinks.getID owner).symm

/-- Adding an object whose owner was destroyed has no defined behaviour. -/
theorem addOwnedObject_of_dangling {previous : Pointer} (scope : AudioObjectPropertyScope)
    (live : state.Live owner) (liveObject : state.Live object) (unlocked : state.locked = ∅)
    (different : object ≠ owner) (link : state.ownerObject object = some previous)
    (destroyed : ¬state.Live previous)
    : state.addOwnedObject owner (some object) scope = .error .undefined := by
  refine addOwnedObject_of_error live (by simp [unlocked]) different ?_
  generalize (state.ownedObjects owner).assign scope (state.getID object) object = assigned
  let during := (state.setOwnedObjects owner assigned).setLocked (insert owner state.locked)
  have liveDuring : during.Live object := (State.live_setOwnedObjects assigned).mpr liveObject
  have linked : during.ownerObject object = some previous :=
    (State.ownerObject_setOwnedObjects _).trans link
  rcases lock_cases liveDuring with ⟨isLocked, -⟩ | ⟨-, taken⟩
  · rw [State.locked_setLocked, unlocked] at isLocked
    exact absurd (Finset.mem_singleton.mp isLocked) different
  · rw [State.attachOwner, taken]
    simp only [bind, Except.bind, State.ownerObject_setLocked, linked]
    have gone : ¬((during.setLocked (insert object during.locked)).objects.find?
        previous).isSome = true :=
      fun live => destroyed ((State.live_setOwnedObjects assigned).mp live)
    rw [State.removeOwnedObject, State.lock, if_pos (by simpa using gone)]
    rfl

/-- Adding an object that has an owner does not return. -/
theorem Idle.addOwnedObject_of_linked {previous : Pointer} (idle : Idle state)
    (scope : AudioObjectPropertyScope) (live : state.Live owner)
    (liveObject : state.Live object) (different : object ≠ owner)
    (link : state.ownerObject object = some previous)
    : ∃ stop, state.addOwnedObject owner (some object) scope = .error stop := by
  by_cases livePrevious : state.Live previous
  · obtain ⟨otherScope, stored⟩ := idle.linked object previous liveObject livePrevious link
    obtain ⟨next, blocked⟩ :=
      idle.addOwnedObject_waits scope live liveObject different link stored
    exact ⟨_, blocked⟩
  · exact ⟨_, addOwnedObject_of_dangling scope live liveObject idle.unlocked different link
      livePrevious⟩

/-- In every state that a run reaches in which objects are added that have no owner, adding an
object to another one goes through exactly if the object has no owner.
-/
theorem reparents_iff (reached : (system.restrict AddsUnowned).Reachable state)
    (live : state.Live owner) (liveObject : state.Live object) (different : object ≠ owner)
    (scope : AudioObjectPropertyScope)
    : Reparents state owner object scope ↔ state.ownerObject object = none := by
  have idle := idle_of_reachable reached
  constructor
  · rintro ⟨next, returns, -⟩
    cases link : state.ownerObject object with
    | none => rfl
    | some previous =>
        obtain ⟨stop, fails⟩ :=
          idle.addOwnedObject_of_linked scope live liveObject different link
        rw [fails] at returns
        cases returns
  · exact idle.reparents_of_unowned live liveObject different scope

/-- The second of two new objects can be added to the first one. -/
theorem reparents_new_object
    : ∃ state : State, Reparents state 0 1 kAudioObjectPropertyScopeOutput := by
  have start : (system.restrict AddsUnowned).Reachable noObjects := .initial ⟨rfl, rfl, rfl⟩
  have owner := start.step (.construct 5 fun _ => true) ⟨trivial, ⟨by decide, by decide⟩, rfl⟩
  have object := owner.step (.construct 7 fun _ => true) ⟨trivial, ⟨by decide, by decide⟩, rfl⟩
  exact ⟨_, (@reparents_iff _ 0 1 object rfl rfl (by decide) _).mpr rfl⟩

/-- An object that is added to its owner a second time makes the call wait for its own mutex. -/
theorem reparenting_waits
    : ¬∀ (state : State) (owner object : Pointer) (scope : AudioObjectPropertyScope),
        system.Reachable state → state.Live owner → state.Live object → object ≠ owner
        → Reparents state owner object scope := by
  intro alwaysReparents
  have start : system.Reachable noObjects := .initial ⟨rfl, rfl, rfl⟩
  have owner := start.step (.construct 5 fun _ => true) ⟨⟨by decide, by decide⟩, rfl⟩
  have object := owner.step (.construct 7 fun _ => true) ⟨⟨by decide, by decide⟩, rfl⟩
  have added := object.step (.addOwnedObject 0 (some 1) kAudioObjectPropertyScopeOutput)
    ⟨⟨rfl, ?_⟩, rfl⟩
  · obtain ⟨next, returns, -⟩ :=
      alwaysReparents _ 0 1 kAudioObjectPropertyScopeOutput added rfl rfl (by decide)
    cases returns
  · rintro _ ⟨⟩
    rfl

end Aspl.Object
