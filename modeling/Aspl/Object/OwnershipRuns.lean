import Aspl.Object.OwnershipLinks

/-! In every run both ends of the links between owners and what they own agree, if no owner is
destroyed while an object that it owns lives on and no object is added that has an owner already.
-/

namespace Aspl.Object

open CoreAudio

/-- An object may be added that has no owner, or if that changes nothing: to itself, to an owner
that is locked for good, or under the scope that it has in the owner's map.
-/
def Addable (state : State) (owner object : Pointer) (scope : AudioObjectPropertyScope) : Prop :=
  object = owner ∨ owner ∈ state.locked
  ∨ Owns state owner object scope (state.getID object)
  ∨ (state.hasOwner object = false ∧ object ∉ state.locked)

/-- No step destroys an owner of an object that lives on, or adds an object that has an owner. -/
def Permitted (state : State) : Label → Prop
  | .drop object => Releasable state object
  | .addOwnedObject owner object scope => ∀ added ∈ object, Addable state owner added scope
  | .removeOwnedObject owner objectID =>
      owner ∈ state.locked
      ∨ ∀ scope object,
          (state.ownedObjects owner).findInner? objectID = some (scope, object)
          → object ∈ state.locked ∨ Releasable state object
  | .construct _ _ | .copy _ => True

variable {state next : State} {owner object : Pointer}

/-- The objects are as before, and no reference has been released. -/
structure Keeps (state next : State) : Prop where
  objects : next.objects = state.objects
  constructed : next.constructed = state.constructed
  held : state.held ≤ next.held

/-- A call that returns leaves the objects as they were or changes them in one way, and one that
does not return has changed none.
-/
def Ends (state : State) (changed : State) : Outcome → Prop
  | .ok next => Keeps state next ∨ ∃ locked, next = changed.setLocked locked
  | .error (.blocked next) => Keeps state next
  | .error .undefined => False

theorem Keeps.refl (state : State) : Keeps state state := ⟨rfl, rfl, le_refl _⟩

/-- The locals of a call do not matter to how it ends. -/
theorem Ends.keeping {changed : State} {outcome : Outcome} (ends : Ends state changed outcome)
    (locals : List Pointer)
    : Ends state changed (State.keeping locals outcome) := by
  cases outcome with
  | ok next => exact ends
  | error stop =>
      cases stop with
      | blocked next =>
          exact ⟨ends.objects, ends.constructed, ends.held.trans (Multiset.le_add_right _ _)⟩
      | undefined => exact ends

/-- Locking an object that exists waits, or locks it. -/
theorem lock_cases (live : state.Live object)
    : (object ∈ state.locked ∧ state.lock object = .error (.blocked state))
      ∨ (object ∉ state.locked
        ∧ state.lock object = .ok (state.setLocked (insert object state.locked))) := by
  have present : ¬(state.objects.find? object).isNone = true :=
    fun none => Option.isSome_iff_ne_none.mp live (Option.isNone_iff_eq_none.mp none)
  rw [State.lock, if_neg present]
  by_cases isLocked : object ∈ state.locked
  · exact Or.inl ⟨isLocked, if_pos isLocked⟩
  · exact Or.inr ⟨isLocked, if_neg isLocked⟩

theorem detachOwner_cases (live : state.Live object)
    : (object ∈ state.locked ∧ state.detachOwner object = .error (.blocked state))
      ∨ (object ∉ state.locked
        ∧ state.detachOwner object
          = .ok ((state.setOwner object none kAudioObjectUnknown).setLocked state.locked)) := by
  rcases lock_cases live with ⟨isLocked, blocked⟩ | ⟨unlocked, taken⟩
  · refine Or.inl ⟨isLocked, ?_⟩
    rw [State.detachOwner, blocked]
    rfl
  · refine Or.inr ⟨unlocked, ?_⟩
    rw [State.detachOwner, taken]
    simp only [bind, Except.bind, State.unlock, State.setOwner_setLocked,
      State.setLocked_setLocked, State.locked_setLocked, Finset.erase_insert unlocked]
    rfl

/-- Removing an ID that is not owned changes nothing. -/
theorem removeOwnedObject_of_none {objectID : AudioObjectID} (live : state.Live owner)
    (absent : (state.ownedObjects owner).findInner? objectID = none)
    : Ends state state (state.removeOwnedObject owner objectID) := by
  rcases lock_cases live with ⟨-, blocked⟩ | ⟨-, taken⟩
  · rw [State.removeOwnedObject, blocked]
    exact Keeps.refl state
  · rw [State.removeOwnedObject, taken]
    simp only [bind, Except.bind, State.ownedObjects_setLocked, absent]
    exact Or.inl ⟨rfl, rfl, le_refl _⟩

/-- Removing an owned object whose mutex and whose owner's mutex are free. -/
theorem removeOwnedObject_of_free {scope : AudioObjectPropertyScope} {objectID : AudioObjectID}
    (live : state.Live owner) (liveObject : state.Live object) (unlocked : owner ∉ state.locked)
    (free : object ∉ insert owner state.locked)
    (found : (state.ownedObjects owner).findInner? objectID = some (scope, object))
    : state.removeOwnedObject owner objectID
      = .ok ((removed state owner object scope objectID).setLocked state.locked) := by
  rcases lock_cases live with ⟨isLocked, -⟩ | ⟨-, taken⟩
  · exact absurd isLocked unlocked
  rw [State.removeOwnedObject, taken]
  simp only [bind, Except.bind, State.ownedObjects_setLocked, found]
  have liveObject := (State.live_setLocked (insert owner state.locked)).mpr liveObject
  rcases detachOwner_cases liveObject with ⟨isLocked, -⟩ | ⟨-, detached⟩
  · exact absurd isLocked free
  · rw [detached]
    simp only [State.keeping, pure, Except.pure, State.setOwner_setLocked,
      State.setOwnedObjects_setLocked, State.unlock, State.setLocked_setLocked,
      State.locked_setLocked, Finset.erase_insert unlocked]
    rfl

/-- Removing an owned object whose mutex is locked waits. -/
theorem removeOwnedObject_of_locked {scope : AudioObjectPropertyScope}
    {objectID : AudioObjectID} (live : state.Live owner) (liveObject : state.Live object)
    (isLocked : object ∈ insert owner state.locked)
    (found : (state.ownedObjects owner).findInner? objectID = some (scope, object))
    : ∃ next, state.removeOwnedObject owner objectID = .error (.blocked next)
        ∧ Keeps state next := by
  rcases lock_cases live with ⟨-, blocked⟩ | ⟨-, taken⟩
  · rw [State.removeOwnedObject, blocked]
    exact ⟨state, rfl, Keeps.refl state⟩
  rw [State.removeOwnedObject, taken]
  simp only [bind, Except.bind, State.ownedObjects_setLocked, found]
  have liveObject := (State.live_setLocked (insert owner state.locked)).mpr liveObject
  rcases detachOwner_cases liveObject with ⟨-, blocked⟩ | ⟨free, -⟩
  · rw [blocked]
    exact ⟨_, rfl, rfl, rfl, Multiset.le_add_right _ _⟩
  · exact absurd isLocked free

/-- Removing an owned object waits without having changed anything, or removes it. -/
theorem removeOwnedObject_of_some {scope : AudioObjectPropertyScope} {objectID : AudioObjectID}
    (live : state.Live owner) (liveObject : state.Live object)
    (found : (state.ownedObjects owner).findInner? objectID = some (scope, object))
    : Ends state state (state.removeOwnedObject owner objectID)
      ∨ (owner ∉ state.locked ∧ object ∉ state.locked ∧ object ≠ owner
        ∧ Ends state (removed state owner object scope objectID)
            (state.removeOwnedObject owner objectID)) := by
  by_cases isLocked : object ∈ insert owner state.locked
  · obtain ⟨next, blocked, kept⟩ := removeOwnedObject_of_locked live liveObject isLocked found
    rw [blocked]
    exact Or.inl kept
  by_cases unlocked : owner ∈ state.locked
  · rcases lock_cases live with ⟨-, blocked⟩ | ⟨free, -⟩
    · rw [State.removeOwnedObject, blocked]
      exact Or.inl (Keeps.refl state)
    · exact absurd unlocked free
  · rw [removeOwnedObject_of_free live liveObject unlocked isLocked found]
    rw [Finset.mem_insert, not_or] at isLocked
    exact Or.inr ⟨unlocked, isLocked.2, isLocked.1, Or.inr ⟨_, rfl⟩⟩

/-- Attaching an owner to an object that has none. -/
theorem attachOwner_of_none (owner : Pointer) (live : state.Live object)
    (unlocked : object ∉ state.locked) (unowned : state.ownerObject object = none)
    : state.attachOwner object owner
      = .ok ((state.setOwner object (some owner) (state.getID owner)).setLocked
          state.locked) := by
  rcases lock_cases live with ⟨isLocked, -⟩ | ⟨-, taken⟩
  · exact absurd isLocked unlocked
  · rw [State.attachOwner, taken]
    simp only [bind, Except.bind, State.ownerObject_setLocked, unowned, pure, Except.pure,
      State.unlock, State.setOwner_setLocked, State.setLocked_setLocked, State.getID_setLocked,
      State.locked_setLocked, Finset.erase_insert unlocked]

/-- Attaching an object that has an owner waits: the mutex of that owner is locked, or that owner
has the object and waits for the object's own mutex.
-/
theorem attachOwner_of_some {previous : Pointer} (owner : Pointer) (live : state.Live object)
    (livePrevious : state.Live previous) (link : state.ownerObject object = some previous)
    (waits
      : previous ∈ state.locked
        ∨ ∃ scope,
            (state.ownedObjects previous).findInner? (state.getID object) = some (scope, object))
    : ∃ next, state.attachOwner object owner = .error (.blocked next) ∧ Keeps state next := by
  rcases lock_cases live with ⟨-, blocked⟩ | ⟨-, taken⟩
  · rw [State.attachOwner, blocked]
    exact ⟨state, rfl, Keeps.refl state⟩
  rw [State.attachOwner, taken]
  simp only [bind, Except.bind, State.ownerObject_setLocked, link, State.getID_setLocked]
  have livePrevious := (State.live_setLocked (insert object state.locked)).mpr livePrevious
  rcases waits with isLocked | ⟨scope, found⟩
  · rcases lock_cases livePrevious with ⟨-, blocked⟩ | ⟨unlocked, -⟩
    · rw [State.removeOwnedObject, blocked]
      exact ⟨_, rfl, rfl, rfl, le_refl _⟩
    · exact absurd (Finset.mem_insert_of_mem isLocked) unlocked
  · obtain ⟨next, blocked, kept⟩ := removeOwnedObject_of_locked livePrevious
      ((State.live_setLocked (insert object state.locked)).mpr live)
      (Finset.mem_insert_of_mem (Finset.mem_insert_self object state.locked)) found
    rw [blocked]
    exact ⟨next, rfl, kept.objects, kept.constructed, kept.held⟩

/-- Adding an object without an owner, when its mutex and the owner's are free. -/
theorem addOwnedObject_of_free (scope : AudioObjectPropertyScope) (live : state.Live owner)
    (liveObject : state.Live object) (unlocked : owner ∉ state.locked)
    (free : object ∉ insert owner state.locked) (unlinked : state.ownerObject object = none)
    : state.addOwnedObject owner (some object) scope
      = .ok ((added state owner object scope).setLocked state.locked) := by
  rcases lock_cases live with ⟨isLocked, -⟩ | ⟨-, taken⟩
  · exact absurd isLocked unlocked
  rw [State.addOwnedObject, taken]
  simp only [bind, Except.bind, State.ownedObjects_setLocked, State.getID_setLocked,
    State.setOwnedObjects_setLocked]
  rw [if_neg (fun self => free (Finset.mem_insert.mpr (Or.inl self)))]
  generalize map : (state.ownedObjects owner).assign scope (state.getID object) object = assigned
  have unattached : ((state.setOwnedObjects owner assigned).setLocked
      (insert owner state.locked)).ownerObject object = none :=
    (State.ownerObject_setOwnedObjects _).trans unlinked
  have liveThere : ((state.setOwnedObjects owner assigned).setLocked
      (insert owner state.locked)).Live object :=
    (State.live_setOwnedObjects _).mpr liveObject
  rw [attachOwner_of_none owner liveThere free unattached]
  simp only [added, map, pure, Except.pure, State.unlock, State.setOwner_setLocked,
    State.getID_setLocked, State.getID_setOwnedObjects, State.setLocked_setLocked,
    State.locked_setLocked, Finset.erase_insert unlocked]

/-- The ID of an owned object leads to it. -/
theorem Placed.findInner?_of_owns (placed : Placed state) {scope : AudioObjectPropertyScope}
    (stored : Owns state owner object scope (state.getID object))
    : ∃ first,
        (state.ownedObjects owner).findInner? (state.getID object) = some (first, object) := by
  cases entry : (state.ownedObjects owner).findInner? (state.getID object) with
  | none =>
      have absent := NestedMap.lookup_of_findInner?_none entry scope
      rw [Owns, absent] at stored
      cases stored
  | some found =>
      obtain ⟨first, other⟩ := found
      have otherStored := NestedMap.lookup_of_findInner? entry
      obtain ⟨liveObject, -, -⟩ := placed.entry owner object _ _ stored
      obtain ⟨liveOther, same, -⟩ := placed.entry owner other _ _ otherStored
      obtain rfl := placed.distinct object other liveObject liveOther same
      exact ⟨first, rfl⟩

/-- Adding an object fails as attaching the owner to it does. -/
theorem addOwnedObject_of_error {scope : AudioObjectPropertyScope} {stop : Stop}
    (live : state.Live owner) (unlocked : owner ∉ state.locked) (different : object ≠ owner)
    (fails
      : ((state.setOwnedObjects owner
            ((state.ownedObjects owner).assign scope (state.getID object) object)).setLocked
          (insert owner state.locked)).attachOwner object owner
        = .error stop)
    : state.addOwnedObject owner (some object) scope = .error stop := by
  rcases lock_cases live with ⟨isLocked, -⟩ | ⟨-, taken⟩
  · exact absurd isLocked unlocked
  rw [State.addOwnedObject, taken]
  simp only [bind, Except.bind, State.ownedObjects_setLocked, State.getID_setLocked,
    State.setOwnedObjects_setLocked]
  rw [if_neg different, fails]

/-- Adding an object to an owner while another owner or the same one has it waits: the call holds
the mutex of the new owner and that of the object, and the previous owner locks one of them.
-/
theorem Placed.addOwnedObject_waits {previous : Pointer}
    {otherScope : AudioObjectPropertyScope} (placed : Placed state)
    (scope : AudioObjectPropertyScope) (live : state.Live owner)
    (liveObject : state.Live object) (different : object ≠ owner)
    (link : state.ownerObject object = some previous)
    (stored : Owns state previous object otherScope (state.getID object))
    : ∃ next, state.addOwnedObject owner (some object) scope = .error (.blocked next) := by
  rcases lock_cases live with ⟨-, blocked⟩ | ⟨unlocked, -⟩
  · rw [State.addOwnedObject, blocked]
    exact ⟨_, rfl⟩
  let assigned := (state.ownedObjects owner).assign scope (state.getID object) object
  let during := (state.setOwnedObjects owner assigned).setLocked (insert owner state.locked)
  have waits : previous ∈ during.locked
      ∨ ∃ first, (during.ownedObjects previous).findInner? (during.getID object)
        = some (first, object) := by
    by_cases same : previous = owner
    · exact Or.inl (same ▸ Finset.mem_insert_self owner state.locked)
    · refine Or.inr ?_
      rw [State.getID_setLocked, State.getID_setOwnedObjects, State.ownedObjects_setLocked,
        State.ownedObjects_setOwnedObjects _ live, if_neg same]
      exact placed.findInner?_of_owns stored
  have linked : during.ownerObject object = some previous :=
    (State.ownerObject_setOwnedObjects _).trans link
  have liveDuring : ∀ {other}, state.Live other → during.Live other :=
    (State.live_setOwnedObjects assigned).mpr
  obtain ⟨next, blocked, -⟩ := attachOwner_of_some owner (liveDuring liveObject)
    (liveDuring (State.live_of_lookup stored)) linked waits
  exact ⟨next, addOwnedObject_of_error live unlocked different blocked⟩

/-- Adding an object leaves everything as it is, or gives an object without an owner one. -/
theorem addOwnedObject_cases {added? : Option Pointer} {scope : AudioObjectPropertyScope}
    (sound : Sound state) (live : state.Live owner)
    (liveObject : ∀ object ∈ added?, state.Live object)
    (addable : ∀ object ∈ added?, Addable state owner object scope)
    : Ends state state (state.addOwnedObject owner added? scope)
      ∨ ∃ object ∈ added?,
          object ≠ owner ∧ state.hasOwner object = false
          ∧ Ends state (added state owner object scope)
              (state.addOwnedObject owner added? scope) := by
  rcases lock_cases live with ⟨-, blocked⟩ | ⟨unlocked, taken⟩
  · rw [State.addOwnedObject, blocked]
    exact Or.inl (Keeps.refl state)
  cases added? with
  | none =>
      rw [State.addOwnedObject, taken]
      exact Or.inl (Or.inl ⟨rfl, rfl, le_refl _⟩)
  | some object =>
      by_cases self : object = owner
      · rw [State.addOwnedObject, taken]
        simp only [bind, Except.bind]
        rw [if_pos self]
        exact Or.inl (Or.inl ⟨rfl, rfl, le_refl _⟩)
      have liveObject := liveObject object rfl
      rcases addable object rfl with same | isLocked | stored | ⟨unowned, free⟩
      · exact absurd same self
      · exact absurd isLocked unlocked
      · rw [State.addOwnedObject, taken]
        simp only [bind, Except.bind, State.ownedObjects_setLocked, State.getID_setLocked,
          State.setOwnedObjects_setLocked]
        rw [if_neg self]
        have link := (sound.entry owner object scope _ stored).2.2
        have lockedOwner : owner ∈ (state.setLocked (insert owner state.locked)).locked :=
          Finset.mem_insert_self _ _
        obtain ⟨next, blocked, kept⟩ := attachOwner_of_some owner
          ((State.live_setLocked (insert owner state.locked)).mpr liveObject)
          ((State.live_setLocked _).mpr live) link (Or.inl lockedOwner)
        rw [NestedMap.assign_of_lookup stored, State.setOwnedObjects_self, blocked]
        exact Or.inl ⟨kept.objects, kept.constructed, kept.held⟩
      · have unlinked := sound.ownerObject_of_hasOwner liveObject unowned
        have unlockedBoth : object ∉ insert owner state.locked :=
          fun member => (Finset.mem_insert.mp member).elim self free
        have isAdded := addOwnedObject_of_free scope live liveObject unlocked unlockedBoth unlinked
        exact Or.inr ⟨object, rfl, self, unowned, isAdded ▸ Or.inr ⟨_, rfl⟩⟩

-----------------------------------------------------------------------------------------
-- Steps and runs
-----------------------------------------------------------------------------------------

/-- Objects that have references keep them when others are added. -/
theorem Sound.keep (sound : Sound state) (keeps : Keeps state next) : Sound next := by
  obtain ⟨objects, locked, held, constructed⟩ := next
  obtain ⟨sameObjects, sameConstructed, more⟩ := keeps
  dsimp only at sameObjects sameConstructed more
  subst sameObjects sameConstructed
  have counts : ∀ object, state.useCount object
      ≤ State.useCount ⟨state.objects, locked, held, state.constructed⟩ object :=
    fun object => References.count_mono object (Multiset.add_le_add_right more)
  have referenced : ∀ object, state.Live object
      → State.useCount ⟨state.objects, locked, held, state.constructed⟩ object ≠ 0 := by
    intro object live none
    have fewer := counts object
    exact sound.referenced object live (by omega)
  exact {
    sound with
    owned := fun object owner live _ => sound.owned object owner live (sound.referenced object live)
    alone := fun object live none => absurd none (referenced object live)
    referenced
  }

/-- The links do not depend on locks. -/
theorem Linked.setLocked (linked : Linked state) (locked : Finset Pointer)
    : Linked (state.setLocked locked) :=
  {
    linked with
    alone := fun object live none =>
      (linked.alone object live none).mono (fun _ _ _ _ stored => stored) (fun _ => le_refl _)
  }

/-- What holds of the objects after a call that keeps them or changes them soundly. -/
theorem Ends.linked {changed : State} {outcome : Outcome} (ends : Ends state changed outcome)
    (sound : Sound state) (linked : Linked changed) (leads : Leads outcome next)
    : Sound next := by
  cases outcome with
  | ok after =>
      obtain rfl := leads
      rcases ends with keeps | ⟨locked, rfl⟩
      · exact (sound.keep keeps).toLinked.destroyUnreferenced
      · exact (linked.setLocked locked).destroyUnreferenced
  | error stop =>
      cases stop with
      | blocked after =>
          obtain rfl := leads
          exact (sound.keep ends).toLinked.destroyUnreferenced
      | undefined => exact absurd ends id

/-- Every permitted step keeps the invariant. -/
theorem Sound.step {label : Label} (sound : Sound state) (permitted : Permitted state label)
    (taken : system.step state label next)
    : Sound next := by
  obtain ⟨enabled, leads⟩ := taken
  cases label with
  | construct objectID isInstance =>
      obtain rfl := leads
      exact (sound.construct enabled).destroyUnreferenced
  | copy object =>
      obtain rfl := leads
      have keeps : Keeps state { state with held := state.held.acquire .user object } :=
        ⟨rfl, rfl, Multiset.le_cons_self _ _⟩
      exact (sound.keep keeps).toLinked.destroyUnreferenced
  | drop object =>
      obtain rfl := leads
      exact (sound.drop enabled permitted).destroyUnreferenced
  | addOwnedObject owner added? scope =>
      rcases addOwnedObject_cases sound enabled.1 enabled.2 permitted with
        ends | ⟨object, given, -, unowned, ends⟩
      · exact (ends.keeping _).linked sound sound.toLinked leads
      · have live := enabled.2 object given
        have unlinked := sound.ownerObject_of_hasOwner live unowned
        exact (ends.keeping _).linked sound (sound.added enabled.1 live unlinked scope) leads
  | removeOwnedObject owner objectID =>
      cases found : (state.ownedObjects owner).findInner? objectID with
      | none =>
          have ends := removeOwnedObject_of_none enabled found
          exact (ends.keeping _).linked sound sound.toLinked leads
      | some entry =>
          obtain ⟨scope, object⟩ := entry
          have stored := NestedMap.lookup_of_findInner? found
          have live := (sound.entry owner object scope objectID stored).1
          rcases removeOwnedObject_of_some enabled live found with
            ends | ⟨unlocked, free, -, ends⟩
          · exact (ends.keeping _).linked sound sound.toLinked leads
          · have releasable :=
              (permitted.resolve_left unlocked scope object found).resolve_left free
            exact (ends.keeping _).linked sound (sound.removed stored releasable) leads

/-- In every run of permitted steps the links agree in both directions. -/
theorem ownership_links_agree (reached : (system.restrict Permitted).Reachable state)
    : LinksAgree state := by
  have invariant : (system.restrict Permitted).Invariant Sound :=
    ⟨fun _ start => sound_of_empty start.1, fun _ _ _ sound taken => sound.step taken.1 taken.2⟩
  exact (invariant.reachable reached).linksAgree

/-- No objects have been constructed yet. -/
def noObjects : State := ⟨.empty, ∅, 0, 0⟩

/-- An object is added to another one, which then has the only reference to it. -/
theorem ownership_links_agree_added
    : ∃ state : State,
        state.getOwnerID 1 = 5
        ∧ state.getOwnedObjectIDs 0 kAudioObjectPropertyScopeGlobal 0 = [7]
        ∧ LinksAgree state := by
  have start : (system.restrict Permitted).Reachable noObjects := .initial ⟨rfl, rfl, rfl⟩
  have owner := start.step (.construct 5 fun _ => true) ⟨trivial, ⟨by decide, by decide⟩, rfl⟩
  have object := owner.step (.construct 7 fun _ => true) ⟨trivial, ⟨by decide, by decide⟩, rfl⟩
  have added := object.step (.addOwnedObject 0 (some 1) kAudioObjectPropertyScopeOutput)
    ⟨?_, ⟨rfl, ?_⟩, rfl⟩
  have dropped := added.step (.drop 1)
    ⟨fun last => absurd last (by decide), show (Holder.user, 1) ∈ _ by decide, rfl⟩
  · exact ⟨_, rfl, rfl, ownership_links_agree dropped⟩
  · rintro _ ⟨⟩
    exact Or.inr (Or.inr (Or.inr ⟨rfl, by decide⟩))
  · rintro _ ⟨⟩
    rfl

/-- The only object, with ID 7, is linked to an owner with ID 5 that does not exist any more. -/
def orphaned : State where
  objects :=
    OrderedMap.empty.insert 1
      { objectID := 7, isInstance := fun _ => true, ownerObject := some 0, ownerObjectID := 5 }
  locked := ∅
  held := {(.user, 1)}
  constructed := 2

/-- An owner is destroyed, and an object that it owned still has its ID. -/
theorem destroyed_owner_stays_linked
    : ¬∀ state : State, system.Reachable state → LinksAgree state := by
  intro agree
  have start : system.Reachable noObjects := .initial ⟨rfl, rfl, rfl⟩
  have owner := start.step (.construct 5 fun _ => true) ⟨⟨by decide, by decide⟩, rfl⟩
  have object := owner.step (.construct 7 fun _ => true) ⟨⟨by decide, by decide⟩, rfl⟩
  have added := object.step (.addOwnedObject 0 (some 1) kAudioObjectPropertyScopeOutput)
    ⟨⟨rfl, ?_⟩, rfl⟩
  have dropped : system.Reachable orphaned :=
    added.step (.drop 0) ⟨show (Holder.user, 0) ∈ _ by decide, rfl⟩
  · obtain ⟨holder, -, -, live, identified, -⟩ :=
      ((agree orphaned dropped).owner 1 5 rfl (by decide)).mp rfl
    have others : ∀ entry ∈ orphaned.objects.entries, entry.2.objectID ≠ 5 := by decide
    obtain ⟨fields, found⟩ := Option.isSome_iff_exists.mp live
    rw [State.getID, found] at identified
    exact others (holder, fields) (orphaned.objects.find?_eq_some_iff.mp found) identified
  · rintro _ ⟨⟩
    rfl

end Aspl.Object
