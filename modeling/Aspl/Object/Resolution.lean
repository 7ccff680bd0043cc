import Aspl.Dispatcher.Registration
import Aspl.Object.OwnershipRuns

/-! Objects that own each other and the dispatcher that finds them. The constructor of an object
registers it and the destructor unregisters it. The IDs that HAL reads from objects lead it to
objects, in runs in which every constructor obtains an ID.
-/

namespace Aspl.Object

open CoreAudio
open Dispatcher (Registry)

/-- The objects that exist and the dispatcher that they are registered with. -/
structure Hierarchy where
  state : State
  registry : Registry Pointer

namespace Hierarchy

/-- The ID that `RegisterObject()` returns to the constructor of the next object. -/
def obtainedID (hierarchy : Hierarchy) (objectID : AudioObjectID) : AudioObjectID :=
  (hierarchy.registry.registerObject hierarchy.state.constructed objectID).1

/-- `Object()`. -/
def construct (hierarchy : Hierarchy) (objectID : AudioObjectID)
    (isInstance : AudioClassID → Bool)
    : Hierarchy where
  state := hierarchy.state.construct (hierarchy.obtainedID objectID) isInstance
  registry := (hierarchy.registry.registerObject hierarchy.state.constructed objectID).2

/-- `~Object()`. -/
def destroy (hierarchy : Hierarchy) (object : Pointer) : Hierarchy where
  state := hierarchy.state.destroy object
  registry := hierarchy.registry.unregisterObject (hierarchy.state.getID object)

/-- Destroy the objects to which there are no references, and those that lose the last one by
that.
-/
def collect : Nat → Hierarchy → Hierarchy
  | 0, hierarchy => hierarchy
  | fuel + 1, hierarchy =>
      match hierarchy.state.objects.entries.find?
          (fun (object, _) => hierarchy.state.useCount object = 0) with
      | none => hierarchy
      | some (object, _) => collect fuel (hierarchy.destroy object)

def destroyUnreferenced (hierarchy : Hierarchy) : Hierarchy :=
  collect hierarchy.state.objects.size hierarchy

/-- `FindObject()`: no object without `shared_ptr` is found, as `shared_from_this()` throws then. -/
def findObject (hierarchy : Hierarchy) (objectID : AudioObjectID) : Option Pointer :=
  (hierarchy.registry.registeredObjects.find? objectID).filter
    (fun object => hierarchy.state.useCount object ≠ 0)

/-- Whether a step can happen; a constructor may ask for any ID. -/
def Enabled (hierarchy : Hierarchy) : Label → Prop
  | .construct _ _ => True
  | label => Object.Enabled hierarchy.state label

/-- The hierarchies that the end of a call may lead to: any one if what it does is undefined. -/
def Settles (hierarchy next : Hierarchy) : Outcome → Prop
  | .ok state => next = destroyUnreferenced { hierarchy with state }
  | .error (.blocked state) => next = destroyUnreferenced { hierarchy with state }
  | .error .undefined => True

/-- The hierarchies that a step may lead to. -/
def Leads (hierarchy next : Hierarchy) : Label → Prop
  | .construct objectID isInstance =>
      next = (hierarchy.construct objectID isInstance).destroyUnreferenced
  | label => hierarchy.Settles next (perform hierarchy.state label)

/-- All runs of objects that are registered with a dispatcher and own each other. -/
def system : System Hierarchy Label where
  initial hierarchy :=
    Object.system.initial hierarchy.state
    ∧ ∃ hintMaximumID, hierarchy.registry = .new hintMaximumID
  step hierarchy label next := hierarchy.Enabled label ∧ hierarchy.Leads next label

/-- A step that is permitted to the objects alone, and in which a constructor obtains an ID. -/
def Permitted (hierarchy : Hierarchy) (label : Label) : Prop :=
  Object.Permitted hierarchy.state label
  ∧ ∀ objectID isInstance,
      label = .construct objectID isInstance
      → hierarchy.obtainedID objectID ≠ kAudioObjectUnknown

/-- What the objects alone do in a step, where an object is constructed with the ID obtained. -/
def ownLabel (hierarchy : Hierarchy) : Label → Label
  | .construct objectID isInstance => .construct (hierarchy.obtainedID objectID) isInstance
  | label => label

-----------------------------------------------------------------------------------------
-- Registered objects
-----------------------------------------------------------------------------------------

/-- The dispatcher has the objects that exist, each under its own ID. -/
structure Registers (hierarchy : Hierarchy) : Prop where
  found
    : ∀ objectID object,
        hierarchy.registry.registeredObjects.find? objectID = some object
        ↔ hierarchy.state.Live object ∧ hierarchy.state.getID object = objectID
  identified
    : ∀ object, hierarchy.state.Live object → hierarchy.state.getID object ≠ kAudioObjectUnknown

variable {hierarchy next : Hierarchy} {object : Pointer}

/-- A constructor that obtains an ID registers the object under one that was not in use. -/
theorem registerObject_of_obtained {objectID : AudioObjectID}
    (obtained : hierarchy.obtainedID objectID ≠ kAudioObjectUnknown)
    : hierarchy.registry.registeredObjects.find? (hierarchy.obtainedID objectID) = none
      ∧ (hierarchy.registry.registerObject hierarchy.state.constructed objectID).2.registeredObjects
        = hierarchy.registry.registeredObjects.insert (hierarchy.obtainedID objectID)
            hierarchy.state.constructed := by
  rw [obtainedID] at obtained ⊢
  rcases hierarchy.registry.registerObject_cases hierarchy.state.constructed objectID with
    ⟨-, fails⟩ | ⟨unused, registered⟩
  · rw [fails] at obtained
    exact absurd rfl obtained
  · rw [registered]
    exact ⟨unused, rfl⟩

/-- The ID that a constructor obtains is that of no other object. -/
theorem Registers.enabled (registers : hierarchy.Registers) {objectID : AudioObjectID}
    (obtained : hierarchy.obtainedID objectID ≠ kAudioObjectUnknown)
    (isInstance : AudioClassID → Bool)
    : Object.Enabled hierarchy.state (.construct (hierarchy.obtainedID objectID) isInstance) := by
  refine ⟨obtained, ?_⟩
  intro ⟨other, fields⟩ member same
  have found := hierarchy.state.objects.find?_eq_some_iff.mpr member
  have live : hierarchy.state.Live other := Option.isSome_iff_exists.mpr ⟨fields, found⟩
  have identified : hierarchy.state.getID other = hierarchy.obtainedID objectID := by
    rw [State.getID, found]
    exact same
  have inUse := (registers.found _ other).mpr ⟨live, identified⟩
  rw [(registerObject_of_obtained obtained).1] at inUse
  cases inUse

/-- Constructing an object keeps objects registered. -/
theorem Registers.construct (registers : hierarchy.Registers)
    (unused : ¬hierarchy.state.Live hierarchy.state.constructed) {objectID : AudioObjectID}
    (obtained : hierarchy.obtainedID objectID ≠ kAudioObjectUnknown)
    (isInstance : AudioClassID → Bool)
    : (hierarchy.construct objectID isInstance).Registers := by
  obtain ⟨absent, registered⟩ := registerObject_of_obtained obtained
  have getID (other : Pointer)
      : (hierarchy.construct objectID isInstance).state.getID other
        = if other = hierarchy.state.constructed then hierarchy.obtainedID objectID
          else hierarchy.state.getID other :=
    State.getID_construct
  have old {other : Pointer} (live : hierarchy.state.Live other)
      : other ≠ hierarchy.state.constructed := by
    rintro rfl
    exact unused live
  constructor
  · intro other object
    rw [getID, Hierarchy.construct, registered, OrderedMap.find?_insert_eq_some_iff,
      State.live_construct]
    constructor
    · rintro (⟨rfl, rfl⟩ | ⟨different, found⟩)
      · exact ⟨.inl rfl, if_pos rfl⟩
      · obtain ⟨live, identified⟩ := (registers.found other object).mp found
        exact ⟨.inr live, (if_neg (old live)).trans identified⟩
    · rintro ⟨rfl | live, identified⟩
      · rw [if_pos rfl] at identified
        exact .inl ⟨identified.symm, rfl⟩
      · rw [if_neg (old live)] at identified
        have found := (registers.found other object).mpr ⟨live, identified⟩
        refine .inr ⟨?_, found⟩
        rintro rfl
        cases absent.symm.trans found
  · intro other live
    rw [getID]
    rcases State.live_construct.mp live with rfl | live
    · rw [if_pos rfl]
      exact obtained
    · rw [if_neg (old live)]
      exact registers.identified other live

/-- Destroying an object keeps the others registered. -/
theorem Registers.destroy (registers : hierarchy.Registers) (live : hierarchy.state.Live object)
    : (hierarchy.destroy object).Registers := by
  have found := (registers.found _ object).mpr ⟨live, rfl⟩
  have erased : (hierarchy.destroy object).registry.registeredObjects
      = hierarchy.registry.registeredObjects.erase (hierarchy.state.getID object) := by
    rw [Hierarchy.destroy, Registry.unregisterObject, if_neg (registers.identified object live),
      found]
    rfl
  have kept {other : Pointer} (different : other ≠ object)
      : (hierarchy.destroy object).state.getID other = hierarchy.state.getID other :=
    State.read_destroy Fields.objectID _ different
  constructor
  · intro otherID other
    rw [erased, OrderedMap.find?_erase_eq_some_iff, registers.found]
    constructor
    · rintro ⟨differs, liveOther, rfl⟩
      have different : other ≠ object := by
        rintro rfl
        exact differs rfl
      exact ⟨State.live_destroy.mpr ⟨different, liveOther⟩, kept different⟩
    · rintro ⟨survives, rfl⟩
      obtain ⟨different, liveOther⟩ := State.live_destroy.mp survives
      rw [kept different]
      refine ⟨?_, liveOther, rfl⟩
      intro same
      have foundOther := (registers.found _ other).mpr ⟨liveOther, same⟩
      exact different (Option.some.inj (foundOther.symm.trans found))
  · intro other survives
    obtain ⟨different, liveOther⟩ := State.live_destroy.mp survives
    rw [kept different]
    exact registers.identified other liveOther

/-- Objects stay registered while others are destroyed, by induction on their number. -/
theorem Registers.collect (registers : hierarchy.Registers) (fuel : Nat)
    : (hierarchy.collect fuel).Registers := by
  induction fuel generalizing hierarchy with
  | zero => exact registers
  | succ fuel ih =>
      rw [Hierarchy.collect]
      split
      · exact registers
      · rename_i object fields first
        have member := List.mem_of_find?_eq_some first
        have stored := hierarchy.state.objects.find?_eq_some_iff.mpr member
        exact ih (registers.destroy (Option.isSome_iff_exists.mpr ⟨fields, stored⟩))

/-- The objects are destroyed that the ownership hierarchy destroys. -/
theorem state_collect (fuel : Nat) (hierarchy : Hierarchy)
    : (collect fuel hierarchy).state = hierarchy.state.collect fuel := by
  induction fuel generalizing hierarchy with
  | zero => rfl
  | succ fuel ih =>
      unfold collect State.collect
      cases hierarchy.state.objects.entries.find?
          (fun (object, _) => hierarchy.state.useCount object = 0) with
      | none => rfl
      | some entry => exact ih _

-----------------------------------------------------------------------------------------
-- Steps
-----------------------------------------------------------------------------------------

/-- The same objects exist, with the IDs that they had. -/
structure SameIDs (state next : State) : Prop where
  constructed : next.constructed = state.constructed
  live : ∀ object, next.Live object ↔ state.Live object
  getID : ∀ object, next.getID object = state.getID object

/-- Objects that are left have the IDs that they had, and none has come back. -/
structure Continues (state next : State) : Prop where
  constructed : state.constructed ≤ next.constructed
  kept
    : ∀ object,
        object < state.constructed → next.Live object
        → state.Live object ∧ next.getID object = state.getID object

/-- A step has led to a hierarchy whose objects are registered, before objects are destroyed. -/
structure Before (hierarchy before : Hierarchy) : Prop where
  registers : before.Registers
  continues : Continues hierarchy.state before.state

theorem SameIDs.of_objects {state next : State} (objects : next.objects = state.objects)
    (constructed : next.constructed = state.constructed)
    : SameIDs state next := by
  refine ⟨constructed, ?_, ?_⟩
  · intro object
    rw [State.Live, objects, State.Live]
  · intro object
    rw [State.getID, objects, State.getID]

theorem SameIDs.continues {state next : State} (same : SameIDs state next)
    : Continues state next := by
  refine ⟨same.constructed.ge, ?_⟩
  intro object _ live
  exact ⟨(same.live object).mp live, same.getID object⟩

theorem Continues.trans {first second third : State} (earlier : Continues first second)
    (later : Continues second third)
    : Continues first third := by
  refine ⟨earlier.constructed.trans later.constructed, ?_⟩
  intro object old live
  obtain ⟨liveBefore, same⟩ := later.kept object (old.trans_le earlier.constructed) live
  obtain ⟨liveFirst, sameFirst⟩ := earlier.kept object old liveBefore
  exact ⟨liveFirst, same.trans sameFirst⟩

/-- Destroying objects leaves those that are left as they are. -/
theorem Continues.collect {state next : State} (continues : Continues state next) (fuel : Nat)
    : Continues state (next.collect fuel) := by
  refine State.collect_preserves ?_ fuel continues
  intro middle destroyed continues _ _
  refine ⟨continues.constructed, ?_⟩
  intro object old survives
  obtain ⟨different, live⟩ := State.live_destroy.mp survives
  obtain ⟨liveBefore, same⟩ := continues.kept object old live
  exact ⟨liveBefore, (State.read_destroy Fields.objectID _ different).trans same⟩

/-- Objects stay registered that exist with the same IDs. -/
theorem Registers.of_sameIDs (registers : hierarchy.Registers) {state : State}
    (same : SameIDs hierarchy.state state)
    : hierarchy.Before { hierarchy with state } := by
  refine ⟨⟨?_, ?_⟩, same.continues⟩
  · intro objectID object
    rw [registers.found, same.live, same.getID]
  · intro object live
    rw [same.getID]
    exact registers.identified object ((same.live object).mp live)

/-- A call that ends without having changed IDs keeps objects registered. -/
theorem Registers.settle (registers : hierarchy.Registers) {changed : State} {outcome : Outcome}
    (same : SameIDs hierarchy.state changed) (ends : Ends hierarchy.state changed outcome)
    (settles : hierarchy.Settles next outcome)
    : ∃ before, hierarchy.Before before ∧ next = before.destroyUnreferenced := by
  cases outcome with
  | ok after =>
      refine ⟨_, registers.of_sameIDs ?_, settles⟩
      rcases ends with keeps | ⟨locked, rfl⟩
      · exact .of_objects keeps.objects keeps.constructed
      · exact ⟨same.constructed, same.live, same.getID⟩
  | error stop =>
      cases stop with
      | blocked after =>
          exact ⟨_, registers.of_sameIDs (.of_objects ends.objects ends.constructed), settles⟩
      | undefined => exact ends.elim

/-- What the end of a call leads to is what it leads the objects alone to. -/
theorem Settles.state {outcome : Outcome} (settles : hierarchy.Settles next outcome)
    : Object.Leads outcome next.state := by
  cases outcome with
  | ok after =>
      obtain rfl := settles
      exact state_collect _ _
  | error stop =>
      cases stop with
      | blocked after =>
          obtain rfl := settles
          exact state_collect _ _
      | undefined => trivial

/-- A step of the hierarchy is one of the objects alone. -/
theorem Registers.ownStep (registers : hierarchy.Registers) {label : Label}
    (permitted : hierarchy.Permitted label) (taken : system.step hierarchy label next)
    : (Object.system.restrict Object.Permitted).step hierarchy.state (hierarchy.ownLabel label)
        next.state := by
  obtain ⟨enabled, leads⟩ := taken
  cases label with
  | construct objectID isInstance =>
      have obtained := permitted.2 objectID isInstance rfl
      refine ⟨trivial, registers.enabled obtained isInstance, ?_⟩
      obtain rfl : next = (hierarchy.construct objectID isInstance).destroyUnreferenced := leads
      exact state_collect _ _
  | copy | drop | addOwnedObject | removeOwnedObject =>
      exact ⟨permitted.1, enabled, Settles.state leads⟩

/-- Every permitted step keeps objects registered, by the cases of what the user does. -/
theorem Registers.exists_before (registers : hierarchy.Registers)
    (sound : Object.Sound hierarchy.state) {label : Label} (permitted : hierarchy.Permitted label)
    (taken : system.step hierarchy label next)
    : ∃ before, hierarchy.Before before ∧ next = before.destroyUnreferenced := by
  obtain ⟨enabled, leads⟩ := taken
  have unchanged : SameIDs hierarchy.state hierarchy.state := .of_objects rfl rfl
  cases label with
  | construct objectID isInstance =>
      have obtained := permitted.2 objectID isInstance rfl
      have constructed := registers.construct sound.toPlaced.unused obtained isInstance
      refine ⟨_, ⟨constructed, Nat.le_succ _, ?_⟩, leads⟩
      intro object old live
      refine ⟨(State.live_construct.mp live).resolve_left old.ne, ?_⟩
      exact State.getID_construct.trans (if_neg old.ne)
  | copy object =>
      have ends : Ends hierarchy.state hierarchy.state (perform hierarchy.state (.copy object)) :=
        Or.inl ⟨rfl, rfl, Multiset.le_cons_self _ _⟩
      exact registers.settle unchanged ends leads
  | drop object =>
      let dropped := { hierarchy.state with held := hierarchy.state.held.release .user object }
      have same : SameIDs hierarchy.state dropped := .of_objects rfl rfl
      have ends : Ends hierarchy.state dropped (perform hierarchy.state (.drop object)) :=
        Or.inr ⟨hierarchy.state.locked, rfl⟩
      exact registers.settle same ends leads
  | addOwnedObject owner added? scope =>
      rcases addOwnedObject_cases sound enabled.1 enabled.2 permitted.1 with
        ends | ⟨object, given, -, unowned, ends⟩
      · exact registers.settle unchanged (ends.keeping _) leads
      · have live := enabled.2 object given
        have unlinked := sound.ownerObject_of_hasOwner live unowned
        have relinks := sound.toPlaced.relinks_added enabled.1 live unlinked scope
        have same : SameIDs hierarchy.state _ :=
          ⟨relinks.constructed, relinks.live, relinks.getID⟩
        exact registers.settle same (ends.keeping _) leads
  | removeOwnedObject owner objectID =>
      cases found : (hierarchy.state.ownedObjects owner).findInner? objectID with
      | none =>
          have ends := removeOwnedObject_of_none enabled found
          exact registers.settle unchanged (ends.keeping _) leads
      | some entry =>
          obtain ⟨scope, object⟩ := entry
          have stored := NestedMap.lookup_of_findInner? found
          have live := (sound.entry owner object scope objectID stored).1
          rcases removeOwnedObject_of_some enabled live found with ends | ⟨-, -, -, ends⟩
          · exact registers.settle unchanged (ends.keeping _) leads
          · have relinks := sound.toPlaced.relinks_removed stored
            have same : SameIDs hierarchy.state _ :=
              ⟨relinks.constructed, relinks.live, relinks.getID⟩
            exact registers.settle same (ends.keeping _) leads

/-- The invariant of the hierarchy. -/
structure Sound (hierarchy : Hierarchy) : Prop where
  links : Object.Sound hierarchy.state
  registers : hierarchy.Registers

/-- A permitted step keeps the invariant, and the IDs of the objects that are left. -/
theorem Sound.step (sound : hierarchy.Sound) {label : Label}
    (taken : (system.restrict Permitted).step hierarchy label next)
    : next.Sound ∧ Continues hierarchy.state next.state := by
  obtain ⟨permitted, taken⟩ := taken
  obtain ⟨ownPermitted, ownTaken⟩ := sound.registers.ownStep permitted taken
  obtain ⟨before, ⟨registers, continues⟩, rfl⟩ :=
    sound.registers.exists_before sound.links permitted taken
  refine ⟨⟨sound.links.step ownPermitted ownTaken, registers.collect _⟩, ?_⟩
  rw [destroyUnreferenced, state_collect]
  exact continues.collect _

-----------------------------------------------------------------------------------------
-- Runs
-----------------------------------------------------------------------------------------

/-- The IDs that HAL reads lead it to objects: every object that exists is found under its ID and
under no other one, the IDs of owned objects lead to objects of that owner, which are of the class
asked for, and the ID of an owner leads to an object that lists what it owns.
-/
structure Resolves (hierarchy : Hierarchy) : Prop where
  found
    : ∀ objectID object,
        hierarchy.findObject objectID = some object
        ↔ hierarchy.state.Live object ∧ hierarchy.state.getID object = objectID
  owned
    : ∀ owner scope classID objectID,
        objectID ∈ hierarchy.state.getOwnedObjectIDs owner scope classID
        → ∃ object,
            hierarchy.findObject objectID = some object
            ∧ hierarchy.state.getOwnerID object = hierarchy.state.getID owner
            ∧ (classID ≠ 0 → hierarchy.state.isInstance object classID = true)
  owner
    : ∀ object,
        hierarchy.state.Live object → hierarchy.state.getOwnerID object ≠ kAudioObjectUnknown
        → ∃ owner,
            hierarchy.findObject (hierarchy.state.getOwnerID object) = some owner
            ∧ hierarchy.state.getID object
              ∈ hierarchy.state.getOwnedObjectIDs owner kAudioObjectPropertyScopeGlobal 0

/-- An ID that an owner lists is that of an entry of its map, of the class asked for. -/
theorem owns_of_mem_getOwnedObjectIDs {state : State} {owner : Pointer}
    {scope : AudioObjectPropertyScope} {classID : AudioClassID} {objectID : AudioObjectID}
    (listed : objectID ∈ state.getOwnedObjectIDs owner scope classID)
    : ∃ object objectScope,
        Owns state owner object objectScope objectID
        ∧ (classID ≠ 0 → state.isInstance object classID = true) := by
  obtain ⟨⟨objectScope, objectMap⟩, inner, listed⟩ := List.mem_flatMap.mp listed
  dsimp only at listed
  split at listed
  · cases listed
  · obtain ⟨⟨otherID, object⟩, member, selected⟩ := List.mem_filterMap.mp listed
    dsimp only at selected
    split at selected
    · cases selected
    · rename_i chosen
      obtain rfl := Option.some.inj selected
      refine ⟨object, objectScope, ?_, ?_⟩
      · refine NestedMap.mem_listing.mp (List.mem_flatMap.mpr ⟨_, inner, ?_⟩)
        exact List.mem_map.mpr ⟨_, member, rfl⟩
      · intro asked
        by_contra other
        exact chosen ⟨asked, by simpa using other⟩

/-- Registered objects are found, as all have references. -/
theorem Registers.findObject_eq_some_iff (registers : hierarchy.Registers)
    (sound : Object.Sound hierarchy.state) (objectID : AudioObjectID) (object : Pointer)
    : hierarchy.findObject objectID = some object
      ↔ hierarchy.state.Live object ∧ hierarchy.state.getID object = objectID := by
  rw [findObject, Option.filter_eq_some_iff, registers.found]
  refine and_iff_left_of_imp ?_
  intro ⟨live, _⟩
  exact decide_eq_true (sound.referenced object live)

/-- Objects that are linked and registered can be reached by their IDs. -/
theorem Sound.resolves (sound : hierarchy.Sound) : hierarchy.Resolves := by
  obtain ⟨links, registers⟩ := sound
  have found := registers.findObject_eq_some_iff links
  constructor
  · exact found
  · intro owner scope classID objectID listed
    obtain ⟨object, objectScope, entry, isInstance⟩ := owns_of_mem_getOwnedObjectIDs listed
    obtain ⟨live, rfl, link⟩ := links.entry owner object objectScope objectID entry
    have identified := (links.owned object owner live (links.referenced object live) link).2.1
    exact ⟨object, (found _ object).mpr ⟨live, rfl⟩, identified, isInstance⟩
  · intro object live known
    cases link : hierarchy.state.ownerObject object with
    | none => exact absurd (links.unowned object link) known
    | some owner =>
        obtain ⟨liveOwner, same, scope, entry⟩ :=
          links.owned object owner live (links.referenced object live) link
        refine ⟨owner, (found _ owner).mpr ⟨liveOwner, same.symm⟩, ?_⟩
        rw [getOwnedObjectIDs_global]
        exact List.mem_map.mpr ⟨_, NestedMap.mem_listing.mpr entry, rfl⟩

/-- Without objects nothing is registered with a new dispatcher. -/
theorem sound_of_initial (initially : system.initial hierarchy) : hierarchy.Sound := by
  obtain ⟨start, hintMaximumID, new⟩ := initially
  have nobody : ∀ object, ¬hierarchy.state.Live object := by
    intro object live
    rw [State.Live, start.1] at live
    cases live
  refine ⟨sound_of_empty start.1, ?_, fun object live => absurd live (nobody object)⟩
  intro objectID object
  rw [new]
  exact iff_of_false (fun found => by cases found) (fun both => nobody object both.1)

/-- In every run of permitted steps the objects do what the ownership hierarchy does, the IDs that
HAL reads lead it to objects, and an ID leads to the same object as long as the object exists.
-/
theorem ids_resolve (reached : (system.restrict Permitted).Reachable hierarchy)
    : (Object.system.restrict Object.Permitted).Reachable hierarchy.state
      ∧ hierarchy.Resolves
      ∧ ∀ labels finish objectID object,
          (system.restrict Permitted).Run hierarchy labels finish
          → hierarchy.findObject objectID = some object → finish.state.Live object
          → finish.findObject objectID = some object := by
  have invariant : (system.restrict Permitted).Invariant
      (fun hierarchy =>
        (Object.system.restrict Object.Permitted).Reachable hierarchy.state
        ∧ hierarchy.Sound) := by
    constructor
    · intro hierarchy initially
      exact ⟨.initial initially.1, sound_of_initial initially⟩
    · intro hierarchy label next ⟨reached, sound⟩ taken
      exact ⟨reached.step _ (sound.registers.ownStep taken.1 taken.2), (sound.step taken).1⟩
  obtain ⟨ownReached, sound⟩ := invariant.reachable reached
  refine ⟨ownReached, sound.resolves, ?_⟩
  intro labels finish objectID object run found live
  have step : ∀ middle label next,
      middle.Sound ∧ Continues hierarchy.state middle.state
      → (system.restrict Permitted).step middle label next
      → next.Sound ∧ Continues hierarchy.state next.state := by
    intro middle label next ⟨sound, continues⟩ taken
    obtain ⟨after, further⟩ := sound.step taken
    exact ⟨after, continues.trans further⟩
  have unchanged : SameIDs hierarchy.state hierarchy.state := .of_objects rfl rfl
  obtain ⟨after, continues⟩ := run.preserves step ⟨sound, unchanged.continues⟩
  obtain ⟨liveBefore, rfl⟩ := (sound.resolves.found objectID object).mp found
  have old := sound.links.fresh object liveBefore
  exact (after.resolves.found _ object).mpr ⟨live, (continues.kept object old live).2⟩

/-- No objects have been constructed yet. -/
def noHierarchy : Hierarchy := ⟨noObjects, .new 1000⟩

/-- A device is added to a plugin, which then has the only reference to it. HAL finds it by the ID
that the plugin lists.
-/
theorem ids_resolve_device
    : ∃ hierarchy : Hierarchy,
        hierarchy.state.getOwnedObjectIDs 0 kAudioObjectPropertyScopeGlobal 0 = [2]
        ∧ hierarchy.findObject 2 = some 1
        ∧ hierarchy.Resolves := by
  have start : (system.restrict Permitted).Reachable noHierarchy :=
    .initial ⟨⟨rfl, rfl, rfl⟩, 1000, rfl⟩
  have obtains {hierarchy : Hierarchy} {objectID : AudioObjectID}
      (obtained : hierarchy.obtainedID objectID ≠ kAudioObjectUnknown)
      : hierarchy.Permitted (.construct objectID fun _ => true) := by
    refine ⟨trivial, ?_⟩
    rintro _ _ ⟨⟩
    exact obtained
  have plugin := start.step (.construct kAudioObjectPlugInObject fun _ => true)
    ⟨obtains (by decide), trivial, rfl⟩
  have device := plugin.step (.construct kAudioObjectUnknown fun _ => true)
    ⟨obtains (by decide), trivial, rfl⟩
  have only {holds : Pointer → Prop} (one : holds 1) : ∀ added ∈ some 1, holds added := by
    rintro _ ⟨⟩
    exact one
  have added := device.step (.addOwnedObject 0 (some 1) kAudioObjectPropertyScopeGlobal)
    ⟨⟨only (Or.inr (Or.inr (Or.inr ⟨rfl, by decide⟩))), fun _ _ same => by cases same⟩,
      ⟨rfl, only rfl⟩, rfl⟩
  have dropped := added.step (.drop 1)
    ⟨⟨fun last => absurd last (by decide), fun _ _ same => by cases same⟩,
      show (Holder.user, 1) ∈ _ by decide, rfl⟩
  exact ⟨_, rfl, rfl, (ids_resolve dropped).2.1⟩

end Hierarchy

end Aspl.Object
