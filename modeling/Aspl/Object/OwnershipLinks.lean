import Aspl.Object.UseCount

/-! The link between an owner and what it owns, and what keeps both of its ends in agreement while
objects are linked, unlinked and destroyed.
-/

namespace Aspl.Object

open CoreAudio

/-- The owner's map has the object, under a scope and an ID. -/
def Owns (state : State) (owner object : Pointer) (scope : AudioObjectPropertyScope)
    (objectID : AudioObjectID)
    : Prop :=
  (state.ownedObjects owner).lookup scope objectID = some object

/-- An object has the ID of an owner exactly if a living object with that ID owns it, an owned
object has one entry in one map, and the owner lists the IDs of what it owns once.
-/
structure LinksAgree (state : State) : Prop where
  owner
    : ∀ object ownerID,
        state.Live object → ownerID ≠ kAudioObjectUnknown
        → (state.getOwnerID object = ownerID
          ↔ ∃ owner scope objectID,
              state.Live owner ∧ state.getID owner = ownerID
              ∧ Owns state owner object scope objectID)
  once
    : ∀ object owner scope objectID otherOwner otherScope otherID,
        Owns state owner object scope objectID → Owns state otherOwner object otherScope otherID
        → owner = otherOwner ∧ scope = otherScope ∧ objectID = otherID
  listedOnce
    : ∀ owner,
        state.Live owner
        → (state.getOwnedObjectIDs owner kAudioObjectPropertyScopeGlobal 0).Nodup
  listed
    : ∀ owner objectID,
        state.Live owner
        → (objectID ∈ state.getOwnedObjectIDs owner kAudioObjectPropertyScopeGlobal 0
          ↔ ∃ object,
              state.Live object ∧ state.getID object = objectID
              ∧ state.getOwnerID object = state.getID owner)

/-- Only an object's own map has references to what it owns, and this holds of what it owns. -/
inductive Alone (state : State) : Pointer → Prop
  | intro {object : Pointer}
    (single : ∀ owned scope objectID,
      Owns state object owned scope objectID → state.useCount owned ≤ 1)
    (owned : ∀ owned scope objectID,
      Owns state object owned scope objectID → Alone state owned)
    : Alone state object

/-- A reference to an object may be released that is not the last one, or without which all that
the object owns is destroyed with it.
-/
def Releasable (state : State) (object : Pointer) : Prop :=
  state.useCount object = 1 → Alone state object

-----------------------------------------------------------------------------------------
-- The invariant
-----------------------------------------------------------------------------------------

/-- What holds of the links also when owners are destroyed before what they own. -/
structure Placed (state : State) : Prop where
  fresh : ∀ object, state.Live object → object < state.constructed
  identified : ∀ object, state.Live object → state.getID object ≠ kAudioObjectUnknown
  distinct
    : ∀ first second,
        state.Live first → state.Live second → state.getID first = state.getID second
        → first = second
  entry
    : ∀ owner object scope objectID,
        Owns state owner object scope objectID
        → state.Live object ∧ objectID = state.getID object
          ∧ state.ownerObject object = some owner
  single
    : ∀ owner object scope objectID otherScope otherID,
        Owns state owner object scope objectID → Owns state owner object otherScope otherID
        → scope = otherScope
  unowned
    : ∀ object, state.ownerObject object = none → state.getOwnerID object = kAudioObjectUnknown

/-- The links while objects are destroyed: those that have lost their last reference may have
lost their owner.
-/
structure Linked (state : State) : Prop extends Placed state where
  owned
    : ∀ object owner,
        state.Live object → state.useCount object ≠ 0 → state.ownerObject object = some owner
        → state.Live owner ∧ state.getOwnerID object = state.getID owner
          ∧ ∃ scope, Owns state owner object scope (state.getID object)
  alone : ∀ object, state.Live object → state.useCount object = 0 → Alone state object

/-- The invariant: links between objects that all have references. -/
structure Sound (state : State) : Prop extends Linked state where
  referenced : ∀ object, state.Live object → state.useCount object ≠ 0

variable {state next : State} {owner object : Pointer}

/-- Owning less, with fewer references, objects are still alone. -/
theorem Alone.mono (alone : Alone state object)
    (owns : ∀ owner object scope objectID,
      Owns next owner object scope objectID → Owns state owner object scope objectID)
    (counts : ∀ object, next.useCount object ≤ state.useCount object)
    : Alone next object := by
  induction alone with
  | intro single _ ih =>
      refine .intro ?_ ?_
      · intro owned scope objectID stored
        exact (counts owned).trans (single owned scope objectID (owns _ _ _ _ stored))
      · intro owned scope objectID stored
        exact ih owned scope objectID (owns _ _ _ _ stored)

/-- Destroying an object without references keeps objects placed: nothing owned it. -/
theorem Placed.destroy (placed : Placed state) (unreferenced : state.useCount object = 0)
    : Placed (state.destroy object) := by
  have getID : ∀ other, other ≠ object → (state.destroy object).getID other = state.getID other :=
    fun _ different => State.read_destroy Fields.objectID _ different
  have ownerObject : ∀ other, other ≠ object
      → (state.destroy object).ownerObject other = state.ownerObject other :=
    fun _ different => State.read_destroy Fields.ownerObject _ different
  have getOwnerID : ∀ other, other ≠ object
      → (state.destroy object).getOwnerID other = state.getOwnerID other :=
    fun _ different => State.read_destroy Fields.ownerObjectID _ different
  have owns : ∀ owner other scope objectID,
      Owns (state.destroy object) owner other scope objectID
      → Owns state owner other scope objectID :=
    fun _ _ _ _ stored => (State.lookup_destroy stored).2
  constructor
  · intro other liveOther
    exact placed.fresh other (State.live_destroy.mp liveOther).2
  · intro other liveOther
    obtain ⟨different, liveOther⟩ := State.live_destroy.mp liveOther
    exact getID other different ▸ placed.identified other liveOther
  · intro first second liveFirst liveSecond same
    obtain ⟨differentFirst, liveFirst⟩ := State.live_destroy.mp liveFirst
    obtain ⟨differentSecond, liveSecond⟩ := State.live_destroy.mp liveSecond
    rw [getID first differentFirst, getID second differentSecond] at same
    exact placed.distinct first second liveFirst liveSecond same
  · intro owner other scope objectID stored
    have stored := owns _ _ _ _ stored
    have different : other ≠ object := by
      intro same
      exact State.useCount_ne_zero_of_lookup stored (same ▸ unreferenced)
    obtain ⟨liveOther, identified, link⟩ := placed.entry owner other scope objectID stored
    exact ⟨State.live_destroy.mpr ⟨different, liveOther⟩, identified.trans (getID _ different).symm,
      (ownerObject _ different).trans link⟩
  · intro owner other scope objectID otherScope otherID first second
    exact placed.single owner other _ _ _ _ (owns _ _ _ _ first) (owns _ _ _ _ second)
  · intro other none
    by_cases same : other = object
    · rw [State.getOwnerID, State.find?_destroy, if_pos same]
      rfl
    · rw [getOwnerID other same]
      exact placed.unowned other ((ownerObject other same).symm.trans none)

/-- Destroying an object without references keeps the links: what it owned has no other
references, and is destroyed after it.
-/
theorem Linked.destroy (linked : Linked state) (live : state.Live object)
    (unreferenced : state.useCount object = 0)
    : Linked (state.destroy object) := by
  have alone := linked.alone object live unreferenced
  have placed := linked.toPlaced.destroy unreferenced
  have counts : ∀ other, (state.destroy object).useCount other ≤ state.useCount other :=
    fun _ => State.useCount_destroy_le live
  refine ⟨placed, ?_, ?_⟩
  · intro other owner liveOther referenced link
    obtain ⟨different, liveOther⟩ := State.live_destroy.mp liveOther
    rw [show (state.destroy object).ownerObject other = state.ownerObject other from
      State.read_destroy Fields.ownerObject _ different] at link
    have before : state.useCount other ≠ 0 :=
      fun none => referenced (Nat.eq_zero_of_le_zero ((counts other).trans_eq none))
    obtain ⟨liveOwner, identified, scope, stored⟩ :=
      linked.owned other owner liveOther before link
    have kept : owner ≠ object := by
      rintro rfl
      cases alone with
      | intro single owned =>
          have few := single other scope _ stored
          have less := State.useCount_destroy_lt stored
          omega
    have sameID (one : Pointer) (differs : one ≠ object)
        : (state.destroy object).getID one = state.getID one :=
      State.read_destroy Fields.objectID _ differs
    refine ⟨State.live_destroy.mpr ⟨kept, liveOwner⟩, ?_, scope, ?_⟩
    · rw [sameID owner kept, ← identified]
      exact State.read_destroy Fields.ownerObjectID _ different
    · have same : (state.destroy object).ownedObjects owner = state.ownedObjects owner :=
        State.read_destroy Fields.ownedObjects _ kept
      rw [Owns, same, sameID other different]
      exact stored
  · intro other liveOther none
    have liveOther := (State.live_destroy.mp liveOther).2
    refine Alone.mono ?_ (fun _ _ _ _ stored => (State.lookup_destroy stored).2) counts
    by_cases before : state.useCount other = 0
    · exact linked.alone other liveOther before
    · obtain ⟨scope, objectID, stored⟩ :=
        State.exists_lookup_of_useCount_destroy live before none
      cases alone with
      | intro single owned => exact owned other scope objectID stored

/-- With all objects destroyed that have no references, the links are sound. -/
theorem Linked.destroyUnreferenced (linked : Linked state) : Sound state.destroyUnreferenced where
  toLinked := State.collect_preserves (fun _ _ linked => linked.destroy) _ linked
  referenced _ := State.useCount_collect_ne_zero (Nat.le_refl _)

/-- An object has no owner exactly if it has no pointer to one. -/
theorem Sound.ownerObject_of_hasOwner (sound : Sound state) (live : state.Live object)
    (unowned : state.hasOwner object = false)
    : state.ownerObject object = none := by
  cases link : state.ownerObject object with
  | none => rfl
  | some owner =>
      obtain ⟨liveOwner, identified, -⟩ :=
        sound.owned object owner live (sound.referenced object live) link
      rw [State.hasOwner, bne_eq_false_iff_eq, identified] at unowned
      exact absurd unowned (sound.identified owner liveOwner)

-----------------------------------------------------------------------------------------
-- Changing one link
-----------------------------------------------------------------------------------------

/-- The owner of one object is another one afterwards, or none, on both ends of the link. -/
structure Relinks (state next : State) (object : Pointer) (link : Option Pointer)
    (scope : AudioObjectPropertyScope)
    : Prop where
  constructed : next.constructed = state.constructed
  live : ∀ other, next.Live other ↔ state.Live other
  getID : ∀ other, next.getID other = state.getID other
  ownerObject
    : ∀ other, next.ownerObject other = if other = object then link else state.ownerObject other
  getOwnerID
    : ∀ other,
        next.getOwnerID other
        = if other = object then (link.map state.getID).getD kAudioObjectUnknown
          else state.getOwnerID other
  owns
    : ∀ owner other otherScope otherID,
        Owns next owner other otherScope otherID
        ↔ if other = object then
            link = some owner ∧ otherScope = scope ∧ otherID = state.getID object
          else Owns state owner other otherScope otherID

/-- Giving an object another owner, or none, keeps objects placed. -/
theorem Placed.relinks {link : Option Pointer} {scope : AudioObjectPropertyScope}
    (placed : Placed state) (relinks : Relinks state next object link scope)
    (liveObject : state.Live object)
    : Placed next := by
  constructor
  · intro other live
    exact relinks.constructed ▸ placed.fresh other ((relinks.live other).mp live)
  · intro other live
    exact relinks.getID other ▸ placed.identified other ((relinks.live other).mp live)
  · intro first second liveFirst liveSecond same
    rw [relinks.getID, relinks.getID] at same
    exact placed.distinct first second ((relinks.live first).mp liveFirst)
      ((relinks.live second).mp liveSecond) same
  · intro owner other otherScope otherID entry
    rw [relinks.owns] at entry
    rw [relinks.live, relinks.getID, relinks.ownerObject]
    split at entry
    · rename_i same
      obtain ⟨linked, -, identified⟩ := entry
      rw [if_pos same, same]
      exact ⟨liveObject, identified, linked⟩
    · rename_i different
      rw [if_neg different]
      exact placed.entry owner other otherScope otherID entry
  · intro owner other _ _ _ _ first second
    rw [relinks.owns] at first second
    split at first
    · rename_i same
      rw [if_pos same] at second
      exact first.2.1.trans second.2.1.symm
    · rename_i different
      rw [if_neg different] at second
      exact placed.single owner other _ _ _ _ first second
  · intro other none
    rw [relinks.ownerObject] at none
    rw [relinks.getOwnerID]
    split at none
    · rename_i same
      rw [if_pos same, none]
      rfl
    · rename_i different
      rw [if_neg different]
      exact placed.unowned other none

/-- Giving an object another owner that exists keeps the links. -/
theorem Sound.relinks {link : Option Pointer} {scope : AudioObjectPropertyScope}
    (sound : Sound state) (relinks : Relinks state next object link scope)
    (liveObject : state.Live object) (liveOwner : ∀ owner ∈ link, state.Live owner)
    (alone : ∀ object, next.Live object → next.useCount object = 0 → Alone next object)
    : Linked next := by
  have placed := sound.toPlaced.relinks relinks liveObject
  refine ⟨placed, ?_, alone⟩
  intro other owner live _ linked
  have live := (relinks.live other).mp live
  rw [relinks.ownerObject] at linked
  rw [relinks.live, relinks.getOwnerID, relinks.getID, relinks.getID]
  split at linked
  · rename_i same
    refine ⟨liveOwner owner linked, ?_, scope, (relinks.owns _ _ _ _).mpr ?_⟩
    · rw [if_pos same, linked]
      rfl
    · rw [if_pos same, same]
      exact ⟨linked, rfl, rfl⟩
  · rename_i different
    obtain ⟨liveOwner, identified, otherScope, entry⟩ :=
      sound.owned other owner live (sound.referenced other live) linked
    refine ⟨liveOwner, ?_, otherScope, (relinks.owns _ _ _ _).mpr ?_⟩
    · rw [if_neg different, identified]
    · rw [if_neg different]
      exact entry

/-- The state after an object is removed from its owner. -/
def removed (state : State) (owner object : Pointer) (scope : AudioObjectPropertyScope)
    (objectID : AudioObjectID)
    : State :=
  (state.setOwner object none kAudioObjectUnknown).setOwnedObjects owner
    ((state.ownedObjects owner).remove scope objectID)

/-- The state after an object without an owner is added to one. -/
def added (state : State) (owner object : Pointer) (scope : AudioObjectPropertyScope) : State :=
  (state.setOwnedObjects owner
      ((state.ownedObjects owner).assign scope (state.getID object) object)).setOwner
    object (some owner) (state.getID owner)

/-- Removing an object from its owner leaves it without one. -/
theorem Placed.relinks_removed {scope : AudioObjectPropertyScope} {objectID : AudioObjectID}
    (placed : Placed state) (stored : Owns state owner object scope objectID)
    : Relinks state (removed state owner object scope objectID) object none scope := by
  have liveOwner := State.live_of_lookup stored
  obtain ⟨liveObject, identified, link⟩ := placed.entry owner object scope objectID stored
  constructor
  · rw [removed, State.setOwnedObjects, State.constructed_update, State.setOwner,
      State.constructed_update]
  · exact fun _ => (State.live_setOwnedObjects _).trans (State.live_setOwner _ _)
  · exact fun _ => (State.getID_setOwnedObjects _).trans (State.getID_setOwner _ _)
  · exact fun _ =>
      (State.ownerObject_setOwnedObjects _).trans (State.ownerObject_setOwner _ _ liveObject)
  · exact fun _ =>
      (State.getOwnerID_setOwnedObjects _).trans (State.getOwnerID_setOwner _ _ liveObject)
  · intro holder other otherScope otherID
    have only : Owns state holder object otherScope otherID
        → holder = owner ∧ otherScope = scope ∧ otherID = objectID := by
      intro entry
      obtain ⟨-, rfl, otherLink⟩ := placed.entry holder object otherScope otherID entry
      obtain rfl := Option.some.inj (link.symm.trans otherLink)
      exact ⟨rfl, placed.single _ _ _ _ _ _ entry stored, identified.symm⟩
    rw [Owns, removed,
      State.ownedObjects_setOwnedObjects _ ((State.live_setOwner _ _).mpr liveOwner),
      State.ownedObjects_setOwner]
    by_cases another : other = object
    · rw [if_pos another, another]
      refine iff_of_false ?_ (fun both => by cases both.1)
      intro entry
      split at entry
      · rename_i same
        rw [NestedMap.lookup_remove] at entry
        split at entry
        · cases entry
        · rename_i neither
          exact neither (only (same ▸ entry)).2
      · rename_i different
        exact different (only entry).1
    · rw [if_neg another]
      split
      · rename_i same
        rw [NestedMap.lookup_remove, same]
        split
        · rename_i both
          obtain ⟨rfl, rfl⟩ := both
          refine iff_of_false (fun none => by cases none) (fun entry => another ?_)
          exact Option.some.inj (entry.symm.trans stored)
        · exact Iff.rfl
      · exact Iff.rfl

/-- The count of an object before it, or another one, is removed from its owner. -/
theorem useCount_removed {scope : AudioObjectPropertyScope} {objectID : AudioObjectID}
    (stored : Owns state owner object scope objectID) (other : Pointer)
    : state.useCount other
      = (removed state owner object scope objectID).useCount other
        + if object = other then 1 else 0 := by
  have same : (state.setOwner object none kAudioObjectUnknown).ownedObjects owner
      = state.ownedObjects owner := State.ownedObjects_setOwner _ _
  have before := State.useCount_remove (show ((state.setOwner object none
    kAudioObjectUnknown).ownedObjects owner).lookup scope objectID = some object
    from same ▸ stored) other
  rwa [State.useCount_setOwner, same] at before

/-- Removing an object from its owner keeps the links. -/
theorem Sound.removed {scope : AudioObjectPropertyScope} {objectID : AudioObjectID}
    (sound : Sound state) (stored : Owns state owner object scope objectID)
    (releasable : Releasable state object)
    : Linked (removed state owner object scope objectID) := by
  have relinks := sound.toPlaced.relinks_removed stored
  obtain ⟨liveObject, -, link⟩ := sound.entry owner object scope objectID stored
  refine sound.relinks relinks liveObject nofun ?_
  intro other liveOther none
  have counted := useCount_removed stored other
  have referenced := sound.referenced other ((relinks.live other).mp liveOther)
  have same : object = other := by
    by_contra different
    rw [if_neg different] at counted
    omega
  subst same
  rw [if_pos rfl] at counted
  refine (releasable (by omega)).mono ?_ ?_
  · intro holder other otherScope otherID entry
    rw [relinks.owns] at entry
    split at entry
    · cases entry.1
    · exact entry
  · intro other
    have counted := useCount_removed stored other
    omega

/-- Adding an object that has no owner to one gives it that owner. -/
theorem Placed.relinks_added (placed : Placed state) (live : state.Live owner)
    (liveObject : state.Live object) (unowned : state.ownerObject object = none)
    (scope : AudioObjectPropertyScope)
    : Relinks state (added state owner object scope) object (some owner) scope := by
  have liveAfter {map} : (state.setOwnedObjects owner map).Live object :=
    (State.live_setOwnedObjects _).mpr liveObject
  have nowhere : ∀ holder otherScope otherID, ¬Owns state holder object otherScope otherID := by
    intro holder otherScope otherID entry
    have link := (placed.entry holder object otherScope otherID entry).2.2
    rw [unowned] at link
    cases link
  constructor
  · rw [added, State.setOwner, State.constructed_update, State.setOwnedObjects,
      State.constructed_update]
  · exact fun _ => (State.live_setOwner _ _).trans (State.live_setOwnedObjects _)
  · exact fun _ => (State.getID_setOwner _ _).trans (State.getID_setOwnedObjects _)
  · intro other
    rw [added, State.ownerObject_setOwner _ _ liveAfter, State.ownerObject_setOwnedObjects]
  · intro other
    rw [added, State.getOwnerID_setOwner _ _ liveAfter, State.getOwnerID_setOwnedObjects]
    rfl
  · intro holder other otherScope otherID
    rw [Owns, added, State.ownedObjects_setOwner, State.ownedObjects_setOwnedObjects _ live]
    by_cases another : other = object
    · rw [if_pos another, another]
      constructor
      · intro entry
        split at entry
        · rename_i same
          rw [NestedMap.lookup_assign] at entry
          split at entry
          · rename_i both
            exact ⟨congrArg some same.symm, both⟩
          · exact absurd entry (nowhere owner otherScope otherID)
        · exact absurd entry (nowhere holder otherScope otherID)
      · rintro ⟨same, rfl, rfl⟩
        rw [if_pos (Option.some.inj same).symm, NestedMap.lookup_assign, if_pos ⟨rfl, rfl⟩]
    · rw [if_neg another]
      split
      · rename_i same
        rw [NestedMap.lookup_assign, same]
        split
        · rename_i both
          refine iff_of_false (fun equal => another (Option.some.inj equal).symm) ?_
          intro entry
          obtain ⟨liveOther, identified, -⟩ := placed.entry _ _ _ _ entry
          exact another
            (placed.distinct other object liveOther liveObject (identified.symm.trans both.2))
        · exact Iff.rfl
      · exact Iff.rfl

/-- Adding an object that has no owner keeps the links. -/
theorem Sound.added (sound : Sound state) (live : state.Live owner)
    (liveObject : state.Live object) (unowned : state.ownerObject object = none)
    (scope : AudioObjectPropertyScope)
    : Linked (added state owner object scope) := by
  have relinks := sound.toPlaced.relinks_added live liveObject unowned scope
  refine sound.relinks relinks liveObject ?_ ?_
  · intro holder same
    exact Option.some.inj same ▸ live
  · intro other liveOther unreferenced
    have absent : (state.ownedObjects owner).lookup scope (state.getID object) = none := by
      refine Option.eq_none_iff_forall_ne_some.mpr (fun another entry => ?_)
      obtain ⟨liveAnother, identified, link⟩ := sound.entry owner another _ _ entry
      obtain rfl := sound.distinct object another liveObject liveAnother identified
      rw [unowned] at link
      cases link
    have counted := State.useCount_assign live absent object other
    rw [Object.added, State.useCount_setOwner] at unreferenced
    have referenced := sound.referenced other ((relinks.live other).mp liveOther)
    omega

/-- Dropping a reference keeps the links. -/
theorem Sound.drop (sound : Sound state) (held : (Holder.user, object) ∈ state.held)
    (releasable : Releasable state object)
    : Linked { state with held := state.held.release .user object } := by
  have counts : ∀ other, state.useCount other
      = State.useCount { state with held := state.held.release .user object } other
        + if object = other then 1 else 0 := by
    intro other
    have released := References.count_eq_release held other
    rw [State.useCount, State.useCount, References.count_add, References.count_add, released]
    exact Nat.add_right_comm _ _ _
  refine {
    sound with
    owned := fun other owner live _ => sound.owned other owner live (sound.referenced other live)
    alone := ?_
  }
  intro other live none
  have counted := counts other
  have referenced := sound.referenced other live
  have same : object = other := by
    by_contra different
    rw [if_neg different] at counted
    omega
  subst same
  rw [if_pos rfl] at counted
  refine (releasable (by omega)).mono (fun _ _ _ _ entry => entry) ?_
  intro other
  have counted := counts other
  omega

/-- The pointer of the next object is not in use. -/
theorem Placed.unused (placed : Placed state) : ¬state.Live state.constructed :=
  fun live => Nat.lt_irrefl _ (placed.fresh state.constructed live)

/-- Constructing an object changes the ID of no other one. -/
theorem Placed.getID_construct {objectID : AudioObjectID} {isInstance : AudioClassID → Bool}
    (placed : Placed state) (live : state.Live object)
    : (state.construct objectID isInstance).getID object = state.getID object := by
  rw [State.getID_construct, if_neg (placed.fresh object live).ne]

/-- A constructed object has no owner, and the others have the owner they had. -/
theorem ownerObject_construct {objectID : AudioObjectID} {isInstance : AudioClassID → Bool}
    (unused : ¬state.Live state.constructed) (object : Pointer)
    : (state.construct objectID isInstance).ownerObject object = state.ownerObject object :=
  State.read_construct Fields.ownerObject none unused rfl

theorem getOwnerID_construct {objectID : AudioObjectID} {isInstance : AudioClassID → Bool}
    (unused : ¬state.Live state.constructed) (object : Pointer)
    : (state.construct objectID isInstance).getOwnerID object = state.getOwnerID object :=
  State.read_construct Fields.ownerObjectID kAudioObjectUnknown unused rfl

/-- A constructed object owns nothing. -/
theorem owns_construct {objectID : AudioObjectID} {isInstance : AudioClassID → Bool}
    (unused : ¬state.Live state.constructed) (owner object : Pointer)
    (scope : AudioObjectPropertyScope) (otherID : AudioObjectID)
    : Owns (state.construct objectID isInstance) owner object scope otherID
      ↔ Owns state owner object scope otherID := by
  rw [Owns, State.ownedObjects, State.read_construct Fields.ownedObjects .empty unused rfl]
  exact Iff.rfl

/-- Constructing an object keeps objects placed: nothing is linked to it. -/
theorem Placed.construct {objectID : AudioObjectID} {isInstance : AudioClassID → Bool}
    (placed : Placed state) (enabled : Enabled state (.construct objectID isInstance))
    : Placed (state.construct objectID isInstance) := by
  have unused := placed.unused
  have getID {other : Pointer} (live : state.Live other)
      : (state.construct objectID isInstance).getID other = state.getID other :=
    placed.getID_construct live
  have owns : ∀ owner other scope otherID,
      Owns (state.construct objectID isInstance) owner other scope otherID
      ↔ Owns state owner other scope otherID :=
    owns_construct unused
  have unequal : ∀ other, state.Live other → state.getID other ≠ objectID := by
    intro other live
    obtain ⟨fields, found⟩ := Option.isSome_iff_exists.mp live
    rw [State.getID, found]
    exact enabled.2 (other, fields) (state.objects.find?_eq_some_iff.mp found)
  constructor
  · intro other live
    rcases State.live_construct.mp live with rfl | live
    · exact Nat.lt_succ_self _
    · exact (placed.fresh other live).trans (Nat.lt_succ_self _)
  · intro other live
    rcases State.live_construct.mp live with rfl | live
    · rw [State.getID_construct, if_pos rfl]
      exact enabled.1
    · rw [getID live]
      exact placed.identified other live
  · intro first second liveFirst liveSecond same
    rcases State.live_construct.mp liveFirst with rfl | liveFirst <;>
      rcases State.live_construct.mp liveSecond with rfl | liveSecond
    · rfl
    · rw [State.getID_construct, if_pos rfl, getID liveSecond] at same
      exact absurd same.symm (unequal second liveSecond)
    · rw [getID liveFirst, State.getID_construct, if_pos rfl] at same
      exact absurd same (unequal first liveFirst)
    · rw [getID liveFirst, getID liveSecond] at same
      exact placed.distinct first second liveFirst liveSecond same
  · intro owner other scope otherID entry
    obtain ⟨live, identified, link⟩ := placed.entry _ _ _ _ ((owns _ _ _ _).mp entry)
    exact ⟨State.live_construct.mpr (Or.inr live), identified.trans (getID live).symm,
      (ownerObject_construct unused other).trans link⟩
  · intro owner other _ _ _ _ first second
    exact placed.single owner other _ _ _ _ ((owns _ _ _ _).mp first) ((owns _ _ _ _).mp second)
  · intro other none
    exact (getOwnerID_construct unused other).trans
      (placed.unowned other ((ownerObject_construct unused other).symm.trans none))

/-- Constructing an object keeps the links. -/
theorem Sound.construct {objectID : AudioObjectID} {isInstance : AudioClassID → Bool}
    (sound : Sound state) (enabled : Enabled state (.construct objectID isInstance))
    : Linked (state.construct objectID isInstance) := by
  have placed := sound.toPlaced.construct enabled
  have unused := sound.toPlaced.unused
  refine ⟨placed, ?_, ?_⟩
  · intro other owner live _ link
    rw [ownerObject_construct unused] at link
    rcases State.live_construct.mp live with rfl | live
    · rw [State.ownerObject, State.find?_of_not_live unused] at link
      cases link
    · obtain ⟨liveOwner, identified, scope, entry⟩ :=
        sound.owned other owner live (sound.referenced other live) link
      refine ⟨State.live_construct.mpr (Or.inr liveOwner), ?_, scope, ?_⟩
      · rw [getOwnerID_construct unused, sound.toPlaced.getID_construct liveOwner, identified]
      · rw [owns_construct unused, sound.toPlaced.getID_construct live]
        exact entry
  · intro other live none
    rw [State.useCount_construct unused] at none
    rcases State.live_construct.mp live with rfl | live
    · rw [if_pos rfl] at none
      cases none
    · exact absurd (Nat.eq_zero_of_add_eq_zero_right none) (sound.referenced other live)

/-- Without objects there are no links. -/
theorem sound_of_empty (empty : state.objects = .empty) : Sound state := by
  have nobody : ∀ object, ¬state.Live object := by
    intro object live
    rw [State.Live, empty] at live
    cases live
  have nothing : ∀ owner object scope objectID, ¬Owns state owner object scope objectID :=
    fun owner _ _ _ entry => nobody owner (State.live_of_lookup entry)
  exact {
    fresh := fun object live => absurd live (nobody object)
    identified := fun object live => absurd live (nobody object)
    distinct := fun first _ live => absurd live (nobody first)
    entry := fun owner object scope objectID entry => absurd entry (nothing _ _ _ _)
    single := fun owner object _ _ _ _ entry => absurd entry (nothing _ _ _ _)
    unowned := fun object _ => by
      rw [State.getOwnerID, empty]
      rfl
    owned := fun object _ live => absurd live (nobody object)
    alone := fun object live => absurd live (nobody object)
    referenced := fun object live => absurd live (nobody object)
  }

/-- All owned objects are listed in the global scope, whatever their class. -/
theorem getOwnedObjectIDs_global (state : State) (owner : Pointer)
    : state.getOwnedObjectIDs owner kAudioObjectPropertyScopeGlobal 0
      = (state.ownedObjects owner).listing.map (fun entry => entry.2.1) := by
  simp [State.getOwnedObjectIDs, NestedMap.listing, List.map_flatMap, Function.comp_def]

/-- The links agree between objects that all have references. -/
theorem Sound.linksAgree (sound : Sound state) : LinksAgree state := by
  constructor
  · intro object ownerID live known
    constructor
    · intro identified
      cases link : state.ownerObject object with
      | none => exact absurd (identified.symm.trans (sound.unowned object link)) known
      | some owner =>
          obtain ⟨liveOwner, same, scope, entry⟩ :=
            sound.owned object owner live (sound.referenced object live) link
          exact ⟨owner, scope, _, liveOwner, same.symm.trans identified, entry⟩
    · rintro ⟨owner, scope, objectID, -, rfl, entry⟩
      have link := (sound.entry owner object scope objectID entry).2.2
      exact (sound.owned object owner live (sound.referenced object live) link).2.1
  · intro object owner scope objectID otherOwner otherScope otherID first second
    obtain ⟨-, rfl, link⟩ := sound.entry _ _ _ _ first
    obtain ⟨-, rfl, otherLink⟩ := sound.entry _ _ _ _ second
    obtain rfl := Option.some.inj (link.symm.trans otherLink)
    exact ⟨rfl, sound.single _ _ _ _ _ _ first second, rfl⟩
  · intro owner live
    rw [getOwnedObjectIDs_global]
    refine (NestedMap.nodup_listing _).map_on ?_
    rintro ⟨scope, objectID, object⟩ listed ⟨otherScope, otherID, other⟩ otherListed same
    have entry : Owns state owner object scope objectID := NestedMap.mem_listing.mp listed
    have otherEntry : Owns state owner other otherScope otherID :=
      NestedMap.mem_listing.mp otherListed
    obtain ⟨liveObject, rfl, -⟩ := sound.entry _ _ _ _ entry
    obtain ⟨liveOther, rfl, -⟩ := sound.entry _ _ _ _ otherEntry
    obtain rfl := sound.distinct object other liveObject liveOther same
    obtain rfl := sound.single _ _ _ _ _ _ entry otherEntry
    rfl
  · intro owner objectID liveOwner
    rw [getOwnedObjectIDs_global, List.mem_map]
    constructor
    · rintro ⟨⟨scope, _, object⟩, listed, rfl⟩
      obtain ⟨live, rfl, link⟩ := sound.entry _ _ _ _ (NestedMap.mem_listing.mp listed)
      have identified := (sound.owned object owner live (sound.referenced object live) link).2.1
      exact ⟨object, live, rfl, identified⟩
    · rintro ⟨object, live, rfl, identified⟩
      cases link : state.ownerObject object with
      | none =>
          have unknown := (sound.unowned object link).symm.trans identified
          exact absurd unknown.symm (sound.identified owner liveOwner)
      | some holder =>
          obtain ⟨liveHolder, same, scope, entry⟩ :=
            sound.owned object holder live (sound.referenced object live) link
          obtain rfl := sound.distinct holder owner liveHolder liveOwner
            (same.symm.trans identified)
          exact ⟨(scope, state.getID object, object), NestedMap.mem_listing.mpr entry, rfl⟩

end Aspl.Object
