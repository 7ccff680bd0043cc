import Aspl.Base.OrderedMap
import Aspl.Dispatcher.Allocation

/-! Registration of objects in `Dispatcher`: the map of registered objects beside the bitset of
allocated IDs, runs of registrations and unregistrations, and what automatic registration
yields in them. `registrationMutex_` makes each call one step.
-/

namespace Aspl.Dispatcher

open CoreAudio

universe u

/-- The fields of a dispatcher that registration reads and writes. -/
structure Registry (Object : Type u) where
  allocator : Allocator
  registeredObjects : OrderedMap AudioObjectID Object := .empty

/-- A call of a registration method. -/
inductive Call (Object : Type u) where
  | registerObject (object : Object) (objectID : AudioObjectID)
  | unregisterObject (objectID : AudioObjectID)

/-- The automatic registration of an object. -/
abbrev Call.registerNew {Object : Type u} (object : Object) : Call Object :=
  .registerObject object kAudioObjectUnknown

namespace Registry

variable {Object : Type u}

/-- `Dispatcher::Dispatcher(tracer, hintMaximumID)`. -/
def new (hintMaximumID : AudioObjectID) : Registry Object where
  allocator := { desiredMaximumID := hintMaximumID }

/-- The ID that `RegisterObject()` goes on with, allocated if none was given. -/
def chooseID (registry : Registry Object) (objectID : AudioObjectID)
    : AudioObjectID × Allocator :=
  if objectID = kAudioObjectUnknown then registry.allocator.allocateID
  else (objectID, registry.allocator)

/-- `Dispatcher::RegisterObject()`: the returned ID and the registry after the call. -/
def registerObject (registry : Registry Object) (object : Object) (objectID : AudioObjectID)
    : AudioObjectID × Registry Object :=
  let (objectID, allocator) := registry.chooseID objectID
  let registry := { registry with allocator := allocator }
  if (registry.registeredObjects.find? objectID).isSome then (kAudioObjectUnknown, registry)
  else
    (objectID, {
      registry with
      registeredObjects := registry.registeredObjects.insert objectID object
    })

/-- `Dispatcher::UnregisterObject()`. -/
def unregisterObject (registry : Registry Object) (objectID : AudioObjectID)
    : Registry Object :=
  if objectID = kAudioObjectUnknown then registry
  else if (registry.registeredObjects.find? objectID).isNone then registry
  else {
    allocator := registry.allocator.freeID objectID
    registeredObjects := registry.registeredObjects.erase objectID
  }

/-- The registry after a call. -/
def perform (registry : Registry Object) : Call Object → Registry Object
  | .registerObject object objectID => (registry.registerObject object objectID).2
  | .unregisterObject objectID => registry.unregisterObject objectID

/-- The registry after a sequence of calls. -/
def run (registry : Registry Object) (calls : List (Call Object)) : Registry Object :=
  calls.foldl perform registry

/-- An automatic registration yields a new ID that stands for its object from then on. -/
structure YieldsFreshID (registry : Registry Object) (object : Object) : Prop where
  nonzero : (registry.registerObject object kAudioObjectUnknown).1 ≠ kAudioObjectUnknown
  unreserved : (registry.registerObject object kAudioObjectUnknown).1 ∉ reservedIDs
  unregistered
    : registry.registeredObjects.find? (registry.registerObject object kAudioObjectUnknown).1
      = none
  resolves
    : ∀ later : List (Call Object),
        .unregisterObject (registry.registerObject object kAudioObjectUnknown).1 ∉ later
        → ((registry.registerObject object kAudioObjectUnknown).2.run later).registeredObjects.find?
            (registry.registerObject object kAudioObjectUnknown).1
          = some object

/-- No registered object stands in the way of the next allocation: an ID that is free and not
registered comes, among the candidates, before every registered ID that passes `IsFree()`.
Such registered IDs were passed to `RegisterObject()`, which leaves their bits clear.
-/
def Unobstructed (registry : Registry Object) : Prop :=
  ∃ before objectID after,
    registry.allocator.candidates = before ++ objectID :: after
    ∧ registry.allocator.isFree objectID = true
    ∧ registry.registeredObjects.find? objectID = none
    ∧ ∀ other ∈ before,
        registry.registeredObjects.find? other ≠ none
        → registry.allocator.isFree other = false

/-- The bitset is within bounds, and each set bit belongs to a registered object. -/
structure Consistent (registry : Registry Object) : Prop where
  bounded : registry.allocator.Bounded
  registered
    : ∀ objectID : AudioObjectID,
        Bitset.test registry.allocator.allocatedBits objectID.toNat = true
        → registry.registeredObjects.find? objectID ≠ none

/-- Fewer objects are alive than a 31-bit number counts. An object registers once, in its
constructor, so that the registered objects are those alive.
-/
def Few (registry : Registry Object) : Prop :=
  registry.registeredObjects.size < 2147483648

/-- Marking an ID sets its bit and no other. -/
theorem test_setFree (allocator : Allocator) (marked other : AudioObjectID) (free : Bool)
    : Bitset.test (allocator.setFree marked free).allocatedBits other.toNat
      = if other = marked then !free else Bitset.test allocator.allocatedBits other.toNat := by
  simp only [Allocator.setFree, Bitset.test_assign, UInt32.toNat_inj]

/-- A new dispatcher has no set bits. -/
theorem consistent_new (hintMaximumID : AudioObjectID)
    : (new hintMaximumID : Registry Object).Consistent where
  bounded := Allocator.bounded_new hintMaximumID
  registered objectID isSet := by
    have outside : ([] : List UInt64).length ≤ objectID.toNat / 64 := Nat.zero_le _
    exact absurd isSet (by rw [new, Bitset.test_of_length_le outside]; simp)

/-- Registration fails if the chosen ID is in use, and else binds it to the object. -/
theorem registerObject_cases (registry : Registry Object) (object : Object)
    (objectID : AudioObjectID)
    : (registry.registeredObjects.find? (registry.chooseID objectID).1 ≠ none
        ∧ registry.registerObject object objectID
          = (kAudioObjectUnknown, { registry with allocator := (registry.chooseID objectID).2 }))
      ∨ (registry.registeredObjects.find? (registry.chooseID objectID).1 = none
        ∧ registry.registerObject object objectID
          = ((registry.chooseID objectID).1, {
              allocator := (registry.chooseID objectID).2
              registeredObjects :=
                registry.registeredObjects.insert (registry.chooseID objectID).1 object
            })) := by
  simp only [registerObject]
  split
  · rename_i inUse
    exact Or.inl ⟨Option.isSome_iff_ne_none.mp inUse, rfl⟩
  · rename_i unused
    exact Or.inr ⟨by simpa using unused, rfl⟩

/-- Unregistration changes nothing, or frees the ID of a registered object. -/
theorem unregisterObject_cases (registry : Registry Object) (objectID : AudioObjectID)
    : registry.unregisterObject objectID = registry
      ∨ registry.unregisterObject objectID = {
          allocator := registry.allocator.freeID objectID
          registeredObjects := registry.registeredObjects.erase objectID
        } := by
  rw [unregisterObject]
  split
  · exact Or.inl rfl
  · split
    · exact Or.inl rfl
    · exact Or.inr rfl

/-- Unregistering what is not registered changes nothing. -/
theorem unregisterObject_of_none {registry : Registry Object} {objectID : AudioObjectID}
    (absent : objectID = kAudioObjectUnknown ∨ registry.registeredObjects.find? objectID = none)
    : registry.unregisterObject objectID = registry := by
  rw [unregisterObject]
  split
  · rfl
  · rename_i known
    rw [absent.resolve_left known]
    rfl

/-- Unregistering what is registered frees its ID. -/
theorem unregisterObject_of_some {registry : Registry Object} {objectID : AudioObjectID}
    (known : objectID ≠ kAudioObjectUnknown) {object : Object}
    (found : registry.registeredObjects.find? objectID = some object)
    : registry.unregisterObject objectID = {
        allocator := registry.allocator.freeID objectID
        registeredObjects := registry.registeredObjects.erase objectID
      } := by
  rw [unregisterObject, if_neg known, found]
  rfl

/-- Choosing an ID keeps the bitset bounded and sets the bit of the chosen ID at most. -/
theorem Consistent.chooseID {registry : Registry Object} (consistent : registry.Consistent)
    (objectID : AudioObjectID)
    : (registry.chooseID objectID).2.Bounded
      ∧ ∀ other : AudioObjectID,
          Bitset.test (registry.chooseID objectID).2.allocatedBits other.toNat = true
          → other = (registry.chooseID objectID).1
            ∨ registry.registeredObjects.find? other ≠ none := by
  rw [Registry.chooseID]
  split
  · refine ⟨consistent.bounded.setFree _ _, fun other isSet => ?_⟩
    by_cases same : other = registry.allocator.allocateID.1
    · exact Or.inl same
    · have marked := test_setFree registry.allocator registry.allocator.allocateID.1 other false
      rw [if_neg same] at marked
      exact Or.inr (consistent.registered other (marked ▸ isSet))
  · exact ⟨consistent.bounded, fun other isSet => Or.inr (consistent.registered other isSet)⟩

/-- Registration keeps set bits on registered objects: an allocated bit is either that of the
new object or, when the allocated ID is in use, that of the object using it.
-/
theorem Consistent.registerObject {registry : Registry Object}
    (consistent : registry.Consistent) (object : Object) (objectID : AudioObjectID)
    : (registry.registerObject object objectID).2.Consistent := by
  obtain ⟨bounded, bits⟩ := consistent.chooseID objectID
  rcases registry.registerObject_cases object objectID
    with ⟨inUse, result⟩ | ⟨unused, result⟩
  · rw [result]
    refine ⟨bounded, fun other isSet => ?_⟩
    rcases bits other isSet with rfl | registered
    · exact inUse
    · exact registered
  · rw [result]
    refine ⟨bounded, fun other isSet => ?_⟩
    rw [OrderedMap.find?_insert]
    split
    · exact Option.some_ne_none _
    · rename_i different
      exact (bits other isSet).resolve_left different

/-- Unregistration clears the bit of the ID that it removes from the map. -/
theorem Consistent.unregisterObject {registry : Registry Object}
    (consistent : registry.Consistent) (objectID : AudioObjectID)
    : (registry.unregisterObject objectID).Consistent := by
  rcases registry.unregisterObject_cases objectID with result | result <;> rw [result]
  · exact consistent
  · refine ⟨consistent.bounded.setFree _ _, fun other isSet => ?_⟩
    have marked := test_setFree registry.allocator objectID other true
    by_cases same : other = objectID
    · rw [if_pos same] at marked
      exact absurd (marked ▸ isSet : (!true) = true) (by decide)
    · rw [if_neg same] at marked
      rw [OrderedMap.find?_erase, if_neg same]
      exact consistent.registered other (marked ▸ isSet)

/-- Every call keeps the bitset and the map consistent. -/
theorem Consistent.perform {registry : Registry Object} (consistent : registry.Consistent)
    (call : Call Object)
    : (registry.perform call).Consistent := by
  cases call with
  | registerObject object objectID => exact consistent.registerObject object objectID
  | unregisterObject objectID => exact consistent.unregisterObject objectID

/-- Every run keeps the bitset and the map consistent, by induction on its calls. -/
theorem Consistent.run {registry : Registry Object} (consistent : registry.Consistent)
    (calls : List (Call Object))
    : (registry.run calls).Consistent := by
  induction calls generalizing registry with
  | nil => exact consistent
  | cons call _ ih => exact ih (consistent.perform call)

/-- A call other than its unregistration leaves a registered object under its ID. -/
theorem find?_perform {registry : Registry Object} {objectID : AudioObjectID}
    {object : Object} {call : Call Object}
    (found : registry.registeredObjects.find? objectID = some object)
    (other : call ≠ .unregisterObject objectID)
    : (registry.perform call).registeredObjects.find? objectID = some object := by
  cases call with
  | registerObject newcomer requested =>
      rcases registry.registerObject_cases newcomer requested
        with ⟨-, result⟩ | ⟨unused, result⟩
      · rw [perform, result]
        exact found
      · have different : objectID ≠ (registry.chooseID requested).1 := by
          intro same
          rw [same, unused] at found
          cases found
        rw [perform, result, OrderedMap.find?_insert, if_neg different]
        exact found
  | unregisterObject removed =>
      have different : objectID ≠ removed := fun same => other (same ▸ rfl)
      rcases registry.unregisterObject_cases removed with result | result
        <;> rw [perform, result]
      · exact found
      · rw [OrderedMap.find?_erase, if_neg different]
        exact found

/-- An object stays under its ID in every run that does not unregister the ID. -/
theorem find?_run {registry : Registry Object} {objectID : AudioObjectID} {object : Object}
    {calls : List (Call Object)}
    (found : registry.registeredObjects.find? objectID = some object)
    (kept : .unregisterObject objectID ∉ calls)
    : (registry.run calls).registeredObjects.find? objectID = some object := by
  induction calls generalizing registry with
  | nil => exact found
  | cons call rest ih =>
      have other : call ≠ .unregisterObject objectID := fun same => kept (same ▸ by simp)
      exact ih (find?_perform found other) (fun member => kept (List.mem_cons_of_mem _ member))

-----------------------------------------------------------------------------------------
-- Automatic registration
-----------------------------------------------------------------------------------------

/-- With few objects alive, allocation returns the first free candidate. -/
theorem Consistent.allocateID_eq {registry : Registry Object}
    (consistent : registry.Consistent) (few : registry.Few)
    : registry.allocator.candidates.find? registry.allocator.isFree
      = some registry.allocator.allocateID.1 := by
  apply Allocator.allocateID_eq consistent.bounded
  apply Allocator.exists_free_candidate consistent.bounded
    (registry.registeredObjects.entries.map Prod.fst)
  · intro objectID isSet
    obtain ⟨object, found⟩ := Option.ne_none_iff_exists'.mp (consistent.registered objectID isSet)
    exact List.mem_map.mpr ⟨_, registry.registeredObjects.find?_eq_some_iff.mp found, rfl⟩
  · have bound : registry.registeredObjects.entries.length < 2147483648 := few
    rw [List.length_map, UInt32.size]
    omega

/-- With few objects alive, the allocated ID is unused exactly if no registered object stands
in the way of the allocation.
-/
theorem Consistent.unused_iff {registry : Registry Object}
    (consistent : registry.Consistent) (few : registry.Few)
    : registry.registeredObjects.find? registry.allocator.allocateID.1 = none
      ↔ registry.Unobstructed := by
  have first := consistent.allocateID_eq few
  constructor
  · intro unused
    obtain ⟨free, before, after, shape, taken⟩ := List.find?_eq_some_iff_append.mp first
    refine ⟨before, _, after, shape, free, unused, ?_⟩
    intro other member _
    simpa using taken other member
  · intro ⟨before, objectID, after, shape, free, unused, behind⟩
    rw [shape, List.find?_append] at first
    cases early : before.find? registry.allocator.isFree with
    | none =>
        -- nothing before the unused ID is free, so that it is the one allocated
        rw [early, Option.none_or, List.find?_cons, free] at first
        exact Option.some.inj first ▸ unused
    | some other =>
        -- a free ID comes even earlier, and being free it is not registered
        rw [early, Option.some_or] at first
        obtain rfl := Option.some.inj first
        by_contra registered
        have taken := behind _ (List.mem_of_find?_eq_some early) registered
        exact Bool.false_ne_true (taken.symm.trans (List.find?_some early))

/-- Automatic registration yields a fresh ID exactly if nothing obstructs the allocation. -/
theorem Consistent.yieldsFreshID_iff {registry : Registry Object}
    (consistent : registry.Consistent) (few : registry.Few) (object : Object)
    : registry.YieldsFreshID object ↔ registry.Unobstructed := by
  have chosen : registry.chooseID kAudioObjectUnknown = registry.allocator.allocateID := if_pos rfl
  have outcome := registry.registerObject_cases object kAudioObjectUnknown
  rw [chosen] at outcome
  rw [← consistent.unused_iff few]
  constructor
  · intro fresh
    rcases outcome with ⟨-, result⟩ | ⟨unused, -⟩
    · exact absurd (congrArg Prod.fst result) fresh.nonzero
    · exact unused
  · intro unused
    have result := (outcome.resolve_left (fun failed => failed.1 unused)).2
    have free := List.find?_some (consistent.allocateID_eq few)
    have unreserved := ((Allocator.isFree_iff _ _).mp free).1
    refine ⟨?_, ?_, ?_, ?_⟩
    · rw [result]
      exact fun zero => unreserved (zero ▸ List.mem_cons_self)
    · rw [result]
      exact unreserved
    · rw [result]
      exact unused
    · intro later kept
      refine find?_run ?_ kept
      rw [result, OrderedMap.find?_insert, if_pos rfl]

/-- In a run from a new dispatcher with few objects alive throughout, every automatic
registration yields a fresh ID exactly if nothing obstructs any of their allocations.
-/
theorem automatic_registrations_fresh (hintMaximumID : AudioObjectID)
    (calls : List (Call Object))
    (few : ∀ before, before <+: calls → ((new hintMaximumID).run before).Few)
    : (∀ before object, before ++ [.registerNew object] <+: calls
        → ((new hintMaximumID).run before).YieldsFreshID object)
      ↔ ∀ before object, before ++ [Call.registerNew object] <+: calls
        → ((new hintMaximumID).run before).Unobstructed := by
  refine forall_congr' fun before => forall_congr' fun object => forall_congr' fun made => ?_
  have reached := (consistent_new hintMaximumID).run before
  exact reached.yieldsFreshID_iff (few before ((List.prefix_append _ _).trans made)) object

/-- A call adds at most one registered object. -/
theorem size_perform (registry : Registry Object) (call : Call Object)
    : (registry.perform call).registeredObjects.size ≤ registry.registeredObjects.size + 1 := by
  have erased := fun objectID => List.length_filter_le
    (fun entry : AudioObjectID × Object => decide (entry.1 ≠ objectID))
    registry.registeredObjects.entries
  cases call with
  | registerObject object objectID =>
      rcases registry.registerObject_cases object objectID with ⟨-, result⟩ | ⟨-, result⟩
      · rw [perform, result]
        exact Nat.le_succ _
      · rw [perform, result, OrderedMap.size, OrderedMap.size,
          (OrderedMap.entries_insert_perm ..).length_eq, List.length_cons]
        exact Nat.succ_le_succ (erased _)
  | unregisterObject objectID =>
      rcases registry.unregisterObject_cases objectID with result | result
        <;> rw [perform, result]
      · exact Nat.le_succ _
      · exact (erased objectID).trans (Nat.le_succ _)

/-- A run of few calls leaves few objects alive, by induction on the calls. -/
theorem size_run (registry : Registry Object) (calls : List (Call Object))
    : (registry.run calls).registeredObjects.size
      ≤ registry.registeredObjects.size + calls.length := by
  induction calls generalizing registry with
  | nil => exact Nat.le_refl _
  | cons call rest ih =>
      have first := registry.size_perform call
      have later := ih (registry.perform call)
      rw [List.length_cons]
      exact later.trans (by omega)

/-- A short run has few objects alive throughout. -/
theorem few_run (hintMaximumID : AudioObjectID) (calls : List (Call Object))
    (short : calls.length < 2147483648)
    : ∀ before, before <+: calls → ((new hintMaximumID).run before).Few := by
  intro before made
  have bound := size_run (new hintMaximumID) before
  have none : (new hintMaximumID : Registry Object).registeredObjects.size = 0 := rfl
  rw [none, Nat.zero_add] at bound
  exact (bound.trans made.length_le).trans_lt short

/-- Every registered ID is reserved or has its bit set. -/
def Allocated (registry : Registry Object) : Prop :=
  ∀ objectID : AudioObjectID,
    registry.registeredObjects.find? objectID ≠ none
    → objectID ∈ reservedIDs
      ∨ Bitset.test registry.allocator.allocatedBits objectID.toNat = true

/-- Choosing an ID keeps the bits that are set. A chosen ID that was not reserved on request
has its bit set.
-/
theorem test_chooseID (registry : Registry Object) (objectID : AudioObjectID)
    : (objectID ∈ reservedIDs
        → (registry.chooseID objectID).1 ∈ reservedIDs
          ∨ Bitset.test (registry.chooseID objectID).2.allocatedBits
              (registry.chooseID objectID).1.toNat = true)
      ∧ ∀ other : AudioObjectID,
          Bitset.test registry.allocator.allocatedBits other.toNat = true
          → Bitset.test (registry.chooseID objectID).2.allocatedBits other.toNat = true := by
  rw [chooseID]
  split
  · have marked := fun other =>
      test_setFree registry.allocator registry.allocator.allocateID.1 other false
    refine ⟨fun _ => Or.inr ?_, fun other isSet => ?_⟩
    · exact (marked _).trans (if_pos rfl)
    · refine (marked other).trans ?_
      split
      · rfl
      · exact isSet
  · exact ⟨Or.inl, fun _ isSet => isSet⟩

/-- Calls that request reserved IDs only keep every other registered ID's bit set. -/
theorem Allocated.perform {registry : Registry Object} (allocated : registry.Allocated)
    {call : Call Object}
    (reserved : ∀ object objectID, call = .registerObject object objectID → objectID ∈ reservedIDs)
    : (registry.perform call).Allocated := by
  intro other registered
  cases call with
  | registerObject object objectID =>
      obtain ⟨chosen, kept⟩ := registry.test_chooseID objectID
      have old := fun before => (allocated other before).imp_right (kept other)
      rcases registry.registerObject_cases object objectID
        with ⟨-, result⟩ | ⟨-, result⟩ <;> rw [Registry.perform, result] at registered ⊢
      · exact old registered
      · rw [OrderedMap.find?_insert] at registered
        split at registered
        · rename_i same
          exact same ▸ chosen (reserved object objectID rfl)
        · exact old registered
  | unregisterObject objectID =>
      rcases registry.unregisterObject_cases objectID with result | result
        <;> rw [Registry.perform, result] at registered ⊢
      · exact allocated other registered
      · rw [OrderedMap.find?_erase] at registered
        split at registered
        · exact absurd rfl registered
        · rename_i different
          refine (allocated other registered).imp_right (fun isSet => ?_)
          exact (test_setFree registry.allocator objectID other true).trans
            (by rw [if_neg different, isSet])

/-- Nothing obstructs an allocation while every registered ID is reserved or has its bit. -/
theorem Allocated.unobstructed {registry : Registry Object} (allocated : registry.Allocated)
    (consistent : registry.Consistent) (few : registry.Few)
    : registry.Unobstructed := by
  refine (consistent.unused_iff few).mp (by_contra fun registered => ?_)
  have free := List.find?_some (consistent.allocateID_eq few)
  obtain ⟨unreserved, clear⟩ := (Allocator.isFree_iff _ _).mp free
  rcases allocated _ registered with reserved | isSet
  · exact unreserved reserved
  · exact Bool.false_ne_true (clear.symm.trans isSet)

/-- Nothing ever obstructs an allocation in a run that requests reserved IDs only. -/
theorem unobstructed_of_reserved (hintMaximumID : AudioObjectID) {calls : List (Call Object)}
    (few : ((new hintMaximumID).run calls).Few)
    (reserved : ∀ object objectID, .registerObject object objectID ∈ calls
      → objectID ∈ reservedIDs)
    : ((new hintMaximumID).run calls).Unobstructed := by
  have kept : ∀ {registry : Registry Object}, registry.Allocated
      → (registry.run calls).Allocated := by
    clear few
    induction calls with
    | nil => exact fun allocated => allocated
    | cons call rest ih =>
        intro registry allocated
        exact ih (fun object objectID member => reserved _ _ (List.mem_cons_of_mem _ member))
          (allocated.perform (fun object objectID same => reserved object _ (same ▸ by simp)))
  have start : (new hintMaximumID : Registry Object).Allocated :=
    fun _ registered => absurd rfl registered
  exact (kept start).unobstructed ((consistent_new hintMaximumID).run calls) few

/-- An object with the reserved ID of the plugin obstructs no allocation. -/
theorem automatic_registration_after_plugin
    : ((new 1000).run [.registerObject false kAudioObjectPlugInObject]).YieldsFreshID true := by
  let calls := [Call.registerObject false kAudioObjectPlugInObject, .registerNew true]
  have few := few_run 1000 calls (by decide)
  refine (automatic_registrations_fresh 1000 calls few).mpr ?_ _ _ (List.prefix_refl _)
  intro before object made
  have earlier := (List.prefix_append before _).trans made
  refine unobstructed_of_reserved 1000 (few before earlier) ?_
  intro other objectID member
  rcases List.mem_cons.mp (earlier.subset member) with plugin | rest
  · obtain ⟨-, rfl⟩ := Call.registerObject.inj plugin
    decide
  · obtain ⟨-, rfl⟩ := Call.registerObject.inj (List.mem_singleton.mp rest)
    decide

/-- An object with an explicit ID whose bit is clear takes the ID that is allocated next, and
the automatic registration returns zero.
-/
theorem automatic_registration_fails
    : ¬ ∀ (hintMaximumID : AudioObjectID) (calls : List (Call Bool)),
        (∀ before, before <+: calls → ((new hintMaximumID).run before).Few)
        → ∀ before object, before ++ [Call.registerNew object] <+: calls
          → ((new hintMaximumID).run before).YieldsFreshID object := by
  intro alwaysFresh
  have fresh := alwaysFresh 1000 [.registerObject false 2, .registerNew true]
    (few_run 1000 _ (by decide)) [.registerObject false 2] true (List.prefix_refl _)
  exact fresh.nonzero (by decide)

end Registry

end Aspl.Dispatcher
