import Aspl.Dispatcher.Registration

/-! Accounting of allocated IDs in `Dispatcher`: the counter, the bitset and the map of
registered objects agree in every run that unregisters automatic IDs only. `RegisterObject()`
allocates nothing for an explicit ID, but `UnregisterObject()` frees it all the same.
-/

namespace Aspl.Dispatcher

open CoreAudio

universe u

/-- The call is one that the library makes: the registration of an object with an automatic
ID, that of the plugin, or the unregistration of an object.
-/
def Call.OfLibrary {Object : Type u} : Call Object → Prop
  | .registerObject _ objectID =>
      objectID = kAudioObjectUnknown ∨ objectID = kAudioObjectPlugInObject
  | .unregisterObject _ => True

/-- A registry beside a record of its history: the IDs of the automatically registered objects
alive, and the largest number of them alive at once so far.
-/
structure Ledger (Object : Type u) where
  registry : Registry Object
  automaticIDs : List AudioObjectID := []
  peak : Nat := 0

namespace Ledger

variable {Object : Type u}

/-- The ledger of a new dispatcher. -/
def new (hintMaximumID : AudioObjectID) : Ledger Object where
  registry := .new hintMaximumID

/-- The allocator of the registry. -/
abbrev allocator (ledger : Ledger Object) : Allocator :=
  ledger.registry.allocator

/-- The IDs of the automatically registered objects alive after a call. -/
def automaticIDsAfter (ledger : Ledger Object) : Call Object → List AudioObjectID
  | .registerObject object objectID =>
      let returned := (ledger.registry.registerObject object objectID).1
      if objectID = kAudioObjectUnknown ∧ returned ≠ kAudioObjectUnknown then
        returned :: ledger.automaticIDs
      else ledger.automaticIDs
  | .unregisterObject objectID => ledger.automaticIDs.filter (· ≠ objectID)

/-- The ledger after a call. -/
def perform (ledger : Ledger Object) (call : Call Object) : Ledger Object where
  registry := ledger.registry.perform call
  automaticIDs := ledger.automaticIDsAfter call
  peak := max ledger.peak (ledger.automaticIDsAfter call).length

/-- The ledger after a sequence of calls. -/
def run (ledger : Ledger Object) (calls : List (Call Object)) : Ledger Object :=
  calls.foldl perform ledger

/-- The counter is the number of set bits and the number of automatic objects alive. -/
structure Exact (ledger : Ledger Object) : Prop where
  bits
    : ledger.allocator.numAllocatedIDs.toNat = Bitset.count ledger.allocator.allocatedBits
  alive : ledger.allocator.numAllocatedIDs.toNat = ledger.automaticIDs.length

/-- A call does not take the counter below zero, and doubles the desired maximum only when
more than half as many automatic objects as its value are alive.
-/
structure Sound (ledger : Ledger Object) (call : Call Object) : Prop where
  positive
    : ∀ objectID, call = .unregisterObject objectID
      → objectID ≠ kAudioObjectUnknown
      → ledger.registry.registeredObjects.find? objectID ≠ none
      → ledger.allocator.numAllocatedIDs ≠ 0
  doubled
    : (ledger.perform call).allocator.desiredMaximumID ≠ ledger.allocator.desiredMaximumID
      → (ledger.perform call).allocator.desiredMaximumID = ledger.allocator.desiredMaximumID * 2
        ∧ ledger.allocator.desiredMaximumID.toNat < 2 * ledger.automaticIDs.length

/-- The accounting is exact after every prefix of a run, and each of its calls is sound. -/
structure Accounted (hintMaximumID : AudioObjectID) (calls : List (Call Object)) : Prop where
  exact_after : ∀ before, before <+: calls → ((new hintMaximumID).run before).Exact
  sound
    : ∀ before call, before ++ [call] <+: calls → ((new hintMaximumID).run before).Sound call

/-- A call does not unregister an object with the ID of the plugin, and registers an object
automatically only when an automatic ID is left.
-/
def Balanced (ledger : Ledger Object) : Call Object → Prop
  | .registerObject _ objectID =>
      objectID = kAudioObjectUnknown
      → ∃ left, left ∉ reservedIDs ∧ ledger.registry.registeredObjects.find? left = none
  | .unregisterObject objectID =>
      objectID = kAudioObjectPlugInObject
      → ledger.registry.registeredObjects.find? objectID = none

/-- The bitset, the counter and the map describe the automatic objects that are alive. -/
structure Tracks (ledger : Ledger Object) : Prop where
  bounded : ledger.allocator.Bounded
  distinct : ledger.automaticIDs.Nodup
  unreserved : ∀ objectID ∈ ledger.automaticIDs, objectID ∉ reservedIDs
  marked
    : ∀ objectID : AudioObjectID, objectID ∈ ledger.automaticIDs
      ↔ Bitset.test ledger.allocator.allocatedBits objectID.toNat = true
  registered
    : ∀ objectID, objectID ∉ reservedIDs
      → (objectID ∈ ledger.automaticIDs
        ↔ ledger.registry.registeredObjects.find? objectID ≠ none)
  counted : ledger.allocator.numAllocatedIDs.toNat = ledger.automaticIDs.length

/-- A run of one more call takes one more step. -/
theorem run_concat (ledger : Ledger Object) (calls : List (Call Object)) (call : Call Object)
    : ledger.run (calls ++ [call]) = (ledger.run calls).perform call :=
  List.foldl_concat ..

/-- A new dispatcher has nothing to account for. -/
theorem tracks_new (hintMaximumID : AudioObjectID)
    : (new hintMaximumID : Ledger Object).Tracks where
  bounded := Allocator.bounded_new hintMaximumID
  distinct := .nil
  unreserved _ member := absurd member List.not_mem_nil
  marked objectID := by
    have outside : ([] : List UInt64).length ≤ objectID.toNat / 64 := Nat.zero_le _
    have clear := Bitset.test_of_length_le outside
    exact ⟨fun member => absurd member List.not_mem_nil,
      fun isSet => absurd (clear.symm.trans isSet) Bool.false_ne_true⟩
  registered objectID _ :=
    ⟨fun member => absurd member List.not_mem_nil, fun found => absurd rfl found⟩
  counted := rfl

/-- A bit is set only for a number that is an ID. -/
theorem Tracks.isID {ledger : Ledger Object} (tracks : ledger.Tracks) {index : Nat}
    (isSet : Bitset.test ledger.allocator.allocatedBits index = true)
    : (UInt32.ofNat index).toNat = index := by
  have limit := tracks.bounded
  simp only [Allocator.Bounded, bitsPerChunk] at limit
  refine UInt32.toNat_ofNat_of_lt' ?_
  by_contra large
  rw [Bitset.test_of_length_le (by omega)] at isSet
  exact Bool.false_ne_true isSet

/-- The set bits are as many as the automatic objects alive. -/
theorem Tracks.count_eq {ledger : Ledger Object} (tracks : ledger.Tracks)
    : Bitset.count ledger.allocator.allocatedBits = ledger.automaticIDs.length := by
  have numbers : (ledger.automaticIDs.map UInt32.toNat).Nodup :=
    tracks.distinct.map (fun _ _ same => UInt32.toNat_inj.mp same)
  rw [← List.length_map (f := UInt32.toNat)]
  refine Bitset.count_eq_length numbers (fun index => ?_)
  rw [List.mem_map]
  constructor
  · intro ⟨objectID, member, number⟩
    exact number ▸ (tracks.marked objectID).mp member
  · intro isSet
    have number := tracks.isID isSet
    exact ⟨UInt32.ofNat index, (tracks.marked _).mpr (by rwa [number]), number⟩

/-- A ledger that tracks its objects is exact. -/
theorem Tracks.exact {ledger : Ledger Object} (tracks : ledger.Tracks) : ledger.Exact where
  bits := tracks.counted.trans tracks.count_eq.symm
  alive := tracks.counted

/-- Fewer automatic objects are alive than there are IDs. -/
theorem Tracks.length_le {ledger : Ledger Object} (tracks : ledger.Tracks)
    : ledger.automaticIDs.length ≤ UInt32.size := by
  rw [← tracks.count_eq]
  have limit := tracks.bounded
  simp only [Allocator.Bounded, bitsPerChunk] at limit
  refine (List.length_filter_le ..).trans ?_
  rwa [List.length_range]

/-- The counter has room for one more object. -/
theorem Tracks.counted_succ {ledger : Ledger Object} (tracks : ledger.Tracks)
    : (ledger.allocator.numAllocatedIDs + 1).toNat = ledger.automaticIDs.length + 1 := by
  have limit := tracks.length_le
  rw [UInt64.toNat_add, tracks.counted]
  simp only [UInt32.size] at limit
  have one : (1 : UInt64).toNat = 1 := rfl
  omega

/-- An ID with a clear bit that is not reserved is left for automatic registration. -/
theorem Tracks.left_iff {ledger : Ledger Object} (tracks : ledger.Tracks)
    {objectID : AudioObjectID} (unreserved : objectID ∉ reservedIDs)
    : ledger.registry.registeredObjects.find? objectID = none
      ↔ Bitset.test ledger.allocator.allocatedBits objectID.toNat = false := by
  rw [← Bool.not_eq_true, ← tracks.marked, tracks.registered _ unreserved, ne_eq, not_not]

/-- With some candidate free, automatic registration binds the object to an ID that is not
reserved and was not in use.
-/
theorem Tracks.registerNew {ledger : Ledger Object} (tracks : ledger.Tracks) (object : Object)
    (exists_free
      : ∃ objectID ∈ ledger.allocator.candidates, ledger.allocator.isFree objectID = true)
    : ledger.allocator.allocateID.1 ∉ reservedIDs
      ∧ ledger.allocator.allocateID.1 ∉ ledger.automaticIDs
      ∧ ledger.registry.registerObject object kAudioObjectUnknown
        = (ledger.allocator.allocateID.1, {
            allocator := ledger.allocator.allocateID.2
            registeredObjects :=
              ledger.registry.registeredObjects.insert ledger.allocator.allocateID.1 object
          }) := by
  have first := Allocator.allocateID_eq tracks.bounded exists_free
  obtain ⟨unreserved, clear⟩ := (Allocator.isFree_iff _ _).mp (List.find?_some first)
  have unused := (tracks.left_iff unreserved).mpr clear
  have chosen : ledger.registry.chooseID kAudioObjectUnknown = ledger.allocator.allocateID :=
    if_pos rfl
  have outcome := ledger.registry.registerObject_cases object kAudioObjectUnknown
  rw [chosen] at outcome
  refine ⟨unreserved, ?_, (outcome.resolve_left (fun failed => failed.1 unused)).2⟩
  exact fun member => (tracks.registered _ unreserved).mp member unused

/-- While an automatic ID is left, some candidate is free. -/
theorem Tracks.exists_free {ledger : Ledger Object} (tracks : ledger.Tracks)
    (left
      : ∃ left, left ∉ reservedIDs ∧ ledger.registry.registeredObjects.find? left = none)
    : ∃ objectID ∈ ledger.allocator.candidates, ledger.allocator.isFree objectID = true := by
  obtain ⟨objectID, unreserved, unused⟩ := left
  exact Allocator.exists_free_candidate_of_clear tracks.bounded unreserved
    ((tracks.left_iff unreserved).mp unused)

/-- The ledger after an automatic registration with some candidate free. -/
theorem Tracks.perform_registerNew {ledger : Ledger Object} (tracks : ledger.Tracks)
    (object : Object)
    (exists_free
      : ∃ objectID ∈ ledger.allocator.candidates, ledger.allocator.isFree objectID = true)
    : ledger.perform (.registerNew object) = {
        registry := {
          allocator := ledger.allocator.allocateID.2
          registeredObjects :=
            ledger.registry.registeredObjects.insert ledger.allocator.allocateID.1 object
        }
        automaticIDs := ledger.allocator.allocateID.1 :: ledger.automaticIDs
        peak := max ledger.peak (ledger.automaticIDs.length + 1)
      } := by
  obtain ⟨unreserved, -, result⟩ := tracks.registerNew object exists_free
  have nonzero : ledger.allocator.allocateID.1 ≠ kAudioObjectUnknown :=
    fun zero => unreserved (zero ▸ List.mem_cons_self)
  have after : ledger.automaticIDsAfter (.registerNew object)
      = ledger.allocator.allocateID.1 :: ledger.automaticIDs := by
    simp only [automaticIDsAfter, result]
    exact if_pos ⟨trivial, nonzero⟩
  rw [perform, after, Registry.perform, result, List.length_cons]

/-- An automatic registration with some candidate free keeps track. -/
theorem Tracks.afterRegisterNew {ledger : Ledger Object} (tracks : ledger.Tracks)
    (object : Object)
    (exists_free
      : ∃ objectID ∈ ledger.allocator.candidates, ledger.allocator.isFree objectID = true)
    : (ledger.perform (.registerNew object)).Tracks := by
  obtain ⟨unreserved, unused, -⟩ := tracks.registerNew object exists_free
  rw [tracks.perform_registerNew object exists_free]
  have marked := fun other =>
    Registry.test_setFree ledger.allocator ledger.allocator.allocateID.1 other false
  refine ⟨?_, List.nodup_cons.mpr ⟨unused, tracks.distinct⟩, ?_, ?_, ?_, ?_⟩
  · exact tracks.bounded.setFree _ _
  · intro objectID member
    rcases List.mem_cons.mp member with rfl | earlier
    · exact unreserved
    · exact tracks.unreserved _ earlier
  · intro objectID
    refine Iff.trans ?_ (Bool.eq_iff_iff.mp (marked objectID)).symm
    rw [List.mem_cons]
    by_cases same : objectID = ledger.allocator.allocateID.1
    · simp [same]
    · simp [same, tracks.marked]
  · intro objectID free
    rw [List.mem_cons, OrderedMap.find?_insert]
    by_cases same : objectID = ledger.allocator.allocateID.1
    · simp [same]
    · simp [same, tracks.registered _ free]
  · exact tracks.counted_succ

/-- The registration of the plugin leaves the allocator as it was, and adds no automatic
object.
-/
theorem perform_registerPlugin (ledger : Ledger Object) (object : Object)
    : (ledger.perform (.registerObject object kAudioObjectPlugInObject)).allocator
        = ledger.allocator
      ∧ (ledger.perform (.registerObject object kAudioObjectPlugInObject)).automaticIDs
        = ledger.automaticIDs
      ∧ ∀ other, other ∉ reservedIDs
        → (ledger.perform
            (.registerObject object kAudioObjectPlugInObject)).registry.registeredObjects.find?
            other
          = ledger.registry.registeredObjects.find? other := by
  have chosen : ledger.registry.chooseID kAudioObjectPlugInObject
      = (kAudioObjectPlugInObject, ledger.allocator) := if_neg (by decide)
  have outcome := ledger.registry.registerObject_cases object kAudioObjectPlugInObject
  rw [chosen] at outcome
  have explicit : ¬kAudioObjectPlugInObject = kAudioObjectUnknown := by decide
  have unchanged : ledger.automaticIDsAfter (.registerObject object kAudioObjectPlugInObject)
      = ledger.automaticIDs := by
    simp only [automaticIDsAfter, explicit, false_and, if_false]
  simp only [perform, unchanged, allocator, Registry.perform]
  rcases outcome with ⟨-, result⟩ | ⟨-, result⟩
  · rw [result]
    exact ⟨rfl, trivial, fun _ _ => rfl⟩
  · rw [result]
    refine ⟨rfl, trivial, fun other unreserved => ?_⟩
    have different : other ≠ kAudioObjectPlugInObject :=
      fun same => unreserved (same ▸ by decide)
    rw [OrderedMap.find?_insert, if_neg different]

/-- The registration of the plugin keeps track. -/
theorem Tracks.afterRegisterPlugin {ledger : Ledger Object} (tracks : ledger.Tracks)
    (object : Object)
    : (ledger.perform (.registerObject object kAudioObjectPlugInObject)).Tracks := by
  obtain ⟨sameAllocator, sameIDs, sameObjects⟩ := ledger.perform_registerPlugin object
  refine ⟨?_, ?_, ?_, ?_, ?_, ?_⟩
  · rw [sameAllocator]
    exact tracks.bounded
  · rw [sameIDs]
    exact tracks.distinct
  · rw [sameIDs]
    exact tracks.unreserved
  · rw [sameAllocator, sameIDs]
    exact tracks.marked
  · intro objectID unreserved
    rw [sameIDs, sameObjects objectID unreserved]
    exact tracks.registered objectID unreserved
  · rw [sameAllocator, sameIDs]
    exact tracks.counted

/-- An unregistration that changes nothing removes no automatic ID. -/
theorem Tracks.filter_of_unregistered {ledger : Ledger Object} (tracks : ledger.Tracks)
    {objectID : AudioObjectID}
    (ignored
      : objectID ∈ reservedIDs ∨ ledger.registry.registeredObjects.find? objectID = none)
    : ledger.automaticIDs.filter (· ≠ objectID) = ledger.automaticIDs := by
  refine List.filter_eq_self.mpr (fun other member => decide_eq_true ?_)
  rintro rfl
  have unreserved := tracks.unreserved _ member
  rcases ignored with reserved | unused
  · exact unreserved reserved
  · exact (tracks.registered _ unreserved).mp member unused

/-- Unregistration of an object other than the plugin either ignores the ID or frees that of an
automatic object.
-/
theorem Tracks.unregisterObject_cases {ledger : Ledger Object} (tracks : ledger.Tracks)
    {objectID : AudioObjectID} (balanced : ledger.Balanced (.unregisterObject objectID))
    : (ledger.registry.unregisterObject objectID = ledger.registry
        ∧ ledger.automaticIDs.filter (· ≠ objectID) = ledger.automaticIDs)
      ∨ (objectID ∈ ledger.automaticIDs
        ∧ ledger.registry.unregisterObject objectID = {
            allocator := ledger.allocator.freeID objectID
            registeredObjects := ledger.registry.registeredObjects.erase objectID
          }) := by
  rw [Registry.unregisterObject]
  by_cases unknown : objectID = kAudioObjectUnknown
  · refine Or.inl ⟨if_pos unknown, tracks.filter_of_unregistered (Or.inl ?_)⟩
    exact unknown ▸ List.mem_cons_self
  · rw [if_neg unknown]
    by_cases unused : ledger.registry.registeredObjects.find? objectID = none
    · rw [unused]
      exact Or.inl ⟨rfl, tracks.filter_of_unregistered (Or.inr unused)⟩
    · have unreserved : objectID ∉ reservedIDs := by
        intro reserved
        rcases List.mem_cons.mp reserved with zero | rest
        · exact unknown zero
        · exact unused (balanced (List.mem_singleton.mp rest))
      refine Or.inr ⟨(tracks.registered _ unreserved).mpr unused, if_neg ?_⟩
      simpa using unused

/-- The counter after one automatic object is gone. -/
theorem Tracks.counted_pred {ledger : Ledger Object} (tracks : ledger.Tracks)
    {objectID : AudioObjectID} (alive : objectID ∈ ledger.automaticIDs)
    : (ledger.allocator.numAllocatedIDs - 1).toNat
      = (ledger.automaticIDs.filter (· ≠ objectID)).length := by
  have erased := List.length_erase_of_mem alive
  rw [tracks.distinct.erase_eq_filter] at erased
  have some : 0 < ledger.automaticIDs.length := List.length_pos_of_mem alive
  have counted := tracks.counted
  have one : (1 : UInt64).toNat = 1 := rfl
  have atLeast : (1 : UInt64) ≤ ledger.allocator.numAllocatedIDs :=
    UInt64.le_iff_toNat_le.mpr (by omega)
  have same : ledger.automaticIDs.filter (· ≠ objectID)
      = ledger.automaticIDs.filter (· != objectID) :=
    List.filter_congr (fun other _ => by by_cases equal : other = objectID <;> simp [equal])
  rw [UInt64.toNat_sub_of_le _ _ atLeast, same, erased]
  omega

/-- The unregistration of an object other than the plugin keeps track. -/
theorem Tracks.afterUnregister {ledger : Ledger Object} (tracks : ledger.Tracks)
    {objectID : AudioObjectID} (balanced : ledger.Balanced (.unregisterObject objectID))
    : (ledger.perform (.unregisterObject objectID)).Tracks := by
  rw [perform, automaticIDsAfter, Registry.perform]
  rcases tracks.unregisterObject_cases balanced with ⟨result, same⟩ | ⟨alive, result⟩
  · rw [result, same]
    exact ⟨tracks.bounded, tracks.distinct, tracks.unreserved, tracks.marked,
      tracks.registered, tracks.counted⟩
  · rw [result]
    refine ⟨tracks.bounded.setFree _ _, tracks.distinct.filter _, ?_, ?_, ?_, ?_⟩
    · intro other member
      exact tracks.unreserved _ (List.mem_filter.mp member).1
    · intro other
      have marked := Registry.test_setFree ledger.allocator objectID other true
      refine Iff.trans ?_ (Bool.eq_iff_iff.mp marked).symm
      rw [List.mem_filter, tracks.marked]
      by_cases same : other = objectID <;> simp [same]
    · intro other unreserved
      rw [List.mem_filter, OrderedMap.find?_erase, tracks.registered _ unreserved]
      by_cases same : other = objectID <;> simp [same]
    · exact tracks.counted_pred alive

/-- Every balanced call that the library makes keeps track. -/
theorem Tracks.perform {ledger : Ledger Object} (tracks : ledger.Tracks) {call : Call Object}
    (ofLibrary : call.OfLibrary) (balanced : ledger.Balanced call)
    : (ledger.perform call).Tracks := by
  cases call with
  | registerObject object objectID =>
      rcases ofLibrary with rfl | rfl
      · exact tracks.afterRegisterNew object (tracks.exists_free (balanced rfl))
      · exact tracks.afterRegisterPlugin object
  | unregisterObject objectID => exact tracks.afterUnregister balanced

/-- Without an automatic ID left, registration changes the counter and registers nothing. -/
theorem Tracks.not_exact_of_none_left {ledger : Ledger Object} (tracks : ledger.Tracks)
    (object : Object)
    (none_left
      : ∀ objectID, objectID ∉ reservedIDs
        → ledger.registry.registeredObjects.find? objectID ≠ none)
    : ¬(ledger.perform (.registerNew object)).Exact := by
  intro exact
  have inUse := none_left _ (Allocator.allocateID_unreserved tracks.bounded)
  have chosen : ledger.registry.chooseID kAudioObjectUnknown = ledger.allocator.allocateID :=
    if_pos rfl
  have outcome := ledger.registry.registerObject_cases object kAudioObjectUnknown
  rw [chosen] at outcome
  have result := (outcome.resolve_right (fun made => inUse made.1)).2
  have alive := exact.alive
  simp only [Ledger.perform, automaticIDsAfter, Registry.perform, result, allocator] at alive
  have counted := tracks.counted_succ
  simp only [ne_eq, not_true_eq_false, and_false, if_false] at alive
  exact absurd (counted.symm.trans alive) (by omega)

/-- The unregistration of the plugin changes the counter, but no automatic object. -/
theorem Tracks.not_exact_of_plugin {ledger : Ledger Object} (tracks : ledger.Tracks)
    (registered
      : ledger.registry.registeredObjects.find? kAudioObjectPlugInObject ≠ none)
    : ¬(ledger.perform (.unregisterObject kAudioObjectPlugInObject)).Exact := by
  intro exact
  have result : ledger.registry.unregisterObject kAudioObjectPlugInObject = {
        allocator := ledger.allocator.freeID kAudioObjectPlugInObject
        registeredObjects :=
          ledger.registry.registeredObjects.erase kAudioObjectPlugInObject
      } := by
    rw [Registry.unregisterObject, if_neg (by decide), if_neg (by simpa using registered)]
  have kept : ledger.automaticIDs.filter (· ≠ kAudioObjectPlugInObject)
      = ledger.automaticIDs := tracks.filter_of_unregistered (Or.inl (by decide))
  have alive := exact.alive
  simp only [Ledger.perform, automaticIDsAfter, Registry.perform, kept] at alive
  rw [allocator, result] at alive
  have less : (ledger.allocator.numAllocatedIDs - 1).toNat
      = ledger.allocator.numAllocatedIDs.toNat := alive.trans tracks.counted.symm
  have same := UInt64.toNat_inj.mp less
  grind

/-- A call that the library makes leaves the accounting exact exactly if it is balanced. -/
theorem Tracks.exact_iff {ledger : Ledger Object} (tracks : ledger.Tracks) {call : Call Object}
    (ofLibrary : call.OfLibrary)
    : (ledger.perform call).Exact ↔ ledger.Balanced call := by
  refine ⟨fun exact => ?_, fun balanced => (tracks.perform ofLibrary balanced).exact⟩
  cases call with
  | registerObject object objectID =>
      rintro rfl
      by_contra none_left
      refine tracks.not_exact_of_none_left object (fun objectID unreserved unused => ?_) exact
      exact none_left ⟨objectID, unreserved, unused⟩
  | unregisterObject objectID =>
      rintro rfl
      by_contra registered
      exact tracks.not_exact_of_plugin registered exact

/-- A call changes the desired maximum as `AllocateID()` does, or not at all. -/
theorem desiredMaximumID_perform (ledger : Ledger Object) (call : Call Object)
    : (ledger.perform call).allocator.desiredMaximumID = ledger.allocator.desiredMaximumID
      ∨ (ledger.perform call).allocator.desiredMaximumID
        = ledger.allocator.increasedMaximumID := by
  rw [allocator, perform]
  cases call with
  | registerObject object objectID =>
      have chosen : (ledger.registry.chooseID objectID).2.desiredMaximumID
            = ledger.allocator.desiredMaximumID
          ∨ (ledger.registry.chooseID objectID).2.desiredMaximumID
            = ledger.allocator.increasedMaximumID := by
        rw [Registry.chooseID]
        split
        · exact Or.inr rfl
        · exact Or.inl rfl
      rcases ledger.registry.registerObject_cases object objectID
        with ⟨-, result⟩ | ⟨-, result⟩ <;> rw [Registry.perform, result]
      · exact chosen
      · exact chosen
  | unregisterObject objectID =>
      rcases ledger.registry.unregisterObject_cases objectID
        with result | result <;> rw [Registry.perform, result]
      · exact Or.inl rfl
      · exact Or.inl rfl

/-- Calls are sound where the ledger tracks its objects. -/
theorem Tracks.sound {ledger : Ledger Object} (tracks : ledger.Tracks) {call : Call Object}
    (balanced : ledger.Balanced call)
    : ledger.Sound call where
  positive objectID same nonzero registered := by
    subst same
    have unreserved : objectID ∉ reservedIDs := by
      intro reserved
      rcases List.mem_cons.mp reserved with zero | rest
      · exact nonzero zero
      · exact registered (balanced (List.mem_singleton.mp rest))
    have alive := List.length_pos_of_mem ((tracks.registered _ unreserved).mpr registered)
    intro zero
    have counted := tracks.counted
    rw [zero, UInt64.toNat_zero] at counted
    omega
  doubled changed := by
    rcases ledger.desiredMaximumID_perform call with same | increased
    · exact absurd same changed
    · rw [increased] at changed ⊢
      obtain ⟨doubled, many⟩ := Allocator.increasedMaximumID_of_ne changed
      refine ⟨doubled, ?_⟩
      rwa [tracks.counted] at many

/-- A run of balanced calls that the library makes keeps track, by induction on the calls. -/
theorem tracks_run (hintMaximumID : AudioObjectID) {calls : List (Call Object)}
    (ofLibrary : ∀ call ∈ calls, call.OfLibrary)
    (balanced
      : ∀ before call, before ++ [call] <+: calls
        → ((new hintMaximumID).run before).Balanced call)
    : ((new hintMaximumID).run calls).Tracks := by
  induction calls using List.reverseRecOn with
  | nil => exact tracks_new hintMaximumID
  | append_singleton before call ih =>
      rw [run_concat]
      refine (ih (fun other member => ofLibrary other (List.mem_append_left _ member)) ?_).perform
        (ofLibrary call (by simp)) (balanced before call (List.prefix_refl _))
      intro earlier other made
      exact balanced earlier other (made.trans (List.prefix_append _ _))

/-- A run with exact accounting throughout made balanced calls only, by induction on the calls:
the earlier ones were balanced, so that the ledger tracked its objects at the last one.
-/
theorem balanced_of_exact (hintMaximumID : AudioObjectID) {calls : List (Call Object)}
    (ofLibrary : ∀ call ∈ calls, call.OfLibrary)
    (exact_after : ∀ before, before <+: calls → ((new hintMaximumID).run before).Exact)
    : ∀ before call, before ++ [call] <+: calls
      → ((new hintMaximumID).run before).Balanced call := by
  induction calls using List.reverseRecOn with
  | nil =>
      intro before call made
      exact absurd (List.prefix_nil.mp made) (by simp)
  | append_singleton earlier last ih =>
      have library := fun other member => ofLibrary other (List.mem_append_left _ member)
      have balanced := ih library (fun before made =>
        exact_after before (made.trans (List.prefix_append _ _)))
      intro before call made
      rcases List.prefix_concat_iff.mp made with whole | within
      · obtain ⟨rfl, same⟩ := List.append_inj' whole rfl
        obtain rfl := List.singleton_inj.mp same
        have after := exact_after _ (List.prefix_refl _)
        rw [run_concat] at after
        exact ((tracks_run hintMaximumID library balanced).exact_iff
          (ofLibrary call (by simp))).mp after
      · exact balanced before call within

/-- In every run of calls that the library makes, the accounting is exact throughout exactly
if no call unregisters the plugin or asks for an automatic ID when none is left.
-/
theorem accounted_iff (hintMaximumID : AudioObjectID) (calls : List (Call Object))
    (ofLibrary : ∀ call ∈ calls, call.OfLibrary)
    : Accounted hintMaximumID calls
      ↔ ∀ before call, before ++ [call] <+: calls
        → ((new hintMaximumID).run before).Balanced call := by
  refine ⟨fun accounted => ?_, fun balanced => ?_⟩
  · exact balanced_of_exact hintMaximumID ofLibrary accounted.exact_after
  · have tracks : ∀ before, before <+: calls → ((new hintMaximumID).run before).Tracks := by
      intro before made
      refine tracks_run hintMaximumID (fun call member => ofLibrary call (made.subset member)) ?_
      exact fun _ _ longer => balanced _ _ (longer.trans made)
    refine ⟨fun before made => (tracks before made).exact, fun before call made => ?_⟩
    exact (tracks before ((List.prefix_append _ _).trans made)).sound (balanced _ _ made)

/-- The plugin and an object are registered, and the object is unregistered. -/
theorem accounted_object
    : Accounted 1000 [
        .registerObject false kAudioObjectPlugInObject, .registerNew true, .unregisterObject 2
      ] := by
  refine (accounted_iff 1000 _ ?_).mpr ?_
  · intro call member
    rcases List.mem_cons.mp member with rfl | rest
    · exact Or.inr rfl
    · rcases List.mem_cons.mp rest with rfl | last
      · exact Or.inl rfl
      · obtain rfl := List.mem_singleton.mp last
        trivial
  · intro before call ⟨rest, whole⟩
    rcases before with _ | ⟨first, _ | ⟨second, _ | ⟨third, more⟩⟩⟩
    · obtain ⟨rfl, -⟩ := List.cons.inj whole
      exact fun automatic => absurd automatic (by decide)
    · obtain ⟨rfl, rfl, -⟩ : first = _ ∧ call = _ ∧ _ := by simpa using whole
      exact fun _ => ⟨3, by decide, by decide⟩
    · obtain ⟨rfl, rfl, rfl, -⟩ : first = _ ∧ second = _ ∧ call = _ ∧ _ := by simpa using whole
      exact fun plugin => absurd plugin (by decide)
    · simp at whole

/-- A plugin that is created and destroyed takes the counter below zero. -/
theorem accounting_fails
    : ¬ ∀ (hintMaximumID : AudioObjectID) (calls : List (Call Bool)),
        (∀ call ∈ calls, call.OfLibrary) → Accounted hintMaximumID calls := by
  intro alwaysAccounted
  have accounted := alwaysAccounted 1000
    [.registerObject false kAudioObjectPlugInObject, .unregisterObject kAudioObjectPlugInObject]
    (fun call member => by
      rcases List.mem_cons.mp member with rfl | rest
      · exact Or.inr rfl
      · obtain rfl := List.mem_singleton.mp rest
        trivial)
  exact absurd (accounted.exact_after _ (List.prefix_refl _)).alive (by decide)

end Ledger

end Aspl.Dispatcher
