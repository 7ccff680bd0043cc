import Aspl.Dispatcher.Accounting

/-! Growth of identifiers in `Dispatcher`: every ID handed out stays below a bound given by the
hint and by the largest number of automatically registered objects alive at once.
-/

namespace Aspl.Dispatcher

open CoreAudio

universe u

/-- The number of IDs in as many chunks as cover the hint and four times the peak number of
objects.
-/
def identifierBound (hintMaximumID : AudioObjectID) (peak : Nat) : Nat :=
  bitsPerChunk * ((max hintMaximumID.toNat (4 * peak) + (bitsPerChunk - 1)) / bitsPerChunk)

/-- The call is the registration of an object with an automatic ID or that of the plugin, or
the unregistration of an object other than the plugin.
-/
def Call.KeepsPlugin {Object : Type u} : Call Object → Prop
  | .registerObject _ objectID =>
      objectID = kAudioObjectUnknown ∨ objectID = kAudioObjectPlugInObject
  | .unregisterObject objectID => objectID ≠ kAudioObjectPlugInObject

/-- The bound grows with the peak. -/
theorem identifierBound_mono (hintMaximumID : AudioObjectID) {earlier later : Nat}
    (grown : earlier ≤ later)
    : identifierBound hintMaximumID earlier ≤ identifierBound hintMaximumID later := by
  refine Nat.mul_le_mul_left _ (Nat.div_le_div_right ?_)
  omega

/-- A number that the bound covers is below it. -/
theorem lt_identifierBound {hintMaximumID : AudioObjectID} {peak number : Nat}
    (covered : number < max hintMaximumID.toNat (4 * peak))
    : number < identifierBound hintMaximumID peak := by
  simp only [identifierBound, bitsPerChunk]
  omega

/-- The chunks for an ID below the bound are within it. -/
theorem chunks_le_identifierBound {hintMaximumID : AudioObjectID} {peak number : Nat}
    (below : number < identifierBound hintMaximumID peak)
    : (number / 64 + 1) * bitsPerChunk ≤ identifierBound hintMaximumID peak := by
  simp only [identifierBound, bitsPerChunk] at below ⊢
  omega

namespace Ledger

variable {Object : Type u}

/-- The desired maximum and the bitset are within the bound for the peak so far. -/
structure Grown (hintMaximumID : AudioObjectID) (ledger : Ledger Object) : Prop where
  tracks : ledger.Tracks
  alive : ledger.automaticIDs.length ≤ ledger.peak
  desired
    : ledger.allocator.desiredMaximumID.toNat ≤ max hintMaximumID.toNat (4 * ledger.peak)
  chunks
    : ledger.allocator.allocatedBits.length * bitsPerChunk
      ≤ identifierBound hintMaximumID ledger.peak

/-- A new dispatcher desires what the hint says, and has no bitset. -/
theorem grown_new (hintMaximumID : AudioObjectID)
    : (new hintMaximumID : Ledger Object).Grown hintMaximumID where
  tracks := tracks_new hintMaximumID
  alive := Nat.le_refl _
  desired := Nat.le_max_left _ _
  chunks := by simp [new, Registry.new, allocator]

/-- The desired maximum doubles for the sake of objects that are alive only. -/
theorem Grown.increased {hintMaximumID : AudioObjectID} {ledger : Ledger Object}
    (grown : ledger.Grown hintMaximumID)
    : ledger.allocator.increasedMaximumID.toNat
      ≤ max hintMaximumID.toNat (4 * ledger.peak) := by
  by_cases same
    : ledger.allocator.increasedMaximumID = ledger.allocator.desiredMaximumID
  · rw [same]
    exact grown.desired
  · obtain ⟨doubled, many⟩ := Allocator.increasedMaximumID_of_ne same
    rw [grown.tracks.counted] at many
    have alive := grown.alive
    have two : (2 : UInt32).toNat = 2 := rfl
    have wrapped : (ledger.allocator.desiredMaximumID * 2).toNat
        ≤ ledger.allocator.desiredMaximumID.toNat * 2 := by
      rw [UInt32.toNat_mul, two]
      exact Nat.mod_le _ _
    rw [doubled]
    omega

/-- With all of the bitset taken, the objects alive are as many as its unreserved IDs. -/
theorem Tracks.chunks_le_of_full {ledger : Ledger Object} (tracks : ledger.Tracks)
    (full
      : ∀ objectID : AudioObjectID,
          objectID.toNat < ledger.allocator.allocatedBits.length * bitsPerChunk
          → ¬ledger.allocator.isFree objectID = true)
    : ledger.allocator.allocatedBits.length * bitsPerChunk - 2 ≤ ledger.automaticIDs.length := by
  refine Allocator.length_of_covers tracks.bounded (fun objectID unreserved inside => ?_)
  by_contra dead
  refine full objectID inside ((Allocator.isFree_iff _ _).mpr ⟨unreserved, ?_⟩)
  exact Bool.eq_false_iff.mpr (fun isSet => dead ((tracks.marked objectID).mpr isSet))

/-- While the bound leaves room, some candidate is free: the ID after the bitset. -/
theorem Grown.exists_free {hintMaximumID : AudioObjectID} {ledger : Ledger Object}
    (grown : ledger.Grown hintMaximumID)
    (small : identifierBound hintMaximumID ledger.peak < UInt32.size)
    : ∃ objectID ∈ ledger.allocator.candidates, ledger.allocator.isFree objectID = true :=
  ⟨_, by simp [Allocator.candidates],
    Allocator.afterBitset_free (grown.chunks.trans_lt small)⟩

/-- The allocated ID is below the bound for the objects alive with the new one. -/
theorem Grown.allocateID_lt {hintMaximumID : AudioObjectID} {ledger : Ledger Object}
    (grown : ledger.Grown hintMaximumID) {peak : Nat} (higher : ledger.peak ≤ peak)
    (counted : ledger.automaticIDs.length + 1 ≤ peak)
    (small : identifierBound hintMaximumID peak < UInt32.size)
    : ledger.allocator.allocateID.1.toNat < identifierBound hintMaximumID peak := by
  have higherBound := identifierBound_mono hintMaximumID higher
  have smallBefore := higherBound.trans_lt small
  have room := grown.chunks.trans_lt smallBefore
  have first := Allocator.allocateID_eq grown.tracks.bounded (grown.exists_free smallBefore)
  rcases Allocator.allocateID_place first with below | inside | ⟨after, full⟩
  · have desired := grown.increased
    have number := UInt32.lt_iff_toNat_lt.mp below
    exact lt_identifierBound (by omega)
  · exact (inside.trans_le grown.chunks).trans_le higherBound
  · have alive := grown.tracks.chunks_le_of_full full
    rw [after]
    by_cases empty : ledger.allocator.allocatedBits.length = 0
    · rw [empty]
      have two : (Allocator.afterBitset 0).toNat = 2 := by decide
      rw [two]
      exact lt_identifierBound (by omega)
    · rw [Allocator.toNat_afterBitset empty room]
      refine lt_identifierBound ?_
      simp only [bitsPerChunk] at alive ⊢
      omega

/-- An automatic registration within the bound keeps the growth within it. -/
theorem Grown.afterRegisterNew {hintMaximumID : AudioObjectID} {ledger : Ledger Object}
    (grown : ledger.Grown hintMaximumID) (object : Object)
    (small
      : identifierBound hintMaximumID (ledger.perform (.registerNew object)).peak < UInt32.size)
    : (ledger.perform (.registerNew object)).Grown hintMaximumID := by
  have higher : ledger.peak ≤ (ledger.perform (.registerNew object)).peak := Nat.le_max_left _ _
  have higherBound := identifierBound_mono hintMaximumID higher
  have exists_free := grown.exists_free (higherBound.trans_lt small)
  have tracks := grown.tracks.afterRegisterNew object exists_free
  rw [grown.tracks.perform_registerNew object exists_free] at higher higherBound small tracks ⊢
  have below := grown.allocateID_lt higher (Nat.le_max_right _ _) small
  refine ⟨tracks, Nat.le_max_right _ _, ?_, ?_⟩
  · have desired := grown.increased
    simp only at higher
    exact desired.trans (by simp only; omega)
  · have added := chunks_le_identifierBound below
    have length : ledger.allocator.allocateID.2.allocatedBits.length
        = max ledger.allocator.allocatedBits.length
            (ledger.allocator.allocateID.1.toNat / 64 + 1) := Bitset.length_assign ..
    have before := grown.chunks.trans higherBound
    simp only [allocator, bitsPerChunk] at length before added ⊢
    rw [length]
    omega

/-- A call that changes neither the desired maximum nor the size of the bitset keeps the growth
within the bound.
-/
theorem Grown.of_same {hintMaximumID : AudioObjectID} {ledger after : Ledger Object}
    (grown : ledger.Grown hintMaximumID) (tracks : after.Tracks)
    (peak : after.peak = max ledger.peak after.automaticIDs.length)
    (desired
      : after.allocator.desiredMaximumID = ledger.allocator.desiredMaximumID)
    (length
      : after.allocator.allocatedBits.length = ledger.allocator.allocatedBits.length)
    : after.Grown hintMaximumID := by
  have higher : ledger.peak ≤ after.peak := peak ▸ Nat.le_max_left _ _
  refine ⟨tracks, peak ▸ Nat.le_max_right _ _, ?_, ?_⟩
  · have before := grown.desired
    rw [desired]
    omega
  · rw [length]
    exact grown.chunks.trans (identifierBound_mono hintMaximumID higher)

/-- The unregistration of an object other than the plugin keeps the growth within the bound:
the bit that it clears is inside the bitset.
-/
theorem Grown.afterUnregister {hintMaximumID : AudioObjectID} {ledger : Ledger Object}
    (grown : ledger.Grown hintMaximumID) {objectID : AudioObjectID}
    (keepsPlugin : objectID ≠ kAudioObjectPlugInObject)
    : (ledger.perform (.unregisterObject objectID)).Grown hintMaximumID := by
  have balanced : ledger.Balanced (.unregisterObject objectID) :=
    fun plugin => absurd plugin keepsPlugin
  refine grown.of_same (grown.tracks.afterUnregister balanced) rfl ?_ ?_
  · simp only [perform, allocator, Registry.perform]
    rcases grown.tracks.unregisterObject_cases balanced
      with ⟨result, -⟩ | ⟨-, result⟩ <;> rw [result]
    rfl
  · simp only [perform, allocator, Registry.perform]
    rcases grown.tracks.unregisterObject_cases balanced
      with ⟨result, -⟩ | ⟨alive, result⟩ <;> rw [result]
    have inside : objectID.toNat / 64 < ledger.allocator.allocatedBits.length := by
      by_contra outside
      have clear := Bitset.test_of_length_le (Nat.not_lt.mp outside)
      exact Bool.false_ne_true (clear.symm.trans ((grown.tracks.marked objectID).mp alive))
    refine (Bitset.length_assign ..).trans (Nat.max_eq_left ?_)
    exact inside

/-- Every call that keeps the plugin keeps the growth within the bound. -/
theorem Grown.perform {hintMaximumID : AudioObjectID} {ledger : Ledger Object}
    (grown : ledger.Grown hintMaximumID) {call : Call Object} (keepsPlugin : call.KeepsPlugin)
    (small : identifierBound hintMaximumID (ledger.perform call).peak < UInt32.size)
    : (ledger.perform call).Grown hintMaximumID := by
  cases call with
  | registerObject object objectID =>
      rcases keepsPlugin with rfl | rfl
      · exact grown.afterRegisterNew object small
      · obtain ⟨same, -, -⟩ := ledger.perform_registerPlugin object
        exact grown.of_same (grown.tracks.afterRegisterPlugin object) rfl
          (by rw [same]) (by rw [same])
  | unregisterObject objectID => exact grown.afterUnregister keepsPlugin

/-- The peak of a run is at least that of its prefixes. -/
theorem peak_le_of_earlier (ledger : Ledger Object) {before calls : List (Call Object)}
    (made : before <+: calls)
    : (ledger.run before).peak ≤ (ledger.run calls).peak := by
  obtain ⟨rest, rfl⟩ := made
  rw [run, run, List.foldl_append]
  generalize before.foldl Ledger.perform ledger = reached
  induction rest generalizing reached with
  | nil => exact Nat.le_refl _
  | cons call rest ih =>
      exact (Nat.le_max_left _ (reached.automaticIDsAfter call).length).trans
        (ih (reached.perform call))

/-- A run that keeps the plugin and whose peak is small keeps the growth within the bound, by
induction on its calls.
-/
theorem grown_run (hintMaximumID : AudioObjectID) {calls : List (Call Object)}
    (keepsPlugin : ∀ call ∈ calls, call.KeepsPlugin)
    (small
      : identifierBound hintMaximumID ((new hintMaximumID).run calls).peak < UInt32.size)
    : ((new hintMaximumID).run calls).Grown hintMaximumID := by
  induction calls using List.reverseRecOn with
  | nil => exact grown_new hintMaximumID
  | append_singleton before call ih =>
      have higher := (new hintMaximumID).peak_le_of_earlier (List.prefix_append before [call])
      have smallBefore := (identifierBound_mono hintMaximumID higher).trans_lt small
      have grown := ih (fun other member => keepsPlugin other (List.mem_append_left _ member))
        smallBefore
      rw [run_concat] at small ⊢
      exact grown.perform (keepsPlugin call (by simp)) small

/-- From a new dispatcher, every ID handed out is below the bound for the hint and the largest
number of automatically registered objects alive at once so far.
-/
theorem identifiers_bounded (hintMaximumID : AudioObjectID) (calls : List (Call Object))
    (keepsPlugin : ∀ call ∈ calls, call.KeepsPlugin)
    (small
      : identifierBound hintMaximumID ((new hintMaximumID).run calls).peak < UInt32.size)
    : ∀ before object, before ++ [Call.registerNew object] <+: calls
      → (((new hintMaximumID).run before).registry.registerObject
          object kAudioObjectUnknown).1.toNat
        < identifierBound hintMaximumID ((new hintMaximumID).run calls).peak := by
  intro before object made
  have earlier := (List.prefix_append before _).trans made
  have higher := (new hintMaximumID).peak_le_of_earlier earlier
  have atCall := (new hintMaximumID).peak_le_of_earlier made
  have smallBefore := (identifierBound_mono hintMaximumID higher).trans_lt small
  have grown := grown_run hintMaximumID
    (fun call member => keepsPlugin call (earlier.subset member)) smallBefore
  have exists_free := grown.exists_free smallBefore
  rw [run_concat, grown.tracks.perform_registerNew object exists_free] at atCall
  obtain ⟨-, -, result⟩ := grown.tracks.registerNew object exists_free
  rw [result]
  exact grown.allocateID_lt higher ((Nat.le_max_right _ _).trans atCall) small

/-- Of three objects, one of them gone before the last, the last has an ID in the first chunk. -/
theorem identifiers_bounded_mixed
    : (((new 3).run [
          .registerNew 'a', .registerObject 'p' kAudioObjectPlugInObject, .registerNew 'b',
          .unregisterObject 2
        ]).registry.registerObject 'c' kAudioObjectUnknown).1.toNat
      < 64 := by
  refine identifiers_bounded 3 [
    .registerNew 'a', .registerObject 'p' kAudioObjectPlugInObject, .registerNew 'b',
    .unregisterObject 2, .registerNew 'c'
  ] ?_ (by decide) _ 'c' List.prefix_rfl
  intro call member
  simp only [List.mem_cons, List.not_mem_nil, or_false] at member
  rcases member with rfl | rfl | rfl | rfl | rfl
  · exact Or.inl rfl
  · exact Or.inr rfl
  · exact Or.inl rfl
  · exact fun plugin => absurd plugin (by decide)
  · exact Or.inl rfl

end Ledger

end Aspl.Dispatcher
