import Aspl.Dispatcher.Allocation

/-! Completeness of `Dispatcher::FindFreeID()`: the scan meets the IDs from the start ID to the
end of the bitset first, in increasing order, before it wraps.
-/

namespace Aspl.Dispatcher.Allocator

open CoreAudio

/-- The IDs of one visited chunk that the scan does not skip. -/
def scannedChunk (size n : Nat) (startID : AudioObjectID) : List AudioObjectID :=
  ((List.range bitsPerChunk).map (fun bit =>
    UInt32.ofNat ((startID.toNat / bitsPerChunk + n) % size * bitsPerChunk + bit))).filter
      (fun objectID => ¬(n = 0 ∧ objectID < startID))

/-- The part of a scan before it wraps. -/
def beforeWrap (size : Nat) (startID : AudioObjectID) : List AudioObjectID :=
  (List.range (size - startID.toNat / bitsPerChunk)).flatMap (fun n =>
    scannedChunk size n startID)

/-- The number of an ID in a chunk that the scan visits before it wraps. -/
theorem mem_scannedChunk_toNat {size n : Nat} {startID objectID : AudioObjectID}
    (short : size * bitsPerChunk ≤ UInt32.size)
    (stored : startID.toNat / bitsPerChunk + n < size)
    (member : objectID ∈ scannedChunk size n startID)
    : ∃ bit < bitsPerChunk,
        objectID.toNat = (startID.toNat / bitsPerChunk + n) * bitsPerChunk + bit
        ∧ startID.toNat ≤ objectID.toNat := by
  obtain ⟨image, kept⟩ := List.mem_filter.mp member
  obtain ⟨bit, range, place⟩ := List.mem_map.mp image
  have small := List.mem_range.mp range
  have number : objectID.toNat = (startID.toNat / bitsPerChunk + n) * bitsPerChunk + bit := by
    rw [← place, Nat.mod_eq_of_lt stored]
    refine UInt32.toNat_ofNat_of_lt' ?_
    simp only [bitsPerChunk] at short stored small ⊢
    omega
  refine ⟨bit, small, number, ?_⟩
  by_cases first : n = 0
  · -- The first chunk holds IDs below the start, which the filter drops.
    have notBelow : ¬objectID < startID := by simpa [first] using kept
    exact Nat.le_of_not_lt (fun below => notBelow (UInt32.lt_iff_toNat_lt.mpr below))
  · simp only [bitsPerChunk] at number small ⊢
    omega

/-- The IDs of one visited chunk are in increasing order. -/
theorem scannedChunk_increasing {size n : Nat} {startID : AudioObjectID}
    (short : size * bitsPerChunk ≤ UInt32.size)
    (stored : startID.toNat / bitsPerChunk + n < size)
    : (scannedChunk size n startID).Pairwise (·.toNat < ·.toNat) := by
  refine List.Pairwise.filter _ (List.pairwise_map.mpr ?_)
  refine List.pairwise_lt_range.imp_of_mem ?_
  intro bit other member otherMember below
  have small := List.mem_range.mp member
  have otherSmall := List.mem_range.mp otherMember
  rw [Nat.mod_eq_of_lt stored]
  simp only [bitsPerChunk] at short stored small otherSmall ⊢
  rw [UInt32.toNat_ofNat_of_lt' (by omega), UInt32.toNat_ofNat_of_lt' (by omega)]
  omega

/-- The scan goes up from the start ID until it wraps. -/
theorem beforeWrap_increasing {size : Nat} (startID : AudioObjectID)
    (short : size * bitsPerChunk ≤ UInt32.size)
    : (beforeWrap size startID).Pairwise (·.toNat < ·.toNat) := by
  refine List.pairwise_flatMap.mpr ⟨?_, ?_⟩
  · intro n member
    have visited := List.mem_range.mp member
    exact scannedChunk_increasing short (by omega)
  · refine List.pairwise_lt_range.imp_of_mem ?_
    intro n later member laterMember below objectID inChunk other inLater
    have visited := List.mem_range.mp member
    have laterVisited := List.mem_range.mp laterMember
    obtain ⟨bit, small, number, -⟩ := mem_scannedChunk_toNat short (by omega) inChunk
    obtain ⟨otherBit, -, otherNumber, -⟩ := mem_scannedChunk_toNat short (by omega) inLater
    simp only [bitsPerChunk] at small number otherNumber
    omega

/-- Nothing below the start ID is met before the scan wraps. -/
theorem le_of_mem_beforeWrap {size : Nat} {startID objectID : AudioObjectID}
    (short : size * bitsPerChunk ≤ UInt32.size) (member : objectID ∈ beforeWrap size startID)
    : startID.toNat ≤ objectID.toNat := by
  obtain ⟨n, range, inChunk⟩ := List.mem_flatMap.mp member
  have visited := List.mem_range.mp range
  obtain ⟨_, _, _, notBelow⟩ := mem_scannedChunk_toNat short (by omega) inChunk
  exact notBelow

/-- Every ID of the bitset from the start ID on is met before the scan wraps. -/
theorem mem_beforeWrap {size : Nat} {startID objectID : AudioObjectID}
    (after : startID ≤ objectID) (inside : objectID.toNat < size * bitsPerChunk)
    : objectID ∈ beforeWrap size startID := by
  have notBelow : startID.toNat ≤ objectID.toNat := UInt32.le_iff_toNat_le.mp after
  have chunks : startID.toNat / bitsPerChunk ≤ objectID.toNat / bitsPerChunk :=
    Nat.div_le_div_right notBelow
  have stored : objectID.toNat / bitsPerChunk < size :=
    Nat.div_lt_of_lt_mul (by rwa [Nat.mul_comm])
  refine List.mem_flatMap.mpr
    ⟨objectID.toNat / bitsPerChunk - startID.toNat / bitsPerChunk, ?_, ?_⟩
  · exact List.mem_range.mpr (by omega)
  refine List.mem_filter.mpr ⟨List.mem_map.mpr ⟨objectID.toNat % bitsPerChunk, ?_, ?_⟩, ?_⟩
  · exact List.mem_range.mpr (Nat.mod_lt _ (by decide))
  · rw [Nat.add_sub_cancel' chunks, Nat.mod_eq_of_lt stored, Nat.div_add_mod' objectID.toNat]
    exact UInt32.ofNat_toNat
  · have kept : ¬objectID < startID := fun below =>
      absurd (UInt32.lt_iff_toNat_lt.mp below) (by omega)
    simp [kept]

/-- A scan starts with its part before it wraps. -/
theorem beforeWrap_prefix (size : Nat) (startID : AudioObjectID)
    : ∃ wrapped, scanned size startID = beforeWrap size startID ++ wrapped := by
  rw [scanned]
  split
  · rename_i empty
    refine ⟨[], ?_⟩
    rw [beforeWrap, empty, Nat.zero_sub]
    rfl
  · have within : size - startID.toNat / bitsPerChunk ≤ size + 1 :=
      (Nat.sub_le _ _).trans (Nat.le_succ size)
    rw [← Nat.add_sub_cancel' within, List.range_add, List.flatMap_append]
    exact ⟨_, rfl⟩

/-- In an increasing list, the first entry that passes a test is the least that does. -/
theorem find?_least {ids : List AudioObjectID} {passes : AudioObjectID → Bool}
    (increasing : ids.Pairwise (·.toNat < ·.toNat)) {wanted : AudioObjectID}
    (member : wanted ∈ ids) (free : passes wanted = true)
    : ∃ found, ids.find? passes = some found ∧ found.toNat ≤ wanted.toNat := by
  induction ids with
  | nil => exact absurd member List.not_mem_nil
  | cons first rest ih =>
      obtain ⟨below, increasingRest⟩ := List.pairwise_cons.mp increasing
      rw [List.find?_cons]
      cases passing : passes first with
      | true =>
          refine ⟨first, rfl, ?_⟩
          rcases List.mem_cons.mp member with rfl | later
          · exact le_rfl
          · exact (below wanted later).le
      | false =>
          rcases List.mem_cons.mp member with rfl | later
          · rw [passing] at free
            exact absurd free Bool.false_ne_true
          · exact ih increasingRest later

/-- A bitset of so few chunks leaves room for the ID after it. -/
theorem room_of_short {allocator : Allocator}
    (short : allocator.allocatedBits.length < 2 ^ 26 - 1)
    : allocator.allocatedBits.length * bitsPerChunk < UInt32.size := by
  simp only [bitsPerChunk, UInt32.size] at short ⊢
  omega

/-- The search selects a free ID, whatever the bitset holds. -/
theorem findFreeID_free {allocator : Allocator}
    (short : allocator.allocatedBits.length < 2 ^ 26 - 1) (startID : AudioObjectID)
    : allocator.isFree (allocator.findFreeID startID) = true := by
  have room := room_of_short short
  rw [findFreeID, findFreeInBitset_eq (Nat.le_of_lt room)]
  cases found : (scanned allocator.allocatedBits.length startID).find? allocator.isFree with
  | some objectID => exact List.find?_some found
  | none => exact afterBitset_free room

/-- The search stays inside a bitset that has a free ID. -/
theorem findFreeID_inside {allocator : Allocator}
    (short : allocator.allocatedBits.length < 2 ^ 26 - 1) (startID : AudioObjectID)
    {wanted : AudioObjectID}
    (inside : wanted.toNat < allocator.allocatedBits.length * bitsPerChunk)
    (free : allocator.isFree wanted = true)
    : (allocator.findFreeID startID).toNat
      < allocator.allocatedBits.length * bitsPerChunk := by
  have bounded : allocator.Bounded := Nat.le_of_lt (room_of_short short)
  rw [findFreeID, findFreeInBitset_eq bounded]
  cases found : (scanned allocator.allocatedBits.length startID).find? allocator.isFree with
  | some objectID => exact lt_of_mem_scanned (List.mem_of_find?_eq_some found)
  | none => exact absurd free (List.find?_eq_none.mp found wanted (mem_scanned startID inside))

/-- The search selects the least free ID of the bitset from the start ID on, if there is one. -/
theorem findFreeID_least {allocator : Allocator}
    (short : allocator.allocatedBits.length < 2 ^ 26 - 1) {startID wanted : AudioObjectID}
    (after : startID ≤ wanted)
    (inside : wanted.toNat < allocator.allocatedBits.length * bitsPerChunk)
    (free : allocator.isFree wanted = true)
    : startID ≤ allocator.findFreeID startID ∧ allocator.findFreeID startID ≤ wanted := by
  have bounded : allocator.Bounded := Nat.le_of_lt (room_of_short short)
  obtain ⟨found, first, least⟩ :=
    find?_least (beforeWrap_increasing startID bounded) (mem_beforeWrap after inside) free
  obtain ⟨wrapped, split⟩ := beforeWrap_prefix allocator.allocatedBits.length startID
  have selected : allocator.findFreeID startID = found := by
    rw [findFreeID, findFreeInBitset_eq bounded, split, List.find?_append, first]
    rfl
  have notBelow := le_of_mem_beforeWrap bounded (List.mem_of_find?_eq_some first)
  rw [selected]
  exact ⟨UInt32.le_iff_toNat_le.mpr notBelow, UInt32.le_iff_toNat_le.mpr least⟩

/-- Taking an ID makes this one not free and leaves the answer for every other ID. -/
theorem isFree_setFree_false (allocator : Allocator) (objectID other : AudioObjectID)
    : (allocator.setFree objectID false).isFree other
      = if other = objectID then false else allocator.isFree other := by
  have bit : Bitset.test (allocator.setFree objectID false).allocatedBits other.toNat
      = if other.toNat = objectID.toNat then true
        else Bitset.test allocator.allocatedBits other.toNat :=
    Bitset.test_assign allocator.allocatedBits objectID.toNat other.toNat true
  have before := isFree_iff allocator other
  have after := isFree_iff (allocator.setFree objectID false) other
  rw [bit] at after
  by_cases same : other = objectID
  · subst same
    rw [if_pos rfl]
    refine Bool.eq_false_iff.mpr (fun free => ?_)
    simpa using (after.mp free).2
  · have apart : other.toNat ≠ objectID.toNat := fun equal => same (UInt32.toNat_inj.mp equal)
    rw [if_neg apart] at after
    rw [if_neg same, Bool.eq_iff_iff, after, before]

/-- The search for a free ID is complete: it selects a free ID, one inside the bitset where the
bitset has any, and the least one from the start ID on where the bitset has one there. Taking an
ID changes the answer for this ID only.
-/
theorem findFreeID_complete (allocator : Allocator)
    (short : allocator.allocatedBits.length < 2 ^ 26 - 1) (startID : AudioObjectID)
    : let inside := fun objectID : AudioObjectID =>
        objectID.toNat < allocator.allocatedBits.length * bitsPerChunk
      allocator.isFree (allocator.findFreeID startID) = true
      ∧ ((∃ wanted, inside wanted ∧ allocator.isFree wanted = true)
          → inside (allocator.findFreeID startID))
      ∧ (∀ wanted, startID ≤ wanted → inside wanted → allocator.isFree wanted = true
          → inside (allocator.findFreeID startID)
            ∧ startID ≤ allocator.findFreeID startID
            ∧ allocator.findFreeID startID ≤ wanted)
      ∧ (∀ objectID other : AudioObjectID,
          (allocator.setFree objectID false).isFree other
            = if other = objectID then false else allocator.isFree other) := by
  refine ⟨findFreeID_free short startID, ?_, ?_, isFree_setFree_false allocator⟩
  · rintro ⟨wanted, inside, free⟩
    exact findFreeID_inside short startID inside free
  · intro wanted after inside free
    exact ⟨findFreeID_inside short startID inside free, findFreeID_least short after inside free⟩

/-- A search from the second bit of the second chunk, which has its three lowest bits set, meets
ID 67 first.
-/
theorem findFreeID_complete_second_chunk
    : ({ allocatedBits := [-1, 7], desiredMaximumID := 128 } : Allocator).findFreeID 65 ≤ 67 :=
  ((findFreeID_complete { allocatedBits := [-1, 7], desiredMaximumID := 128 } (by decide) 65).2.2.1
    67 (by decide) (by decide) (by decide)).2.2

end Aspl.Dispatcher.Allocator
