import Aspl.Base.Bitset
import Aspl.CoreAudio
import Mathlib.Data.List.Nodup
import Mathlib.Data.List.Perm.Subperm

/-! Allocation of object IDs in `Dispatcher`: the bitset of allocated IDs, the next candidate,
and the search of the bitset from a start ID with wrap-around.
-/

namespace Aspl.Dispatcher

open CoreAudio

def bitsPerChunk : Nat := 64

/-- Identifiers that are not allocated automatically. -/
def reservedIDs : List AudioObjectID := [kAudioObjectUnknown, kAudioObjectPlugInObject]

/-- The allocation fields of a dispatcher. -/
structure Allocator where
  allocatedBits : List UInt64 := []
  numAllocatedIDs : UInt64 := 0
  lastAllocatedID : AudioObjectID := 0
  desiredMaximumID : AudioObjectID
deriving DecidableEq

namespace Allocator

/-- `Dispatcher::IsFree()`. -/
def isFree (allocator : Allocator) (objectID : AudioObjectID) : Bool :=
  if objectID ∈ reservedIDs then false
  else
    let chunk := objectID.toNat / bitsPerChunk
    let bit := objectID.toNat % bitsPerChunk
    if allocator.allocatedBits.length ≤ chunk then true
    else !Bitset.chunkBit (allocator.allocatedBits.getD chunk 0) bit

/-- `Dispatcher::SetFree()`, which first resizes the bitset to hold the bit. -/
def setFree (allocator : Allocator) (objectID : AudioObjectID) (free : Bool) : Allocator :=
  {
    allocator with
    allocatedBits := Bitset.assign allocator.allocatedBits objectID.toNat (!free)
  }

/-- `Dispatcher::FreeID()`. The count is a `size_t` and wraps at zero. -/
def freeID (allocator : Allocator) (objectID : AudioObjectID) : Allocator :=
  let cleared := allocator.setFree objectID true
  { cleared with numAllocatedIDs := cleared.numAllocatedIDs - 1 }

/-- The loop of `FindFreeID()` over the bits of the `n`-th visited chunk. -/
def findFreeInChunk (chunkBits : UInt64) (chunk n : Nat) (startID : AudioObjectID)
    : Option AudioObjectID :=
  (List.range bitsPerChunk).findSome? (fun bit =>
    if Bitset.chunkBit chunkBits bit then none
    else
      let objectID := UInt32.ofNat (chunk * bitsPerChunk + bit)
      if n = 0 ∧ objectID < startID then none
      else if objectID ∈ reservedIDs then none
      else some objectID)

/-- The loop of `FindFreeID()` over the chunks, from that of the start ID around to itself. -/
def findFreeInBitset (allocator : Allocator) (startID : AudioObjectID)
    : Option AudioObjectID :=
  let size := allocator.allocatedBits.length
  if size = 0 then none
  else
    let startChunk := startID.toNat / bitsPerChunk
    (List.range (size + 1)).findSome? (fun n =>
      let chunk := (startChunk + n) % size
      let chunkBits := allocator.allocatedBits.getD chunk 0
      if chunkBits = -1 then none else findFreeInChunk chunkBits chunk n startID)

/-- `while (reservedIDs_.count(objectID)) objectID++`, with a bound on its iterations. -/
def skipReserved : Nat → AudioObjectID → AudioObjectID
  | 0, objectID => objectID
  | rounds + 1, objectID =>
      if objectID ∈ reservedIDs then skipReserved rounds (objectID + 1) else objectID

/-- The ID that `FindFreeID()` selects after a bitset of a given number of chunks. -/
def afterBitset (size : Nat) : AudioObjectID :=
  skipReserved reservedIDs.length (UInt32.ofNat (size * bitsPerChunk))

/-- `Dispatcher::FindFreeID()`. -/
def findFreeID (allocator : Allocator) (startID : AudioObjectID) : AudioObjectID :=
  (allocator.findFreeInBitset startID).getD (afterBitset allocator.allocatedBits.length)

/-- The ID after the last allocated one; it wraps. -/
def nextID (allocator : Allocator) : AudioObjectID :=
  allocator.lastAllocatedID + 1

/-- `desiredMaximumID_` after `AllocateID()` has doubled it where it does. -/
def increasedMaximumID (allocator : Allocator) : AudioObjectID :=
  let desired := allocator.desiredMaximumID
  if desired ≤ allocator.nextID ∧ (desired / 2).toUInt64 < allocator.numAllocatedIDs then
    if desired ≤ UInt32.ofNat (UInt32.size - 1) / 2 then desired * 2 else desired
  else desired

/-- `Dispatcher::AllocateID()`. -/
def allocateID (allocator : Allocator) : AudioObjectID × Allocator :=
  let candidate := allocator.nextID
  let increased := { allocator with desiredMaximumID := allocator.increasedMaximumID }
  let isFree := increased.isFree candidate
  let objectID :=
    if increased.desiredMaximumID ≤ candidate then increased.findFreeID 0
    else if !isFree then increased.findFreeID (candidate + 1)
    else candidate
  let marked := increased.setFree objectID false
  (objectID, {
    marked with
    numAllocatedIDs := marked.numAllocatedIDs + 1
    lastAllocatedID := objectID
  })

/-- The IDs of a bitset in the order in which `FindFreeID(startID)` meets them. -/
def scanned (size : Nat) (startID : AudioObjectID) : List AudioObjectID :=
  if size = 0 then []
  else
    (List.range (size + 1)).flatMap (fun n =>
      ((List.range bitsPerChunk).map (fun bit =>
        UInt32.ofNat ((startID.toNat / bitsPerChunk + n) % size * bitsPerChunk + bit))).filter
          (fun objectID => ¬(n = 0 ∧ objectID < startID)))

/-- The IDs that `AllocateID()` considers, in order: the next ID if it is below the desired
maximum, then the search of the bitset, then the first ID after it.
-/
def candidates (allocator : Allocator) : List AudioObjectID :=
  let size := allocator.allocatedBits.length
  (if allocator.increasedMaximumID ≤ allocator.nextID then scanned size 0
    else allocator.nextID :: scanned size (allocator.nextID + 1))
  ++ [afterBitset size]

/-- The bitset has no bits past the largest ID. -/
def Bounded (allocator : Allocator) : Prop :=
  allocator.allocatedBits.length * bitsPerChunk ≤ UInt32.size

/-- An ID is free if it is not reserved and its bit is clear. -/
theorem isFree_iff (allocator : Allocator) (objectID : AudioObjectID)
    : allocator.isFree objectID = true
      ↔ objectID ∉ reservedIDs
        ∧ Bitset.test allocator.allocatedBits objectID.toNat = false := by
  rw [isFree]
  split
  · rename_i reserved; simp [reserved]
  · rename_i unreserved
    simp only [unreserved, not_false_eq_true, true_and]
    split
    · rename_i outside
      simp only [Bitset.test_of_length_le outside]
    · simp only [Bitset.test, bitsPerChunk, Bool.not_eq_true']

/-- `isFree` depends on the bitset only. -/
theorem isFree_congr {first second : Allocator} (objectID : AudioObjectID)
    (same : first.allocatedBits = second.allocatedBits)
    : first.isFree objectID = second.isFree objectID := by
  simp only [isFree, same]

/-- A loop that returns the image of the first index that passes a test finds the first
passing image, by induction on the indices.
-/
theorem findSome?_eq_find?_map {α β : Type} {visit : α → Option β} {image : α → β}
    {passes : β → Bool} {indices : List α}
    (visits
      : ∀ index ∈ indices,
          visit index = if passes (image index) then some (image index) else none)
    : indices.findSome? visit = (indices.map image).find? passes := by
  induction indices with
  | nil => rfl
  | cons index rest ih =>
      have first := visits index List.mem_cons_self
      have later := ih (fun other member => visits other (List.mem_cons_of_mem _ member))
      rw [List.findSome?_cons, first, List.map_cons, List.find?_cons]
      by_cases passing : passes (image index) <;> simp [passing, later]

/-- The ID of a bit of the bitset, which is below the limit of IDs. -/
theorem toNat_bitID {allocator : Allocator} (bounded : allocator.Bounded) {chunk bit : Nat}
    (stored : chunk < allocator.allocatedBits.length) (small : bit < bitsPerChunk)
    : (UInt32.ofNat (chunk * bitsPerChunk + bit)).toNat = chunk * bitsPerChunk + bit := by
  refine UInt32.toNat_ofNat_of_lt' ?_
  simp only [Bounded, bitsPerChunk] at bounded small ⊢
  omega

/-- The test of a bit in the loop over a chunk is `isFree` of the bit's ID. -/
theorem isFree_bitID {allocator : Allocator} (bounded : allocator.Bounded) {chunk bit : Nat}
    (stored : chunk < allocator.allocatedBits.length) (small : bit < bitsPerChunk)
    : allocator.isFree (UInt32.ofNat (chunk * bitsPerChunk + bit)) = true
      ↔ UInt32.ofNat (chunk * bitsPerChunk + bit) ∉ reservedIDs
        ∧ Bitset.chunkBit (allocator.allocatedBits.getD chunk 0) bit = false := by
  have number := toNat_bitID bounded stored small
  have chunkOf : (chunk * bitsPerChunk + bit) / 64 = chunk := by
    simp only [bitsPerChunk] at small ⊢; omega
  have bitOf : (chunk * bitsPerChunk + bit) % 64 = bit := by
    simp only [bitsPerChunk] at small ⊢; omega
  rw [isFree_iff, number, Bitset.test, chunkOf, bitOf]

/-- The loop over one chunk finds the first free ID of the chunk that it does not skip. -/
theorem findFreeInChunk_eq {allocator : Allocator} (bounded : allocator.Bounded)
    {chunk : Nat} (n : Nat) (startID : AudioObjectID)
    (stored : chunk < allocator.allocatedBits.length)
    : findFreeInChunk (allocator.allocatedBits.getD chunk 0) chunk n startID
      = (((List.range bitsPerChunk).map (fun bit =>
          UInt32.ofNat (chunk * bitsPerChunk + bit))).filter
            (fun objectID => ¬(n = 0 ∧ objectID < startID))).find? allocator.isFree := by
  rw [List.find?_filter, findFreeInChunk]
  apply findSome?_eq_find?_map
  intro bit member
  have free := isFree_bitID bounded stored (List.mem_range.mp member)
  generalize UInt32.ofNat (chunk * bitsPerChunk + bit) = objectID at free
  generalize Bitset.chunkBit (allocator.allocatedBits.getD chunk 0) bit = isSet at free
  cases isSet with
  | true =>
      have taken : ¬allocator.isFree objectID = true := fun passes => by simpa using free.mp passes
      simp [taken]
  | false =>
      by_cases skipped : n = 0 ∧ objectID < startID
      · simp [skipped]
      · by_cases reserved : objectID ∈ reservedIDs <;> simp [skipped, free, reserved]

/-- No ID of a full chunk is free, so that skipping the chunk skips nothing. -/
theorem find?_full_chunk {allocator : Allocator} (bounded : allocator.Bounded) {chunk : Nat}
    (stored : chunk < allocator.allocatedBits.length)
    (full : allocator.allocatedBits.getD chunk 0 = -1) (keep : AudioObjectID → Bool)
    : (((List.range bitsPerChunk).map (fun bit =>
        UInt32.ofNat (chunk * bitsPerChunk + bit))).filter keep).find? allocator.isFree
      = none := by
  apply List.find?_eq_none.mpr
  intro objectID member
  obtain ⟨bit, range, rfl⟩ := List.mem_map.mp (List.mem_filter.mp member).1
  have small := List.mem_range.mp range
  rw [isFree_bitID bounded stored small, full, Bitset.chunkBit_full small]
  simp

/-- The search of the bitset finds the first free ID in scan order. -/
theorem findFreeInBitset_eq {allocator : Allocator} (bounded : allocator.Bounded)
    (startID : AudioObjectID)
    : allocator.findFreeInBitset startID
      = (scanned allocator.allocatedBits.length startID).find? allocator.isFree := by
  simp only [findFreeInBitset, scanned]
  split
  · rfl
  · rename_i nonempty
    rw [List.find?_flatMap]
    congr 1
    funext n
    have stored : (startID.toNat / bitsPerChunk + n) % allocator.allocatedBits.length
        < allocator.allocatedBits.length := Nat.mod_lt _ (by omega)
    split
    · rename_i full
      rw [find?_full_chunk bounded stored full]
    · exact findFreeInChunk_eq bounded n startID stored

/-- Every ID inside the bitset is met by a scan from any start, at the latest when the scan
comes back to the chunk it started from.
-/
theorem mem_scanned {size : Nat} {objectID : AudioObjectID} (startID : AudioObjectID)
    (inside : objectID.toNat < size * bitsPerChunk)
    : objectID ∈ scanned size startID := by
  have nonempty : size ≠ 0 := by
    rintro rfl
    simp at inside
  have stored : objectID.toNat / bitsPerChunk < size :=
    Nat.div_lt_of_lt_mul (by rwa [Nat.mul_comm])
  obtain ⟨n, positive, visited, place⟩
      : ∃ n, n ≠ 0 ∧ n < size + 1
        ∧ (startID.toNat / bitsPerChunk + n) % size = objectID.toNat / bitsPerChunk := by
    generalize objectID.toNat / bitsPerChunk = chunk at stored
    generalize startID.toNat / bitsPerChunk = start
    have wrapped : start % size < size := Nat.mod_lt _ (by omega)
    by_cases after : start % size < chunk
    · refine ⟨chunk - start % size, by omega, by omega, ?_⟩
      rw [← Nat.mod_add_mod, Nat.add_sub_cancel' after.le, Nat.mod_eq_of_lt stored]
    · refine ⟨chunk + size - start % size, by omega, by omega, ?_⟩
      rw [← Nat.mod_add_mod, Nat.add_sub_cancel' (by omega), Nat.add_mod_right,
        Nat.mod_eq_of_lt stored]
  rw [scanned, if_neg nonempty, List.mem_flatMap]
  refine ⟨n, List.mem_range.mpr visited, List.mem_filter.mpr ⟨?_, by simp [positive]⟩⟩
  refine List.mem_map.mpr ⟨objectID.toNat % bitsPerChunk, ?_, ?_⟩
  · exact List.mem_range.mpr (Nat.mod_lt _ (by decide))
  · rw [place, Nat.div_add_mod' objectID.toNat bitsPerChunk]
    exact UInt32.ofNat_toNat

/-- The ID after the bitset is not reserved: two reserved IDs are skipped at most. -/
theorem afterBitset_unreserved (size : Nat) : afterBitset size ∉ reservedIDs := by
  have skips : ∀ objectID, skipReserved 2 objectID ∉ reservedIDs := by
    intro objectID
    simp only [skipReserved, reservedIDs, kAudioObjectUnknown, kAudioObjectPlugInObject,
      List.mem_cons, List.not_mem_nil, or_false]
    by_cases zero : objectID = 0
    · subst zero; decide
    · by_cases one : objectID = 1
      · subst one; decide
      · simp [zero, one]
  exact skips _

/-- The ID after a bitset that leaves room for it is the number of its bits, unless it has none.
-/
theorem toNat_afterBitset {size : Nat} (nonempty : size ≠ 0)
    (room : size * bitsPerChunk < UInt32.size)
    : (afterBitset size).toNat = size * bitsPerChunk := by
  have number := UInt32.toNat_ofNat_of_lt' room
  have unreserved : UInt32.ofNat (size * bitsPerChunk) ∉ reservedIDs := by
    intro reserved
    simp only [reservedIDs, List.mem_cons, List.not_mem_nil, or_false] at reserved
    rcases reserved with zero | one
    · rw [zero] at number
      simp only [kAudioObjectUnknown, bitsPerChunk, UInt32.toNat_zero] at number
      omega
    · rw [one] at number
      simp only [kAudioObjectPlugInObject, bitsPerChunk, UInt32.toNat_one] at number
      omega
  have kept : afterBitset size = UInt32.ofNat (size * bitsPerChunk) := if_neg unreserved
  rw [kept, number]

/-- The ID after a bitset that leaves room for it is free: no bit is stored for it. -/
theorem afterBitset_free {allocator : Allocator}
    (room : allocator.allocatedBits.length * bitsPerChunk < UInt32.size)
    : allocator.isFree (afterBitset allocator.allocatedBits.length) = true := by
  refine (isFree_iff _ _).mpr ⟨afterBitset_unreserved _, Bitset.test_of_length_le ?_⟩
  by_cases empty : allocator.allocatedBits.length = 0
  · omega
  · rw [toNat_afterBitset empty room, bitsPerChunk, Nat.mul_div_cancel _ (by decide)]

/-- A new allocator's bitset is within bounds. -/
theorem bounded_new (hintMaximumID : AudioObjectID)
    : ({ desiredMaximumID := hintMaximumID } : Allocator).Bounded :=
  Nat.zero_le _

/-- Resizing the bitset for an ID keeps it within bounds. -/
theorem Bounded.setFree {allocator : Allocator} (bounded : allocator.Bounded)
    (objectID : AudioObjectID) (free : Bool)
    : (allocator.setFree objectID free).Bounded := by
  have limit := objectID.toNat_lt_size
  simp only [Bounded, Allocator.setFree, Bitset.length_assign, bitsPerChunk, UInt32.size]
    at bounded limit ⊢
  omega

/-- A list with every unreserved ID below a limit has at least as many entries as these. -/
theorem length_of_covers {taken : List AudioObjectID} {limit : Nat}
    (within : limit ≤ UInt32.size)
    (covers
      : ∀ objectID, objectID ∉ reservedIDs → objectID.toNat < limit → objectID ∈ taken)
    : limit - 2 ≤ taken.length := by
  have distinct : ((List.range' 2 (limit - 2)).map UInt32.ofNat).Nodup := by
    refine List.Nodup.map_on ?_ List.nodup_range'
    intro first firstMember second secondMember same
    have firstLimit := List.mem_range'_1.mp firstMember
    have secondLimit := List.mem_range'_1.mp secondMember
    rw [← UInt32.toNat_inj, UInt32.toNat_ofNat_of_lt' (by omega),
      UInt32.toNat_ofNat_of_lt' (by omega)] at same
    exact same
  have included : (List.range' 2 (limit - 2)).map UInt32.ofNat ⊆ taken := by
    intro objectID member
    obtain ⟨number, range, rfl⟩ := List.mem_map.mp member
    have limits := List.mem_range'_1.mp range
    have value : (UInt32.ofNat number).toNat = number := UInt32.toNat_ofNat_of_lt' (by omega)
    refine covers _ (fun reserved => ?_) (by omega)
    simp only [reservedIDs, List.mem_cons, List.not_mem_nil, or_false] at reserved
    rcases reserved with zero | one
    · rw [zero] at value
      simp only [kAudioObjectUnknown, UInt32.toNat_zero] at value
      omega
    · rw [one] at value
      simp only [kAudioObjectPlugInObject, UInt32.toNat_one] at value
      omega
  have counted := distinct.length_le_of_subset included
  rwa [List.length_map, List.length_range'] at counted

/-- Fewer taken IDs than unreserved ones leave an unreserved ID that is not taken. -/
theorem exists_untaken {taken : List AudioObjectID} (few : taken.length < UInt32.size - 2)
    : ∃ objectID, objectID ∉ reservedIDs ∧ objectID ∉ taken := by
  by_contra none
  refine absurd (length_of_covers (Nat.le_refl _) ?_) (Nat.not_le.mpr few)
  intro objectID unreserved _
  exact by_contra (fun untaken => none ⟨objectID, unreserved, untaken⟩)

/-- While the bit of some unreserved ID is clear, some candidate is free: the one after the
bitset, or, if the bitset has no room after it, one that the scan meets.
-/
theorem exists_free_candidate_of_clear {allocator : Allocator} (bounded : allocator.Bounded)
    {objectID : AudioObjectID} (unreserved : objectID ∉ reservedIDs)
    (clear : Bitset.test allocator.allocatedBits objectID.toNat = false)
    : ∃ objectID ∈ allocator.candidates, allocator.isFree objectID = true := by
  rcases Nat.lt_or_eq_of_le bounded with room | full
  · exact ⟨_, by simp [candidates], afterBitset_free room⟩
  · have inside : objectID.toNat < allocator.allocatedBits.length * bitsPerChunk :=
      full ▸ objectID.toNat_lt_size
    refine ⟨objectID, ?_, (isFree_iff _ _).mpr ⟨unreserved, clear⟩⟩
    rw [candidates]
    apply List.mem_append_left
    split
    · exact mem_scanned 0 inside
    · exact List.mem_cons_of_mem _ (mem_scanned _ inside)

/-- While few IDs have their bit set, some candidate is free. -/
theorem exists_free_candidate {allocator : Allocator} (bounded : allocator.Bounded)
    (taken : List AudioObjectID)
    (covers
      : ∀ objectID : AudioObjectID,
          Bitset.test allocator.allocatedBits objectID.toNat = true → objectID ∈ taken)
    (few : taken.length < UInt32.size - 2)
    : ∃ objectID ∈ allocator.candidates, allocator.isFree objectID = true := by
  obtain ⟨objectID, unreserved, untaken⟩ := exists_untaken few
  exact exists_free_candidate_of_clear bounded unreserved
    (Bool.eq_false_iff.mpr (fun isSet => untaken (covers objectID isSet)))

/-- `FindFreeID()` selects the first free ID among those scanned and the one after them. -/
theorem findFreeID_eq {allocator : Allocator} (bounded : allocator.Bounded)
    (startID : AudioObjectID)
    (exists_free
      : ∃ objectID
          ∈ scanned allocator.allocatedBits.length startID
            ++ [afterBitset allocator.allocatedBits.length],
          allocator.isFree objectID = true)
    : (scanned allocator.allocatedBits.length startID
        ++ [afterBitset allocator.allocatedBits.length]).find? allocator.isFree
      = some (allocator.findFreeID startID) := by
  rw [findFreeID, findFreeInBitset_eq bounded, List.find?_append]
  cases found : (scanned allocator.allocatedBits.length startID).find? allocator.isFree with
  | some objectID => rfl
  | none =>
      obtain ⟨objectID, member, free⟩ := exists_free
      rcases List.mem_append.mp member with inside | after
      · exact absurd free (List.find?_eq_none.mp found objectID inside)
      · obtain rfl := List.mem_singleton.mp after
        simp [free]

/-- The IDs met by a scan are inside the bitset. -/
theorem lt_of_mem_scanned {size : Nat} {startID objectID : AudioObjectID}
    (member : objectID ∈ scanned size startID)
    : objectID.toNat < size * bitsPerChunk := by
  rw [scanned] at member
  split at member
  · exact absurd member List.not_mem_nil
  · obtain ⟨n, -, visited⟩ := List.mem_flatMap.mp member
    obtain ⟨bit, range, rfl⟩ := List.mem_map.mp (List.mem_filter.mp visited).1
    have small := List.mem_range.mp range
    have chunk : (startID.toNat / bitsPerChunk + n) % size < size := Nat.mod_lt _ (by omega)
    generalize (startID.toNat / bitsPerChunk + n) % size = index at chunk
    have wrapped : (UInt32.ofNat (index * bitsPerChunk + bit)).toNat
        ≤ index * bitsPerChunk + bit := Nat.mod_le _ _
    have next : (index + 1) * bitsPerChunk ≤ size * bitsPerChunk :=
      Nat.mul_le_mul_right _ chunk
    rw [Nat.add_mul, Nat.one_mul] at next
    omega

/-- The returned ID is below the desired maximum, or inside the bitset, or the one after it.
The last is returned only when no ID inside the bitset is free.
-/
theorem allocateID_place {allocator : Allocator} {objectID : AudioObjectID}
    (first : allocator.candidates.find? allocator.isFree = some objectID)
    : objectID < allocator.increasedMaximumID
      ∨ objectID.toNat < allocator.allocatedBits.length * bitsPerChunk
      ∨ (objectID = afterBitset allocator.allocatedBits.length
        ∧ ∀ other : AudioObjectID,
            other.toNat < allocator.allocatedBits.length * bitsPerChunk
            → ¬allocator.isFree other = true) := by
  rw [candidates, List.find?_append] at first
  cases found : (if allocator.increasedMaximumID ≤ allocator.nextID
      then scanned allocator.allocatedBits.length 0
      else allocator.nextID
        :: scanned allocator.allocatedBits.length (allocator.nextID + 1)).find?
          allocator.isFree with
  | some early =>
      rw [found, Option.some_or] at first
      obtain rfl := Option.some.inj first
      have member := List.mem_of_find?_eq_some found
      split at member
      · exact Or.inr (Or.inl (lt_of_mem_scanned member))
      · rename_i below
        rcases List.mem_cons.mp member with rfl | scan
        · exact Or.inl (UInt32.not_le.mp below)
        · exact Or.inr (Or.inl (lt_of_mem_scanned scan))
  | none =>
      rw [found, Option.none_or] at first
      have last := List.mem_singleton.mp (List.mem_of_find?_eq_some first)
      refine Or.inr (Or.inr ⟨last, fun other inside => ?_⟩)
      refine List.find?_eq_none.mp found other ?_
      split
      · exact mem_scanned 0 inside
      · exact List.mem_cons_of_mem _ (mem_scanned _ inside)

/-- Where the desired maximum changes, it doubles, and more than half as many IDs as its value
are allocated.
-/
theorem increasedMaximumID_of_ne {allocator : Allocator}
    (changed : allocator.increasedMaximumID ≠ allocator.desiredMaximumID)
    : allocator.increasedMaximumID = allocator.desiredMaximumID * 2
      ∧ allocator.desiredMaximumID.toNat < 2 * allocator.numAllocatedIDs.toNat := by
  rw [increasedMaximumID] at changed ⊢
  split at changed
  · rename_i grows
    split at changed
    · rename_i small
      rw [if_pos grows, if_pos small]
      refine ⟨rfl, ?_⟩
      have half := UInt64.lt_iff_toNat_lt.mp grows.2
      have two : (2 : UInt32).toNat = 2 := rfl
      rw [UInt32.toNat_toUInt64, UInt32.toNat_div, two] at half
      omega
    · exact absurd rfl changed
  · exact absurd rfl changed

/-- `FindFreeID()` never selects a reserved ID. -/
theorem findFreeID_unreserved {allocator : Allocator} (bounded : allocator.Bounded)
    (startID : AudioObjectID)
    : allocator.findFreeID startID ∉ reservedIDs := by
  rw [findFreeID, findFreeInBitset_eq bounded]
  cases found : (scanned allocator.allocatedBits.length startID).find? allocator.isFree with
  | some objectID => exact ((isFree_iff _ _).mp (List.find?_some found)).1
  | none => exact afterBitset_unreserved _

/-- `AllocateID()` never returns a reserved ID, also when no ID is free. -/
theorem allocateID_unreserved {allocator : Allocator} (bounded : allocator.Bounded)
    : allocator.allocateID.1 ∉ reservedIDs := by
  let increased := { allocator with desiredMaximumID := allocator.increasedMaximumID }
  have increasedBounded : increased.Bounded := bounded
  simp only [allocateID]
  split
  · exact findFreeID_unreserved increasedBounded 0
  · split
    · exact findFreeID_unreserved increasedBounded _
    · rename_i free
      exact ((isFree_iff increased allocator.nextID).mp (by simpa using free)).1

/-- `AllocateID()` returns its first free candidate. -/
theorem allocateID_eq {allocator : Allocator} (bounded : allocator.Bounded)
    (exists_free : ∃ objectID ∈ allocator.candidates, allocator.isFree objectID = true)
    : allocator.candidates.find? allocator.isFree = some allocator.allocateID.1 := by
  let increased := { allocator with desiredMaximumID := allocator.increasedMaximumID }
  have same : increased.isFree = allocator.isFree := by
    funext objectID
    exact isFree_congr objectID rfl
  have increasedBounded : increased.Bounded := bounded
  have search := findFreeID_eq increasedBounded
  rw [same] at search
  simp only [candidates] at exists_free ⊢
  simp only [allocateID]
  by_cases above : allocator.increasedMaximumID ≤ allocator.nextID
  · simp only [if_pos above] at exists_free ⊢
    exact search 0 exists_free
  · simp only [if_neg above] at exists_free ⊢
    have candidate : increased.isFree allocator.nextID = allocator.isFree allocator.nextID :=
      congrFun same _
    cases free : allocator.isFree allocator.nextID with
    | true =>
        rw [List.cons_append, List.find?_cons, free]
        simp [increased, candidate, free]
    | false =>
        have later : ∃ objectID
            ∈ scanned allocator.allocatedBits.length (allocator.nextID + 1)
              ++ [afterBitset allocator.allocatedBits.length],
            allocator.isFree objectID = true := by
          obtain ⟨objectID, member, passes⟩ := exists_free
          rcases List.mem_cons.mp member with rfl | rest
          · exact absurd passes (by simp [free])
          · exact ⟨objectID, rest, passes⟩
        rw [List.cons_append, List.find?_cons, free]
        simpa [increased, candidate, free] using search (allocator.nextID + 1) later

end Allocator

end Aspl.Dispatcher
