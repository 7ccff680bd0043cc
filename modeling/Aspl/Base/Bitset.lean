import Mathlib.Data.List.GetD

/-! Sets of natural numbers stored as a growing list of 64-bit chunks: membership, growth and
one-bit updates. Bits past the end of the list are clear.
-/

namespace Aspl.Bitset

/-- Whether a bit of a chunk is set, read with a mask. -/
def chunkBit (chunk : UInt64) (bit : Nat) : Bool :=
  chunk &&& (1 : UInt64) <<< UInt64.ofNat bit != 0

/-- A chunk with one bit set or cleared, through the same mask. -/
def assignChunk (chunk : UInt64) (bit : Nat) (value : Bool) : UInt64 :=
  if value then chunk ||| (1 : UInt64) <<< UInt64.ofNat bit
  else chunk &&& ~~~((1 : UInt64) <<< UInt64.ofNat bit)

/-- Whether a number is in the set. -/
def test (chunks : List UInt64) (index : Nat) : Bool :=
  chunkBit (chunks.getD (index / 64) 0) (index % 64)

/-- At least so many chunks, by appending empty ones. -/
def grow (chunks : List UInt64) (count : Nat) : List UInt64 :=
  chunks ++ List.replicate (count - chunks.length) 0

/-- The set with one number added or removed. -/
def assign (chunks : List UInt64) (index : Nat) (value : Bool) : List UInt64 :=
  let grown := grow chunks (index / 64 + 1)
  grown.set (index / 64) (assignChunk (grown.getD (index / 64) 0) (index % 64) value)

/-- The numbers in the set, in increasing order. -/
def members (chunks : List UInt64) : List Nat :=
  (List.range (chunks.length * 64)).filter (test chunks)

/-- The number of set bits. -/
def count (chunks : List UInt64) : Nat :=
  (members chunks).length

/-- The mask of a bit is the power of two at its position. -/
theorem mask_toBitVec {bit : Nat} (small : bit < 64)
    : ((1 : UInt64) <<< UInt64.ofNat bit).toBitVec = BitVec.twoPow 64 bit := by
  apply BitVec.eq_of_toNat_eq
  simp [Nat.mod_eq_of_lt small, Nat.shiftLeft_eq]

/-- The mask test reads one bit of the chunk's bit vector. -/
theorem chunkBit_eq_getLsbD (chunk : UInt64) {bit : Nat} (small : bit < 64)
    : chunkBit chunk bit = chunk.toBitVec.getLsbD bit := by
  have isZero : chunk &&& (1 : UInt64) <<< UInt64.ofNat bit = 0
      ↔ chunk.toBitVec &&& BitVec.twoPow 64 bit = 0#64 := by
    rw [← UInt64.toBitVec_inj, UInt64.toBitVec_and, mask_toBitVec small]
    rfl
  have nonzero : BitVec.twoPow 64 bit ≠ 0#64 := by
    intro zero
    have selected := congrArg (fun bits => bits.getLsbD bit) zero
    simp [small] at selected
  rw [BitVec.and_twoPow] at isZero
  rw [chunkBit, Bool.eq_iff_iff, bne_iff_ne, ne_eq, isZero]
  cases chunk.toBitVec.getLsbD bit <;> simp [nonzero]

/-- A chunk with all bits set has every bit. -/
theorem chunkBit_full {bit : Nat} (small : bit < 64) : chunkBit (-1) bit = true := by
  have allOnes : (-1 : UInt64).toBitVec = BitVec.allOnes 64 := by decide
  rw [chunkBit_eq_getLsbD _ small, allOnes, BitVec.getLsbD_allOnes]
  exact decide_eq_true small

/-- An empty chunk has no bit. -/
theorem chunkBit_zero {bit : Nat} (small : bit < 64) : chunkBit 0 bit = false := by
  rw [chunkBit_eq_getLsbD _ small]
  exact BitVec.getLsbD_zero

/-- An updated chunk differs in the assigned bit only. -/
theorem chunkBit_assignChunk (chunk : UInt64) {bit other : Nat} (value : Bool)
    (small : bit < 64) (smallOther : other < 64)
    : chunkBit (assignChunk chunk bit value) other
      = if other = bit then value else chunkBit chunk other := by
  rw [chunkBit_eq_getLsbD _ smallOther, chunkBit_eq_getLsbD _ smallOther, assignChunk]
  cases value with
  | false =>
      rw [if_neg Bool.false_ne_true, UInt64.toBitVec_and, UInt64.toBitVec_not,
        mask_toBitVec small]
      by_cases same : other = bit
      · simp [same]
      · simp [same, smallOther]
  | true =>
      rw [if_pos rfl, UInt64.toBitVec_or, mask_toBitVec small]
      by_cases same : other = bit
      · simp [same, small]
      · simp [same, smallOther]

@[simp] theorem length_grow (chunks : List UInt64) (count : Nat)
    : (grow chunks count).length = max chunks.length count := by
  simp only [grow, List.length_append, List.length_replicate]
  omega

/-- Growing appends chunks that read as the missing ones did. -/
@[simp] theorem getD_grow (chunks : List UInt64) (count index : Nat)
    : (grow chunks count).getD index 0 = chunks.getD index 0 := by
  rw [grow]
  by_cases inside : index < chunks.length
  · rw [List.getD_append _ _ _ _ inside]
  · have outside : chunks.length ≤ index := by omega
    rw [List.getD_append_right _ _ _ _ outside, List.getD_eq_default _ _ outside]
    rw [List.getD_eq_getElem?_getD, List.getElem?_replicate]
    split <;> rfl

@[simp] theorem length_assign (chunks : List UInt64) (index : Nat) (value : Bool)
    : (assign chunks index value).length = max chunks.length (index / 64 + 1) := by
  simp [assign]

/-- An updated set differs in the assigned number only. -/
theorem test_assign (chunks : List UInt64) (index other : Nat) (value : Bool)
    : test (assign chunks index value) other
      = if other = index then value else test chunks other := by
  have inside : index / 64 < (grow chunks (index / 64 + 1)).length := by
    rw [length_grow]; omega
  simp only [test, assign]
  by_cases sameChunk : other / 64 = index / 64
  · have stored := List.getElem?_set_self inside
      (a := assignChunk (chunks.getD (index / 64) 0) (index % 64) value)
    have sameBit : other % 64 = index % 64 ↔ other = index := by omega
    rw [sameChunk, getD_grow, List.getD_eq_getElem?_getD, stored, Option.getD_some,
      chunkBit_assignChunk _ _ (Nat.mod_lt _ (by omega)) (Nat.mod_lt _ (by omega))]
    simp only [sameBit]
  · have different : other ≠ index := fun same => sameChunk (congrArg (· / 64) same)
    rw [if_neg different, List.getD_eq_getElem?_getD, List.getElem?_set_ne (Ne.symm sameChunk),
      ← List.getD_eq_getElem?_getD, getD_grow]

/-- Numbers past the stored chunks are not in the set. -/
theorem test_of_length_le {chunks : List UInt64} {index : Nat}
    (outside : chunks.length ≤ index / 64)
    : test chunks index = false := by
  rw [test, List.getD_eq_default _ _ outside]
  exact chunkBit_zero (Nat.mod_lt _ (by omega))

/-- The listed members are the numbers in the set. -/
theorem mem_members {chunks : List UInt64} {index : Nat}
    : index ∈ members chunks ↔ test chunks index = true := by
  rw [members, List.mem_filter, List.mem_range, and_iff_right_iff_imp]
  intro isSet
  rcases Nat.lt_or_ge index (chunks.length * 64) with inside | outside
  · exact inside
  · rw [test_of_length_le (by omega)] at isSet
    exact absurd isSet Bool.false_ne_true

/-- No member is listed twice. -/
theorem nodup_members (chunks : List UInt64) : (members chunks).Nodup :=
  List.nodup_range.filter _

/-- The number of set bits is the length of any list of the set's members. -/
theorem count_eq_length {chunks : List UInt64} {indices : List Nat} (distinct : indices.Nodup)
    (listed : ∀ index, index ∈ indices ↔ test chunks index = true)
    : count chunks = indices.length := by
  refine ((List.perm_ext_iff_of_nodup (nodup_members chunks) distinct).mpr ?_).length_eq
  intro index
  rw [mem_members, listed]

end Aspl.Bitset
