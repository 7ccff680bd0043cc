import Aspl.CoreAudio
import Mathlib.Data.List.GetD

/-! Channel layouts as byte buffers: what is written as a list of channel descriptions is read
back as that list.
-/

namespace Aspl.CoreAudio

/-- The buffer says that it describes its channels one by one, and is long enough for all. -/
structure WellFormedLayout (layout : List UInt8) : Prop where
  tag : layoutTag layout = kAudioChannelLayoutTag_UseChannelDescriptions
  size
    : channelDescriptionsOffset + (layoutChannelCount layout).toNat * channelDescriptionSize
      ≤ layout.length

/-- A layout is well formed and describes exactly these channels. -/
structure LayoutDescribes (layout : List UInt8) (chans : List AudioChannelDescription)
    : Prop where
  wellFormed : WellFormedLayout layout
  channels : layoutChannels layout = chans

@[simp] theorem length_wordBytes (word : BitVec 32) : (wordBytes word).length = 4 := rfl

@[simp] theorem length_channelDescriptionBytes (channel : AudioChannelDescription)
    : (channelDescriptionBytes channel).length = channelDescriptionSize := rfl

/-- A word is read back where it was written. -/
theorem wordAt_wordBytes_append (word : BitVec 32) (rest : List UInt8)
    : wordAt (wordBytes word ++ rest) 0 = word := by
  have bounded := word.isLt
  apply BitVec.eq_of_toNat_eq
  simp [wordAt, wordBytes]
  omega

/-- Reading after the end of a first part reads in the second. -/
theorem wordAt_append (first second : List UInt8) {length : Nat} (ends : first.length = length)
    (offset : Nat)
    : wordAt (first ++ second) (length + offset) = wordAt second offset := by
  subst ends
  simp only [wordAt, Nat.add_assoc, List.getD_append_right _ _ _ _ (Nat.le_add_right _ _),
    Nat.add_sub_cancel_left]

/-- A word is skipped by reading four bytes further. -/
theorem wordAt_skip (word : BitVec 32) (rest : List UInt8) (offset : Nat)
    : wordAt (wordBytes word ++ rest) (4 + offset) = wordAt rest offset :=
  wordAt_append (wordBytes word) rest (length_wordBytes word) offset

/-- A channel description is read back where it was written. -/
theorem channelDescriptionAt_bytes_append (channel : AudioChannelDescription)
    (rest : List UInt8)
    : channelDescriptionAt (channelDescriptionBytes channel ++ rest) 0 = channel := by
  simp only [channelDescriptionAt, channelDescriptionBytes, List.append_assoc]
  rw [wordAt_wordBytes_append,
    show 0 + 4 = 4 + 0 from rfl, wordAt_skip, wordAt_wordBytes_append,
    show 0 + 8 = 4 + (4 + 0) from rfl, wordAt_skip, wordAt_skip, wordAt_wordBytes_append,
    show 0 + 12 = 4 + (4 + (4 + 0)) from rfl, wordAt_skip, wordAt_skip, wordAt_skip,
    wordAt_wordBytes_append,
    show 0 + 16 = 4 + (4 + (4 + (4 + 0))) from rfl, wordAt_skip, wordAt_skip, wordAt_skip,
    wordAt_skip, wordAt_wordBytes_append]

/-- Reading after the end of a first part reads in the second. -/
theorem channelDescriptionAt_append (first second : List UInt8) {length : Nat}
    (ends : first.length = length) (offset : Nat)
    : channelDescriptionAt (first ++ second) (length + offset)
      = channelDescriptionAt second offset := by
  simp only [channelDescriptionAt, Nat.add_assoc, wordAt_append first second ends]

/-- Every channel is read back from the array it was written to, by induction on the channels. -/
theorem channelDescriptionAt_flatMap {chans : List AudioChannelDescription} {n : Nat}
    {channel : AudioChannelDescription} (listed : chans[n]? = some channel)
    : channelDescriptionAt (chans.flatMap channelDescriptionBytes) (n * channelDescriptionSize)
      = channel := by
  induction chans generalizing n with
  | nil => cases listed
  | cons head rest ih =>
      rw [List.flatMap_cons]
      cases n with
      | zero =>
          obtain rfl : head = channel := by simpa using listed
          rw [Nat.zero_mul, channelDescriptionAt_bytes_append]
      | succ n =>
          rw [Nat.succ_mul, Nat.add_comm,
            channelDescriptionAt_append _ _ (length_channelDescriptionBytes head)]
          exact ih (by simpa using listed)

theorem layoutTag_channelLayoutBytes (chans : List AudioChannelDescription)
    : layoutTag (channelLayoutBytes chans) = kAudioChannelLayoutTag_UseChannelDescriptions := by
  rw [layoutTag, channelLayoutBytes, channelLayoutHeader, List.append_assoc,
    List.append_assoc, wordAt_wordBytes_append]

/-- The header has the number of channels as an unsigned 32-bit number. -/
theorem layoutChannelCount_channelLayoutBytes (chans : List AudioChannelDescription)
    : layoutChannelCount (channelLayoutBytes chans) = UInt32.ofNat chans.length := by
  rw [layoutChannelCount, channelLayoutBytes, channelLayoutHeader, List.append_assoc,
    List.append_assoc,
    show 8 = 4 + (4 + 0) from rfl, wordAt_skip, wordAt_skip, wordAt_wordBytes_append]
  rfl

theorem length_channelLayoutBytes (chans : List AudioChannelDescription)
    : (channelLayoutBytes chans).length
      = channelDescriptionsOffset + chans.length * channelDescriptionSize := by
  have total
      : (chans.flatMap channelDescriptionBytes).length
        = chans.length * channelDescriptionSize := by
    simp [List.length_flatMap, List.map_const']
  rw [channelLayoutBytes, List.length_append, total]
  rfl

/-- A layout built from channels describes them, unless they are more than its header counts. -/
theorem describes_channelLayoutBytes_iff (chans : List AudioChannelDescription)
    : LayoutDescribes (channelLayoutBytes chans) chans ↔ chans.length < 4294967296 := by
  have count := layoutChannelCount_channelLayoutBytes chans
  constructor
  · intro describes
    have length := congrArg List.length describes.channels
    rw [layoutChannels, List.length_map, List.length_range, count] at length
    exact length ▸ (UInt32.ofNat chans.length).toNat_lt
  · intro small
    have exact : (UInt32.ofNat chans.length).toNat = chans.length :=
      UInt32.toNat_ofNat_of_lt' small
    refine ⟨⟨layoutTag_channelLayoutBytes chans, ?_⟩, ?_⟩
    · rw [count, exact, length_channelLayoutBytes]
    · rw [layoutChannels, count, exact]
      apply List.ext_getElem?
      intro n
      rw [List.getElem?_map]
      cases listed : chans[n]? with
      | none =>
          have beyond := List.getElem?_eq_none_iff.mp listed
          rw [List.getElem?_eq_none (by simpa using beyond), Option.map_none]
      | some channel =>
          have inside := (List.getElem?_eq_some_iff.mp listed).1
          have header : (channelLayoutHeader chans).length = channelDescriptionsOffset := rfl
          have read := channelDescriptionAt_append (channelLayoutHeader chans)
            (chans.flatMap channelDescriptionBytes) header (n * channelDescriptionSize)
          rw [channelDescriptionAt_flatMap listed] at read
          simpa [List.getElem?_range inside, channelLayoutBytes] using read

end Aspl.CoreAudio
