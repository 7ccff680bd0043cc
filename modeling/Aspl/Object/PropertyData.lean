import Aspl.Base.Buffer
import Aspl.Object.PropertyProviders

/-! `GetPropertyData()` stores what `GetPropertyDataSize()` announces, as far as there is room.
All properties come down to one rule: elements of one size, of which a buffer takes those that
fit, or all or nothing.
-/

namespace Aspl.Object

open CoreAudio

universe u v

variable {Selector : Type u} {State : Type v} [DecidableEq Selector]
  {object : PropertyObject Selector State} {state : State} {address : PropertyAddress Selector}
  {query : DataQuery} {provider : Provider Selector State}

-----------------------------------------------------------------------------------------
-- Values
-----------------------------------------------------------------------------------------

/-- What the getter of a property that is not an array is called with. -/
def PropertyDescription.argument (property : PropertyDescription Selector)
    (address : PropertyAddress Selector) (query : DataQuery)
    : Argument :=
  if property.isConverter then
    .input (FoundationValue.read property.size (query.outData.getD []) 0).bytes
  else if property.isQualified then
    .qualifier (FoundationValue.read property.qualifierSize query.qualifierData 0).bytes
  else property.getterArgument address

/-- The elements of an array, or the one value of another property. -/
def Property.elements (property : Property Selector State) (state : State)
    (address : PropertyAddress Selector) (query : DataQuery)
    : List (FoundationValue property.size) :=
  if property.isArray then property.getValues state (property.getterArgument address)
  else [property.getValue state (property.argument address query)]

namespace Provider

/-- The bytes of each element of a property. A custom property without getter has none. -/
def elements (provider : Provider Selector State) (state : State)
    (address : PropertyAddress Selector) (query : DataQuery)
    : List (List UInt8) :=
  match provider with
  | .builtIn _ property => (property.elements state address query).map (·.bytes)
  | .custom property => property.getter.toList.map (fun getter => (getter state).bytes)

def elementSize : Provider Selector State → Nat
  | .builtIn _ property => property.size
  | .custom property => property.size

/-- Only an array is returned in part. -/
def isTruncatable : Provider Selector State → Bool
  | .builtIn _ property => property.isArray && property.isTruncatable
  | .custom _ => false

/-- A custom property has a getter, and a qualifier has the size of its type. -/
def Answers (query : DataQuery) : Provider Selector State → Prop
  | .builtIn _ property =>
      property.isQualified = true → query.qualifierDataSize.toNat = property.qualifierSize
  | .custom property => property.getter.isSome = true

omit [DecidableEq Selector] in
theorem elementSize_pos : 0 < provider.elementSize := by
  cases provider with
  | builtIn depth property => exact property.size_pos
  | custom property => exact (by decide : 0 < referenceSize)

omit [DecidableEq Selector] in
theorem length_of_mem_elements
    : ∀ element ∈ provider.elements state address query,
        element.length = provider.elementSize := by
  intro element member
  cases provider with
  | builtIn depth property =>
      obtain ⟨value, -, rfl⟩ := List.mem_map.mp member
      exact value.length_eq
  | custom property =>
      obtain ⟨getter, -, rfl⟩ := List.mem_map.mp member
      exact (getter state).length_eq

omit [DecidableEq Selector] in
theorem length_flatten_elements
    : (provider.elements state address query).flatten.length
      = (provider.elements state address query).length * provider.elementSize :=
  Buffer.length_flatten length_of_mem_elements

end Provider

-----------------------------------------------------------------------------------------
-- Replies
-----------------------------------------------------------------------------------------

/-- A reply with the elements that fit, or with none if they do not. -/
def DataReply.Returns (reply : DataReply Selector State) (size : Nat)
    : Option (List (List UInt8)) → Prop
  | some taken =>
      reply.status = .kAudioHardwareNoError
      ∧ reply.outDataSize = some (UInt32.ofNat (taken.length * size))
      ∧ reply.outData = Buffer.consecutive size taken
  | none => reply.status = .kAudioHardwareBadPropertySizeError ∧ reply.outData = []

/-- Values that are stored one after the other. -/
theorem DataQuery.storeValues_some {memory : List UInt8} {size : Nat}
    (hasData : query.outData = some memory) (values : List (FoundationValue size))
    : query.storeValues values = Buffer.consecutive size (values.map (·.bytes)) := by
  simp [DataQuery.storeValues, hasData, Buffer.consecutive, List.zipIdx_map, Function.comp_def]

omit [DecidableEq Selector] in
/-- Returned values that are what fits. -/
theorem returnValues_returns {memory : List UInt8} (hasSize : query.hasOutDataSize = true)
    (hasData : query.outData = some memory) {size : Nat} (values : List (FoundationValue size))
    {count : Nat} (within : count ≤ values.length) {taken : List (List UInt8)}
    (fit : taken = (values.map (·.bytes)).take count) (found : Option (Provider Selector State))
    : (query.returnValues values count found).Returns size (some taken) := by
  subst fit
  refine ⟨rfl, ?_, ?_⟩
  · rw [List.length_take, List.length_map, Nat.min_eq_left within]
    simp [DataQuery.returnValues, DataQuery.storeSize, hasSize]
  · rw [← List.map_take]
    exact DataQuery.storeValues_some hasData _

omit [DecidableEq Selector] in
/-- An array is returned as far as it fits, or as a whole or not at all. -/
theorem getArray_returns {memory : List UInt8} (hasSize : query.hasOutDataSize = true)
    (hasData : query.outData = some memory) (property : Property Selector State)
    (found : Option (Provider Selector State))
    : (property.getArray state address query found).Returns property.size
        (Buffer.fitting property.isTruncatable property.size
          ((property.getValues state (property.getterArgument address)).map (·.bytes))
          query.inDataSize.toNat) := by
  rw [Property.getArray, Buffer.fitting, List.length_map]
  dsimp only
  split
  · refine returnValues_returns hasSize hasData _ (Nat.min_le_right _ _) ?_ found
    rw [List.take_eq_take_min, List.length_map]
  · split
    · exact ⟨rfl, rfl⟩
    · refine returnValues_returns hasSize hasData _ le_rfl ?_ found
      rw [List.take_of_length_le (by rw [List.length_map])]

omit [DecidableEq Selector] in
/-- One value is returned as a whole or not at all. -/
theorem single_returns {memory : List UInt8} (hasSize : query.hasOutDataSize = true)
    (hasData : query.outData = some memory) {size : Nat} {reply : DataReply Selector State}
    {value : FoundationValue size}
    (refused
      : query.inDataSize.toNat < size
        → reply.status = .kAudioHardwareBadPropertySizeError ∧ reply.outData = [])
    (returned
      : ¬ query.inDataSize.toNat < size
        → reply.status = .kAudioHardwareNoError
          ∧ reply.outDataSize = query.storeSize size
          ∧ reply.outData = query.storeValues [value])
    : reply.Returns size
        (Buffer.fitting false size [value.bytes] query.inDataSize.toNat) := by
  rw [Buffer.fitting, if_neg Bool.false_ne_true, List.length_singleton, Nat.one_mul]
  split
  · exact refused ‹_›
  · obtain ⟨status, size, stored⟩ := returned ‹_›
    refine ⟨status, ?_, stored.trans (DataQuery.storeValues_some hasData _)⟩
    rw [size, DataQuery.storeSize, if_pos hasSize, List.length_singleton, Nat.one_mul]

omit [DecidableEq Selector] in
theorem getScalar_returns {memory : List UInt8} (hasSize : query.hasOutDataSize = true)
    (hasData : query.outData = some memory) (property : Property Selector State)
    (qualified
      : property.isQualified = true → query.qualifierDataSize.toNat = property.qualifierSize)
    (found : Option (Provider Selector State))
    : (property.getScalar state address query found).Returns property.size
        (Buffer.fitting false property.size
          [(property.getValue state (property.argument address query)).bytes]
          query.inDataSize.toNat) := by
  refine single_returns hasSize hasData (fun short => ?_) (fun enough => ?_)
  · rw [Property.getScalar, if_pos short]
    exact ⟨rfl, rfl⟩
  · rw [Property.getScalar, if_neg enough, hasData, PropertyDescription.argument, hasData]
    dsimp only
    split
    · exact ⟨rfl, rfl, rfl⟩
    · split
      · rw [if_neg (not_not.mpr (qualified ‹_›))]
        exact ⟨rfl, rfl, rfl⟩
      · exact ⟨rfl, rfl, rfl⟩

omit [DecidableEq Selector] in
theorem getPropertyDataFallback_returns {memory : List UInt8}
    (hasSize : query.hasOutDataSize = true) (hasData : query.outData = some memory)
    {property : CustomProperty State} {getter : State → FoundationValue referenceSize}
    (registered : object.customProps address.mSelector = some property)
    (isGetter : property.getter = some getter)
    : (getPropertyDataFallback object state object.objectID address query).Returns property.size
        (Buffer.fitting false property.size [(getter state).bytes] query.inDataSize.toNat) := by
  refine single_returns hasSize hasData (fun short => ?_) (fun enough => ?_)
  · simp only [getPropertyDataFallback, if_true, registered, isGetter]
    rw [if_pos short]
    exact ⟨rfl, rfl⟩
  · simp only [getPropertyDataFallback, if_true, registered, isGetter]
    rw [if_neg enough]
    exact ⟨rfl, rfl, rfl⟩

/-- `GetPropertyData()` returns what fits of the property that an address names. -/
theorem getPropertyData_returns {memory : List UInt8}
    (named
      : object.provider address.mSelector (object.gettable address.mSelector) = some provider)
    (answers : provider.Answers query) (hasSize : query.hasOutDataSize = true)
    (hasData : query.outData = some memory)
    : (getPropertyData object state object.objectID (some address) query).Returns
        provider.elementSize
        (Buffer.fitting provider.isTruncatable provider.elementSize
          (provider.elements state address query) query.inDataSize.toNat) := by
  rw [getPropertyData_own]
  cases gettable : object.gettable address.mSelector with
  | some found =>
      rw [gettable] at named
      obtain rfl := Option.some.inj named
      dsimp only
      rw [Property.getData, Provider.elements, Property.elements, Provider.isTruncatable]
      by_cases isArray : found.2.isArray = true
      · rw [if_pos isArray, if_pos isArray, isArray, Bool.true_and]
        exact getArray_returns hasSize hasData found.2 _
      · rw [if_neg isArray, if_neg isArray, eq_false_of_ne_true isArray, Bool.false_and]
        exact getScalar_returns hasSize hasData found.2 answers _
  | none =>
      rw [gettable, PropertyObject.provider] at named
      obtain ⟨property, registered, rfl⟩ := Option.map_eq_some_iff.mp named
      obtain ⟨getter, isGetter⟩ := Option.isSome_iff_exists.mp answers
      rw [Provider.elements, isGetter]
      exact getPropertyDataFallback_returns hasSize hasData registered isGetter

/-- `GetPropertyDataSize()` announces the size of all elements. -/
theorem getPropertyDataSize_announces
    (named
      : object.provider address.mSelector (object.gettable address.mSelector) = some provider)
    (answers : provider.Answers query)
    : (getPropertyDataSize object state object.objectID (some address) true).status
        = .kAudioHardwareNoError
      ∧ (getPropertyDataSize object state object.objectID (some address) true).outDataSize
        = some (UInt32.ofNat (provider.elements state address query).flatten.length) := by
  rw [getPropertyDataSize_own, Provider.length_flatten_elements]
  cases gettable : object.gettable address.mSelector with
  | some found =>
      rw [gettable] at named
      obtain rfl := Option.some.inj named
      dsimp only
      refine ⟨rfl, ?_⟩
      rw [if_pos rfl, Property.dataSize, Provider.elements, Property.elements,
        Provider.elementSize, List.length_map]
      split
      · rfl
      · rw [List.length_singleton, Nat.one_mul]
  | none =>
      rw [gettable, PropertyObject.provider] at named
      obtain ⟨property, registered, rfl⟩ := Option.map_eq_some_iff.mp named
      obtain ⟨getter, isGetter⟩ := Option.isSome_iff_exists.mp answers
      simp [getPropertyDataSizeFallback, registered, Provider.elements, isGetter,
        Provider.elementSize]

-----------------------------------------------------------------------------------------
-- Sizes and data
-----------------------------------------------------------------------------------------

/-- What `GetPropertyDataSize()` announces and what `GetPropertyData()` does in a buffer of
`room` bytes agree about the elements of a property. `memory` is what was in the buffer.
-/
structure SizeAndDataAgree (reported : SizeReply Selector State)
    (reply : DataReply Selector State) (elements : List (List UInt8)) (elementSize : Nat)
    (isTruncatable : Bool) (room : Nat) (memory : List UInt8)
    : Prop where
  /-- Nothing is written beyond the buffer. -/
  inside : ∀ offset ∈ Buffer.offsets reply.outData, offset < room
  /-- On success the size is the number of written bytes. -/
  counted
    : reply.status = .kAudioHardwareNoError
      → (Buffer.offsets reply.outData).Nodup
        ∧ ∃ size,
            reply.outDataSize = some size ∧ size.toNat = (Buffer.offsets reply.outData).length
  /-- A buffer of the announced size gets that size and the complete value. -/
  complete
    : ∃ size,
        reported.status = .kAudioHardwareNoError
        ∧ reported.outDataSize = some size
        ∧ size.toNat = elements.flatten.length
        ∧ (size.toNat ≤ room
          → reply.status = .kAudioHardwareNoError
            ∧ reply.outDataSize = some size
            ∧ reply.outData.foldl Buffer.write memory
              = elements.flatten ++ memory.drop size.toNat)
  /-- A smaller buffer gets the longest prefix of whole elements of a truncatable array. -/
  truncated
    : ∀ size,
        reported.outDataSize = some size
        → room < size.toNat
        → isTruncatable = true
        → ∃ count,
            count * elementSize ≤ room
            ∧ room < (count + 1) * elementSize
            ∧ count < elements.length
            ∧ reply.status = .kAudioHardwareNoError
            ∧ reply.outDataSize = some (UInt32.ofNat (count * elementSize))
            ∧ reply.outData.foldl Buffer.write memory
              = (elements.take count).flatten ++ memory.drop (count * elementSize)
  /-- And nothing of any other property. -/
  refused
    : ∀ size,
        reported.outDataSize = some size
        → room < size.toNat
        → isTruncatable = false
        → reply.status = .kAudioHardwareBadPropertySizeError ∧ reply.outData = []

section Agreement

variable {reported : SizeReply Selector State} {reply : DataReply Selector State}
  {elements taken : List (List UInt8)} {size room : Nat} {isTruncatable : Bool}

omit [DecidableEq Selector] in
/-- Returned elements are written once each, from the start of the buffer. -/
theorem DataReply.Returns.offsets (returns : reply.Returns size (some taken))
    (uniform : ∀ element ∈ taken, element.length = size)
    : Buffer.offsets reply.outData = List.range (taken.length * size) := by
  rw [returns.2.2, Buffer.offsets_consecutive uniform]

omit [DecidableEq Selector] in
theorem DataReply.Returns.written (returns : reply.Returns size (some taken))
    (uniform : ∀ element ∈ taken, element.length = size) (memory : List UInt8)
    : reply.outData.foldl Buffer.write memory
      = taken.flatten ++ memory.drop (taken.length * size) := by
  rw [returns.2.2, Buffer.foldl_write_consecutive uniform]

omit [DecidableEq Selector] in
/-- A reply with what fits stays in the buffer. -/
theorem DataReply.Returns.inside
    (returns : reply.Returns size (Buffer.fitting isTruncatable size elements room))
    (uniform : ∀ element ∈ elements, element.length = size)
    : ∀ offset ∈ Buffer.offsets reply.outData, offset < room := by
  intro offset written
  cases fits : Buffer.fitting isTruncatable size elements room with
  | none =>
      rw [fits] at returns
      rw [returns.2] at written
      cases written
  | some taken =>
      rw [fits] at returns
      rw [returns.offsets (Buffer.fitting_uniform fits uniform).2, List.mem_range] at written
      exact lt_of_lt_of_le written (Buffer.fitting_length fits)

omit [DecidableEq Selector] in
/-- A successful reply with what fits counts what it writes. -/
theorem DataReply.Returns.counted
    (returns : reply.Returns size (Buffer.fitting isTruncatable size elements room))
    (uniform : ∀ element ∈ elements, element.length = size)
    (small : elements.length * size < 2 ^ 32)
    (success : reply.status = .kAudioHardwareNoError)
    : (Buffer.offsets reply.outData).Nodup
      ∧ ∃ size,
          reply.outDataSize = some size ∧ size.toNat = (Buffer.offsets reply.outData).length := by
  cases fits : Buffer.fitting isTruncatable size elements room with
  | none =>
      rw [fits] at returns
      rw [returns.1] at success
      cases success
  | some taken =>
      rw [fits] at returns
      obtain ⟨fewer, takenUniform⟩ := Buffer.fitting_uniform fits uniform
      have bounded : taken.length * size < 2 ^ 32 :=
        lt_of_le_of_lt (Nat.mul_le_mul_right size fewer) small
      rw [returns.offsets takenUniform]
      refine ⟨List.nodup_range, _, returns.2.1, ?_⟩
      rw [UInt32.toNat_ofNat', Nat.mod_eq_of_lt bounded, List.length_range]

omit [DecidableEq Selector] in
/-- A reply with what fits of the elements agrees with their announced size. -/
theorem sizeAndDataAgree_of_returns (size_pos : 0 < size)
    (uniform : ∀ element ∈ elements, element.length = size)
    (small : elements.flatten.length < 2 ^ 32)
    (announced
      : reported.status = .kAudioHardwareNoError
        ∧ reported.outDataSize = some (UInt32.ofNat elements.flatten.length))
    (returns : reply.Returns size (Buffer.fitting isTruncatable size elements room))
    (memory : List UInt8)
    : SizeAndDataAgree reported reply elements size isTruncatable room memory := by
  have total := Buffer.length_flatten uniform
  have announcedSize : (UInt32.ofNat elements.flatten.length).toNat = elements.length * size := by
    rw [UInt32.toNat_ofNat', Nat.mod_eq_of_lt small, total]
  exact {
    inside := returns.inside uniform
    counted := returns.counted uniform (total ▸ small)
    complete := by
      refine ⟨_, announced.1, announced.2, by rw [announcedSize, total], fun enough => ?_⟩
      rw [announcedSize] at enough
      rw [Buffer.fitting_whole size_pos enough] at returns
      refine ⟨returns.1, ?_, ?_⟩
      · rw [returns.2.1, total]
      · rw [returns.written uniform, announcedSize]
    truncated := by
      intro announcedAs isAnnounced short truncatable
      rw [announced.2] at isAnnounced
      obtain rfl := Option.some.inj isAnnounced
      rw [announcedSize] at short
      obtain ⟨count, fits, next, fewer, fitting⟩ := Buffer.fitting_prefix size_pos short
      rw [truncatable, fitting] at returns
      have length : (elements.take count).length = count := by
        rw [List.length_take, Nat.min_eq_left fewer.le]
      refine ⟨count, fits, next, fewer, returns.1, ?_, ?_⟩
      · rw [returns.2.1, length]
      · rw [returns.written (fun element member => uniform element (List.mem_of_mem_take member)),
          length]
    refused := by
      intro announcedAs isAnnounced short notTruncatable
      rw [announced.2] at isAnnounced
      obtain rfl := Option.some.inj isAnnounced
      rw [announcedSize] at short
      rw [notTruncatable, Buffer.fitting_none short] at returns
      exact returns
  }

end Agreement

/-- For every property that an address names, sizes and data agree and stay in the buffer. -/
theorem size_and_data_agree (object : PropertyObject Selector State) (state : State)
    (address : PropertyAddress Selector) (query : DataQuery) (memory : List UInt8)
    (provider : Provider Selector State)
    (named
      : object.provider address.mSelector (object.gettable address.mSelector) = some provider)
    (answers : provider.Answers query)
    (small : (provider.elements state address query).flatten.length < 2 ^ 32)
    (hasSize : query.hasOutDataSize = true) (hasData : query.outData = some memory)
    : SizeAndDataAgree
        (getPropertyDataSize object state object.objectID (some address) true)
        (getPropertyData object state object.objectID (some address) query)
        (provider.elements state address query) provider.elementSize provider.isTruncatable
        query.inDataSize.toNat memory :=
  sizeAndDataAgree_of_returns Provider.elementSize_pos Provider.length_of_mem_elements small
    (getPropertyDataSize_announces named answers)
    (getPropertyData_returns named answers hasSize hasData) memory

/-- The related devices of a zeroed device, into a buffer with room for one and a half of them. -/
theorem size_and_data_agree_related_devices
    : SizeAndDataAgree
        (getPropertyDataSize (zeroedDevice (.other 1)) () 2
          (some ⟨.kAudioDevicePropertyRelatedDevices, kAudioObjectPropertyScopeGlobal⟩) true)
        (getPropertyData (zeroedDevice (.other 1)) () 2
          (some ⟨.kAudioDevicePropertyRelatedDevices, kAudioObjectPropertyScopeGlobal⟩)
          ⟨0, [], 6, true, some [1, 1, 1, 1, 1, 1]⟩)
        [[0, 0, 0, 0], [0, 0, 0, 0]] 4 true 6 [1, 1, 1, 1, 1, 1] :=
  size_and_data_agree (zeroedDevice (.other 1)) ()
    ⟨.kAudioDevicePropertyRelatedDevices, kAudioObjectPropertyScopeGlobal⟩
    ⟨0, [], 6, true, some [1, 1, 1, 1, 1, 1]⟩ [1, 1, 1, 1, 1, 1] _ rfl
    (fun qualified => nomatch qualified) (by decide) rfl rfl

end Aspl.Object
