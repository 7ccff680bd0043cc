import Aspl.CoreAudio

/-! The five property entry points that `generate-accessors.py` makes for a class, with the custom
properties of `Object` behind them. Each entry point is a switch over the properties of its class;
what it does not find it leaves to the same entry point of the base class, and the last one to
its fallback.
-/

namespace Aspl.Object

open CoreAudio

universe u v w

-----------------------------------------------------------------------------------------
-- Properties
-----------------------------------------------------------------------------------------

/-- A property of a class in its JSON file, as far as the entry points depend on it. `size` and
`qualifierSize` are `sizeof(type)` and `sizeof(qualifier_type)`. Without `allowedScopes` every
scope is allowed.
-/
structure PropertyDescription (Selector : Type u) where
  name : String
  id : Selector
  size : Nat
  allowedScopes : List AudioObjectPropertyScope := []
  isGettable : Bool := true
  isSettable : Bool := false
  scopedGetter : Bool := false
  isArray : Bool := false
  isTruncatable : Bool := true
  isConverter : Bool := false
  isQualified : Bool := false
  qualifierSize : Nat := 0
  size_pos : 0 < size := by decide

/-- A value of a CoreAudio type, by the bytes that `Convert::ToFoundation()` stores. -/
structure FoundationValue (size : Nat) where
  bytes : List UInt8
  length_eq : bytes.length = size

/-- The value stored at an offset. Bytes past the end of the memory, which the source must not
read, count as zero.
-/
def FoundationValue.read (size : Nat) (memory : List UInt8) (offset : Nat)
    : FoundationValue size where
  bytes := (List.range size).map (fun index => memory.getD (offset + index) 0)
  length_eq := by simp

/-- The argument that a getter is called with: none, the scope of the address, the value in the
output buffer that is to be converted, or the qualifier.
-/
inductive Argument where
  | none
  | scope (scope : AudioObjectPropertyScope)
  | input (bytes : List UInt8)
  | qualifier (bytes : List UInt8)

/-- A property with the methods that its generated code calls: `Get<Name>()` or `Convert<Name>()`,
and `Set<Name>()` or `Set<Name>Async()`. Arrays have `getValues`, other properties `getValue`.
-/
structure Property (Selector : Type u) (State : Type v) extends PropertyDescription Selector where
  getValue : State → Argument → FoundationValue size
  getValues : State → Argument → List (FoundationValue size)
  setValues : State → List (FoundationValue size) → State × OSStatus

/-- `sizeof(CFStringRef)` and `sizeof(CFPropertyListRef)`. -/
def referenceSize : Nat := 8

/-- A registered custom property. A null function is `none`. -/
structure CustomProperty (State : Type v) where
  getter : Option (State → FoundationValue referenceSize)
  setter : Option (State → FoundationValue referenceSize → State)

/-- `sizeof(ValueType)`. -/
def CustomProperty.size {State : Type v} (_property : CustomProperty State) : Nat := referenceSize

/-- An object: its ID, the properties of its class and of its base classes, nearest first, and
its custom properties.
-/
structure PropertyObject (Selector : Type u) (State : Type v) where
  objectID : AudioObjectID
  classes : List (List (Property Selector State))
  customProps : Selector → Option (CustomProperty State)

/-- The fields of `AudioObjectPropertyAddress` that the entry points read. -/
structure PropertyAddress (Selector : Type u) where
  mSelector : Selector
  mScope : AudioObjectPropertyScope

/-- What an entry point took an address for: a property of the class that many bases up, or a
custom property.
-/
inductive Provider (Selector : Type u) (State : Type v) where
  | builtIn (depth : Nat) (property : Property Selector State)
  | custom (property : CustomProperty State)

section EntryPoints

variable {Selector : Type u} {State : Type v} [DecidableEq Selector]
  (object : PropertyObject Selector State)

/-- The `case` of a switch over the gettable properties of a class. -/
def gettableCase (selector : Selector) (properties : List (Property Selector State))
    : Option (Property Selector State) :=
  properties.find? (fun property => property.isGettable ∧ property.id = selector)

/-- The `case` of a switch over the settable properties of a class. -/
def settableCase (selector : Selector) (properties : List (Property Selector State))
    : Option (Property Selector State) :=
  properties.find? (fun property => property.isSettable ∧ property.id = selector)

/-- An entry point of a class and its bases: a switch over the properties of each class in turn,
entered only for the object's own ID, and the fallback of `Object` in the end.
-/
def dispatch {Reply : Type w} (own : Bool)
    (caseOf : List (Property Selector State) → Option (Property Selector State))
    (answer : Nat → Property Selector State → Reply) (fallback : Reply)
    : Nat → List (List (Property Selector State)) → Reply
  | _, [] => fallback
  | depth, properties :: bases =>
      if own then
        match caseOf properties with
        | some property => answer depth property
        | none => dispatch own caseOf answer fallback (depth + 1) bases
      else dispatch own caseOf answer fallback (depth + 1) bases

/-- What a getter is called with when it does not convert and is not qualified. -/
def PropertyDescription.getterArgument (property : PropertyDescription Selector)
    (address : PropertyAddress Selector)
    : Argument :=
  if property.scopedGetter then .scope address.mScope else .none

-----------------------------------------------------------------------------------------
-- HasProperty
-----------------------------------------------------------------------------------------

structure HasReply (Selector : Type u) (State : Type v) where
  result : Bool
  provider : Option (Provider Selector State) := none

/-- `Object::HasPropertyFallback()`. -/
def hasPropertyFallback (objectID : AudioObjectID) (address : PropertyAddress Selector)
    : HasReply Selector State :=
  if objectID = object.objectID then
    match object.customProps address.mSelector with
    | some property => { result := true, provider := some (.custom property) }
    | none => { result := false }
  else { result := false }

/-- `HasProperty()`. -/
def hasProperty (objectID : AudioObjectID) (address : Option (PropertyAddress Selector))
    : HasReply Selector State :=
  match address with
  | none => { result := false }
  | some address =>
      dispatch (objectID = object.objectID) (gettableCase address.mSelector)
        (fun depth property => {
          result := property.allowedScopes = [] ∨ address.mScope ∈ property.allowedScopes
          provider := some (.builtIn depth property)
        })
        (hasPropertyFallback object objectID address) 0 object.classes

-----------------------------------------------------------------------------------------
-- IsPropertySettable
-----------------------------------------------------------------------------------------

/-- `outIsSettable` is what is stored there, if anything. -/
structure SettableReply (Selector : Type u) (State : Type v) where
  status : OSStatus := .kAudioHardwareNoError
  outIsSettable : Option Bool := none
  provider : Option (Provider Selector State) := none

/-- `Object::IsPropertySettableFallback()`. `hasOut` tells whether `outIsSettable` is not null. -/
def isPropertySettableFallback (objectID : AudioObjectID) (address : PropertyAddress Selector)
    (hasOut : Bool)
    : SettableReply Selector State :=
  if objectID = object.objectID then
    match object.customProps address.mSelector with
    | none => { status := .kAudioHardwareUnknownPropertyError }
    | some property => {
        outIsSettable := if hasOut then some property.setter.isSome else none
        provider := some (.custom property)
      }
  else { status := .kAudioHardwareBadObjectError }

/-- `IsPropertySettable()`. -/
def isPropertySettable (objectID : AudioObjectID) (address : Option (PropertyAddress Selector))
    (hasOut : Bool)
    : SettableReply Selector State :=
  match address with
  | none => { status := .kAudioHardwareIllegalOperationError }
  | some address =>
      dispatch (objectID = object.objectID) (gettableCase address.mSelector)
        (fun depth property => {
          outIsSettable := if hasOut then some property.isSettable else none
          provider := some (.builtIn depth property)
        })
        (isPropertySettableFallback object objectID address hasOut) 0 object.classes

-----------------------------------------------------------------------------------------
-- GetPropertyDataSize
-----------------------------------------------------------------------------------------

/-- `outDataSize` is what is stored there, if anything. -/
structure SizeReply (Selector : Type u) (State : Type v) where
  status : OSStatus := .kAudioHardwareNoError
  outDataSize : Option UInt32 := none
  provider : Option (Provider Selector State) := none

/-- `Object::GetPropertyDataSizeFallback()`. -/
def getPropertyDataSizeFallback (objectID : AudioObjectID) (address : PropertyAddress Selector)
    (hasOutDataSize : Bool)
    : SizeReply Selector State :=
  if objectID = object.objectID then
    match object.customProps address.mSelector with
    | none => { status := .kAudioHardwareUnknownPropertyError }
    | some property => {
        outDataSize := if hasOutDataSize then some (UInt32.ofNat property.size) else none
        provider := some (.custom property)
      }
  else { status := .kAudioHardwareBadObjectError }

/-- The size of a property: that of all elements of an array, or that of its type. -/
def Property.dataSize (property : Property Selector State) (state : State)
    (address : PropertyAddress Selector)
    : UInt32 :=
  if property.isArray then
    let values := property.getValues state (property.getterArgument address)
    UInt32.ofNat (values.length * property.size)
  else UInt32.ofNat property.size

/-- `GetPropertyDataSize()`. The qualifier is only traced. -/
def getPropertyDataSize (state : State) (objectID : AudioObjectID)
    (address : Option (PropertyAddress Selector)) (hasOutDataSize : Bool)
    : SizeReply Selector State :=
  match address with
  | none => { status := .kAudioHardwareIllegalOperationError }
  | some address =>
      dispatch (objectID = object.objectID) (gettableCase address.mSelector)
        (fun depth property => {
          outDataSize := if hasOutDataSize then some (property.dataSize state address) else none
          provider := some (.builtIn depth property)
        })
        (getPropertyDataSizeFallback object objectID address hasOutDataSize) 0 object.classes

-----------------------------------------------------------------------------------------
-- GetPropertyData
-----------------------------------------------------------------------------------------

/-- The arguments of `GetPropertyData()` after the address. `outData` is the memory there before
the call, unless it is null.
-/
structure DataQuery where
  qualifierDataSize : UInt32
  qualifierData : List UInt8
  inDataSize : UInt32
  hasOutDataSize : Bool
  outData : Option (List UInt8)

/-- What is stored in `outDataSize`, if anything, and each store to `outData` with its offset. -/
structure DataReply (Selector : Type u) (State : Type v) where
  status : OSStatus := .kAudioHardwareNoError
  outDataSize : Option UInt32 := none
  outData : List (Nat × List UInt8) := []
  provider : Option (Provider Selector State) := none

/-- A stored size, if there is a place for it. -/
def DataQuery.storeSize (query : DataQuery) (size : Nat) : Option UInt32 :=
  if query.hasOutDataSize then some (UInt32.ofNat size) else none

/-- The values stored one after the other from the start of the buffer, unless it is null. -/
def DataQuery.storeValues (query : DataQuery) {size : Nat} (values : List (FoundationValue size))
    : List (Nat × List UInt8) :=
  match query.outData with
  | none => []
  | some _ => values.zipIdx.map (fun (value, index) => (index * size, value.bytes))

/-- `Object::GetPropertyDataFallback()`. -/
def getPropertyDataFallback (state : State) (objectID : AudioObjectID)
    (address : PropertyAddress Selector) (query : DataQuery)
    : DataReply Selector State :=
  if objectID = object.objectID then
    match object.customProps address.mSelector with
    | none => { status := .kAudioHardwareUnknownPropertyError }
    | some property =>
        let provider := some (.custom property)
        match property.getter with
        | none => { status := .kAudioHardwareUnknownPropertyError, provider }
        | some getter =>
            if query.inDataSize.toNat < property.size then
              { status := .kAudioHardwareBadPropertySizeError, provider }
            else {
              outDataSize := query.storeSize property.size
              outData := query.storeValues [getter state]
              provider
            }
  else { status := .kAudioHardwareBadObjectError }

/-- The first values of an array are returned. -/
def DataQuery.returnValues (query : DataQuery) {size : Nat} (values : List (FoundationValue size))
    (valuesCount : Nat) (provider : Option (Provider Selector State))
    : DataReply Selector State where
  outDataSize := query.storeSize (valuesCount * size)
  outData := query.storeValues (values.take valuesCount)
  provider := provider

/-- The case of an array in `GetPropertyData()`. -/
def Property.getArray (property : Property Selector State) (state : State)
    (address : PropertyAddress Selector) (query : DataQuery)
    (provider : Option (Provider Selector State))
    : DataReply Selector State :=
  let values := property.getValues state (property.getterArgument address)
  if property.isTruncatable then
    let valuesCount := min (query.inDataSize.toNat / property.size) values.length
    query.returnValues values valuesCount provider
  else
    let valuesCount := values.length
    if query.inDataSize.toNat < valuesCount * property.size then
      { status := .kAudioHardwareBadPropertySizeError, provider }
    else query.returnValues values valuesCount provider

/-- The case of a property that is not an array in `GetPropertyData()`. -/
def Property.getScalar (property : Property Selector State) (state : State)
    (address : PropertyAddress Selector) (query : DataQuery)
    (provider : Option (Provider Selector State))
    : DataReply Selector State :=
  if query.inDataSize.toNat < property.size then
    { status := .kAudioHardwareBadPropertySizeError, provider }
  else
    let outDataSize := query.storeSize property.size
    match query.outData with
    | none => { outDataSize, provider }
    | some memory =>
        if property.isConverter then
          let input := (FoundationValue.read property.size memory 0).bytes
          let value := property.getValue state (.input input)
          { outDataSize, outData := query.storeValues [value], provider }
        else if property.isQualified then
          if query.qualifierDataSize.toNat ≠ property.qualifierSize then
            { status := .kAudioHardwareBadPropertySizeError, outDataSize, provider }
          else
            let qualifier :=
              (FoundationValue.read property.qualifierSize query.qualifierData 0).bytes
            let value := property.getValue state (.qualifier qualifier)
            { outDataSize, outData := query.storeValues [value], provider }
        else
          let value := property.getValue state (property.getterArgument address)
          { outDataSize, outData := query.storeValues [value], provider }

/-- The case of a property in `GetPropertyData()`. -/
def Property.getData (property : Property Selector State) (state : State)
    (address : PropertyAddress Selector) (query : DataQuery)
    (provider : Option (Provider Selector State))
    : DataReply Selector State :=
  if property.isArray then property.getArray state address query provider
  else property.getScalar state address query provider

/-- `GetPropertyData()`. -/
def getPropertyData (state : State) (objectID : AudioObjectID)
    (address : Option (PropertyAddress Selector)) (query : DataQuery)
    : DataReply Selector State :=
  match address with
  | none => { status := .kAudioHardwareIllegalOperationError }
  | some address =>
      dispatch (objectID = object.objectID) (gettableCase address.mSelector)
        (fun depth property =>
          property.getData state address query (some (.builtIn depth property)))
        (getPropertyDataFallback object state objectID address query) 0 object.classes

-----------------------------------------------------------------------------------------
-- SetPropertyData
-----------------------------------------------------------------------------------------

/-- The state after the call, and whether a setter was called. -/
structure SetReply (Selector : Type u) (State : Type v) where
  status : OSStatus := .kAudioHardwareNoError
  state : State
  invoked : Bool := false
  provider : Option (Provider Selector State) := none

/-- `Object::SetPropertyDataFallback()`. `inData` is the memory there, unless it is null. -/
def setPropertyDataFallback (state : State) (objectID : AudioObjectID)
    (address : PropertyAddress Selector) (inDataSize : UInt32) (inData : Option (List UInt8))
    : SetReply Selector State :=
  if objectID = object.objectID then
    match object.customProps address.mSelector with
    | none => { status := .kAudioHardwareUnknownPropertyError, state }
    | some property =>
        let provider := some (.custom property)
        match property.setter with
        | none => { status := .kAudioHardwareUnknownPropertyError, state, provider }
        | some setter =>
            if inDataSize.toNat ≠ property.size then
              { status := .kAudioHardwareBadPropertySizeError, state, provider }
            else match inData with
              | none => { status := .kAudioHardwareIllegalOperationError, state, provider }
              | some memory => {
                  state := setter state (FoundationValue.read _ memory 0)
                  invoked := true
                  provider
                }
  else { status := .kAudioHardwareBadObjectError, state }

/-- The case of an array in `SetPropertyData()`. -/
def Property.setArray (property : Property Selector State) (state : State) (inDataSize : UInt32)
    (inData : Option (List UInt8)) (provider : Option (Provider Selector State))
    : SetReply Selector State :=
  if inDataSize.toNat % property.size ≠ 0 then
    { status := .kAudioHardwareBadPropertySizeError, state, provider }
  else if inDataSize ≠ 0 ∧ inData.isNone then
    { status := .kAudioHardwareIllegalOperationError, state, provider }
  else
    let valuesCount := inDataSize.toNat / property.size
    let values := (List.range valuesCount).map
      (fun index => FoundationValue.read property.size (inData.getD []) (index * property.size))
    let result := property.setValues state values
    { status := result.2, state := result.1, invoked := true, provider }

/-- The case of a property that is not an array in `SetPropertyData()`. -/
def Property.setScalar (property : Property Selector State) (state : State) (inDataSize : UInt32)
    (inData : Option (List UInt8)) (provider : Option (Provider Selector State))
    : SetReply Selector State :=
  if inDataSize.toNat ≠ property.size then
    { status := .kAudioHardwareBadPropertySizeError, state, provider }
  else
    match inData with
    | none => { status := .kAudioHardwareIllegalOperationError, state, provider }
    | some memory =>
        let result := property.setValues state [FoundationValue.read property.size memory 0]
        { status := result.2, state := result.1, invoked := true, provider }

/-- The case of a property in `SetPropertyData()`. -/
def Property.setData (property : Property Selector State) (state : State) (inDataSize : UInt32)
    (inData : Option (List UInt8)) (provider : Option (Provider Selector State))
    : SetReply Selector State :=
  if property.isArray then property.setArray state inDataSize inData provider
  else property.setScalar state inDataSize inData provider

/-- `SetPropertyData()`. The qualifier is only traced. -/
def setPropertyData (state : State) (objectID : AudioObjectID)
    (address : Option (PropertyAddress Selector)) (inDataSize : UInt32)
    (inData : Option (List UInt8))
    : SetReply Selector State :=
  match address with
  | none => { status := .kAudioHardwareIllegalOperationError, state }
  | some address =>
      dispatch (objectID = object.objectID) (settableCase address.mSelector)
        (fun depth property =>
          property.setData state inDataSize inData (some (.builtIn depth property)))
        (setPropertyDataFallback object state objectID address inDataSize inData) 0 object.classes

end EntryPoints

end Aspl.Object
