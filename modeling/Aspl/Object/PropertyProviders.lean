import Mathlib.Data.List.Nodup
import Aspl.Object.AccessorTables

/-! The five property entry points take an address for the same property, except where a scope is
not allowed or a custom property has the selector of a read-only one.
-/

namespace Aspl.Object

open CoreAudio

universe u v w

variable {Selector : Type u} {State : Type v} [DecidableEq Selector]
  {object : PropertyObject Selector State} {state : State} {address : PropertyAddress Selector}

/-- The first class with a case, counting from `depth`, and its case. -/
def firstCase (caseOf : List (Property Selector State) → Option (Property Selector State))
    : Nat → List (List (Property Selector State)) → Option (Nat × Property Selector State)
  | _, [] => none
  | depth, properties :: bases =>
      match caseOf properties with
      | some property => some (depth, property)
      | none => firstCase caseOf (depth + 1) bases

/-- The gettable property that a selector names in a class and its bases. -/
def PropertyObject.gettable (object : PropertyObject Selector State) (selector : Selector)
    : Option (Nat × Property Selector State) :=
  firstCase (gettableCase selector) 0 object.classes

/-- The settable property that a selector names in a class and its bases. -/
def PropertyObject.settable (object : PropertyObject Selector State) (selector : Selector)
    : Option (Nat × Property Selector State) :=
  firstCase (settableCase selector) 0 object.classes

/-- What an entry point takes a selector for: the built-in property that its switches find, or
else the custom one.
-/
def PropertyObject.provider (object : PropertyObject Selector State) (selector : Selector)
    (found : Option (Nat × Property Selector State))
    : Option (Provider Selector State) :=
  match found with
  | some (depth, property) => some (.builtIn depth property)
  | none => (object.customProps selector).map .custom

/-- The arguments of `GetPropertyData()` are valid for an address: the buffer has the reported
size, and the qualifier has the size of its type.
-/
structure DataQuery.Valid (query : DataQuery) (reported : SizeReply Selector State) : Prop where
  bigEnough : ∀ size, reported.outDataSize = some size → size ≤ query.inDataSize
  qualified
    : ∀ depth property,
        reported.provider = some (.builtIn depth property)
        → property.isQualified = true
        → query.qualifierDataSize.toNat = property.qualifierSize

/-- Neither `GetPropertyDataSize()` nor `GetPropertyData()` with valid arguments answers that a
property is unknown.
-/
def KnownToGetters (object : PropertyObject Selector State) (state : State)
    (address : PropertyAddress Selector)
    : Prop :=
  (getPropertyDataSize object state object.objectID (some address) true).status
    ≠ .kAudioHardwareUnknownPropertyError
  ∧ ∀ query : DataQuery,
      query.Valid (getPropertyDataSize object state object.objectID (some address) true)
      → (getPropertyData object state object.objectID (some address) query).status
        ≠ .kAudioHardwareUnknownPropertyError

/-- The five entry points agree about an address. -/
structure EntryPointsAgree (object : PropertyObject Selector State) (state : State)
    (address : PropertyAddress Selector)
    : Prop where
  has
    : (hasProperty object object.objectID (some address)).result = true
      ↔ KnownToGetters object state address
  settable
    : ∀ inDataSize inData,
        (setPropertyData object state object.objectID (some address) inDataSize inData).invoked
          = true
        → (isPropertySettable object object.objectID (some address) true).outIsSettable
          = some true
  getterProvider
    : ∀ query,
        (getPropertyData object state object.objectID (some address) query).provider
        = (getPropertyDataSize object state object.objectID (some address) true).provider
  settableProvider
    : (isPropertySettable object object.objectID (some address) true).provider
      = (getPropertyDataSize object state object.objectID (some address) true).provider
  setterProvider
    : ∀ inDataSize inData provider,
        (setPropertyData object state object.objectID (some address) inDataSize inData).provider
          = some provider
        → (getPropertyDataSize object state object.objectID (some address) true).provider
          = some provider

/-- The built-in property that the getters find allows the scope, and the setter finds it as well
or finds nothing, neither among the built-in properties nor among the custom ones. Where the
getters find no built-in property the setter finds none.
-/
def Unambiguous (object : PropertyObject Selector State) (address : PropertyAddress Selector)
    : Prop :=
  match object.gettable address.mSelector with
  | some found =>
      (found.2.allowedScopes = [] ∨ address.mScope ∈ found.2.allowedScopes)
      ∧ (object.settable address.mSelector = some found
        ∨ (object.settable address.mSelector = none
          ∧ (object.customProps address.mSelector).isNone))
  | none => object.settable address.mSelector = none

-----------------------------------------------------------------------------------------
-- What each entry point finds
-----------------------------------------------------------------------------------------

omit [DecidableEq Selector] in
/-- With the object's own ID the first class with a case answers, by induction on the classes. -/
theorem dispatch_own {Reply : Type w}
    (caseOf : List (Property Selector State) → Option (Property Selector State))
    (answer : Nat → Property Selector State → Reply) (fallback : Reply) (depth : Nat)
    (classes : List (List (Property Selector State)))
    : dispatch true caseOf answer fallback depth classes
      = match firstCase caseOf depth classes with
        | some (depth, property) => answer depth property
        | none => fallback := by
  induction classes generalizing depth with
  | nil => rfl
  | cons properties bases ih =>
      rw [dispatch, if_pos rfl, firstCase]
      cases caseOf properties with
      | some property => rfl
      | none => exact ih (depth + 1)

theorem gettableCase_some {selector : Selector} {properties : List (Property Selector State)}
    {property : Property Selector State}
    (found : gettableCase selector properties = some property)
    : property ∈ properties ∧ property.isGettable = true ∧ property.id = selector :=
  ⟨List.mem_of_find?_eq_some found, by simpa using List.find?_some found⟩

theorem settableCase_some {selector : Selector} {properties : List (Property Selector State)}
    {property : Property Selector State}
    (found : settableCase selector properties = some property)
    : property ∈ properties ∧ property.isSettable = true ∧ property.id = selector :=
  ⟨List.mem_of_find?_eq_some found, by simpa using List.find?_some found⟩

/-- A property that the switch of the setter finds is settable, by induction on the classes. -/
theorem isSettable_of_firstCase {selector : Selector} {depth : Nat}
    {classes : List (List (Property Selector State))} {found : Nat × Property Selector State}
    (settable : firstCase (settableCase selector) depth classes = some found)
    : found.2.isSettable = true := by
  induction classes generalizing depth with
  | nil => cases settable
  | cons properties bases ih =>
      rw [firstCase] at settable
      cases here : settableCase selector properties with
      | some property =>
          rw [here] at settable
          obtain rfl := Option.some.inj settable
          exact (settableCase_some here).2.1
      | none =>
          rw [here] at settable
          exact ih settable

theorem hasProperty_own
    : hasProperty object object.objectID (some address)
      = match object.gettable address.mSelector with
        | some (depth, property) => {
            result := property.allowedScopes = [] ∨ address.mScope ∈ property.allowedScopes
            provider := some (.builtIn depth property)
          }
        | none => hasPropertyFallback object object.objectID address := by
  rw [hasProperty, decide_eq_true rfl, dispatch_own, PropertyObject.gettable]

theorem isPropertySettable_own (hasOut : Bool)
    : isPropertySettable object object.objectID (some address) hasOut
      = match object.gettable address.mSelector with
        | some (depth, property) => {
            outIsSettable := if hasOut then some property.isSettable else none
            provider := some (.builtIn depth property)
          }
        | none => isPropertySettableFallback object object.objectID address hasOut := by
  rw [isPropertySettable, decide_eq_true rfl, dispatch_own, PropertyObject.gettable]

theorem getPropertyDataSize_own (hasOutDataSize : Bool)
    : getPropertyDataSize object state object.objectID (some address) hasOutDataSize
      = match object.gettable address.mSelector with
        | some (depth, property) => {
            outDataSize := if hasOutDataSize then some (property.dataSize state address) else none
            provider := some (.builtIn depth property)
          }
        | none => getPropertyDataSizeFallback object object.objectID address hasOutDataSize := by
  rw [getPropertyDataSize, decide_eq_true rfl, dispatch_own, PropertyObject.gettable]

theorem getPropertyData_own (query : DataQuery)
    : getPropertyData object state object.objectID (some address) query
      = match object.gettable address.mSelector with
        | some (depth, property) =>
            property.getData state address query (some (.builtIn depth property))
        | none => getPropertyDataFallback object state object.objectID address query := by
  rw [getPropertyData, decide_eq_true rfl, dispatch_own, PropertyObject.gettable]

theorem setPropertyData_own (inDataSize : UInt32) (inData : Option (List UInt8))
    : setPropertyData object state object.objectID (some address) inDataSize inData
      = match object.settable address.mSelector with
        | some (depth, property) =>
            property.setData state inDataSize inData (some (.builtIn depth property))
        | none =>
            setPropertyDataFallback object state object.objectID address inDataSize inData := by
  rw [setPropertyData, decide_eq_true rfl, dispatch_own, PropertyObject.settable]

omit [DecidableEq Selector] in
/-- A built-in property is never unknown to `GetPropertyData()`. -/
theorem Property.getData_known (property : Property Selector State) (query : DataQuery)
    (provider : Option (Provider Selector State))
    : (property.getData state address query provider).status
        ≠ .kAudioHardwareUnknownPropertyError
      ∧ (property.getData state address query provider).provider = provider := by
  unfold Property.getData Property.getArray Property.getScalar
  dsimp only
  repeat' split
  all_goals exact ⟨by simp [DataQuery.returnValues], rfl⟩

omit [DecidableEq Selector] in
theorem Property.setData_provider (property : Property Selector State) (inDataSize : UInt32)
    (inData : Option (List UInt8)) (provider : Option (Provider Selector State))
    : (property.setData state inDataSize inData provider).provider = provider := by
  unfold Property.setData Property.setArray Property.setScalar
  repeat' split
  all_goals rfl

omit [DecidableEq Selector] in
/-- The fallbacks for a custom property with a getter. -/
theorem getPropertyDataFallback_custom {property : CustomProperty State}
    (found : object.customProps address.mSelector = some property)
    (hasGetter : property.getter.isSome = true) (query : DataQuery)
    : (getPropertyDataFallback object state object.objectID address query).status
        ≠ .kAudioHardwareUnknownPropertyError
      ∧ (getPropertyDataFallback object state object.objectID address query).provider
        = some (.custom property) := by
  obtain ⟨getter, isGetter⟩ := Option.isSome_iff_exists.mp hasGetter
  simp only [getPropertyDataFallback, if_true, found, isGetter]
  split
  all_goals exact ⟨by simp, rfl⟩

omit [DecidableEq Selector] in
theorem setPropertyDataFallback_provider (inDataSize : UInt32) (inData : Option (List UInt8))
    : (setPropertyDataFallback object state object.objectID address inDataSize inData).provider
      = (object.customProps address.mSelector).map .custom := by
  rw [setPropertyDataFallback, if_pos rfl]
  repeat' split
  all_goals simp [*]

omit [DecidableEq Selector] in
/-- A custom property's setter is invoked only if there is one. -/
theorem setPropertyDataFallback_invoked {inDataSize : UInt32} {inData : Option (List UInt8)}
    (invoked
      : (setPropertyDataFallback object state object.objectID address inDataSize inData).invoked
        = true)
    : ∃ property,
        object.customProps address.mSelector = some property ∧ property.setter.isSome = true := by
  rw [setPropertyDataFallback, if_pos rfl] at invoked
  cases found : object.customProps address.mSelector with
  | none => simp [found] at invoked
  | some property =>
      cases hasSetter : property.setter with
      | none => simp [found, hasSetter] at invoked
      | some setter => exact ⟨property, rfl, by simp [hasSetter]⟩

theorem getPropertyDataSize_provider
    : (getPropertyDataSize object state object.objectID (some address) true).provider
      = object.provider address.mSelector (object.gettable address.mSelector) := by
  rw [getPropertyDataSize_own]
  cases object.gettable address.mSelector with
  | some found => rfl
  | none =>
      rw [getPropertyDataSizeFallback, if_pos rfl]
      cases found : object.customProps address.mSelector with
      | none => simp [PropertyObject.provider, found]
      | some property => simp [PropertyObject.provider, found]

theorem isPropertySettable_provider
    : (isPropertySettable object object.objectID (some address) true).provider
      = object.provider address.mSelector (object.gettable address.mSelector) := by
  rw [isPropertySettable_own]
  cases object.gettable address.mSelector with
  | some found => rfl
  | none =>
      rw [isPropertySettableFallback, if_pos rfl]
      cases found : object.customProps address.mSelector with
      | none => simp [PropertyObject.provider, found]
      | some property => simp [PropertyObject.provider, found]

/-- The getter of a custom property is there. -/
theorem getPropertyData_provider
    (getters : ∀ selector property, object.customProps selector = some property
      → property.getter.isSome = true) (query : DataQuery)
    : (getPropertyData object state object.objectID (some address) query).provider
      = object.provider address.mSelector (object.gettable address.mSelector) := by
  rw [getPropertyData_own]
  cases object.gettable address.mSelector with
  | some found => exact (Property.getData_known ..).2
  | none =>
      cases found : object.customProps address.mSelector with
      | none => simp [getPropertyDataFallback, PropertyObject.provider, found]
      | some property =>
          rw [PropertyObject.provider, found]
          exact (getPropertyDataFallback_custom found (getters _ property found) query).2

theorem setPropertyData_provider (inDataSize : UInt32) (inData : Option (List UInt8))
    : (setPropertyData object state object.objectID (some address) inDataSize inData).provider
      = object.provider address.mSelector (object.settable address.mSelector) := by
  rw [setPropertyData_own]
  cases object.settable address.mSelector with
  | some found => exact Property.setData_provider ..
  | none => exact setPropertyDataFallback_provider ..

-----------------------------------------------------------------------------------------
-- Where they agree
-----------------------------------------------------------------------------------------

/-- Where the getters find no built-in property, they and `HasProperty()` agree on the custom
one.
-/
theorem has_iff_of_custom (notGettable : object.gettable address.mSelector = none)
    (getters : ∀ selector property, object.customProps selector = some property
      → property.getter.isSome = true)
    : (hasProperty object object.objectID (some address)).result = true
      ↔ KnownToGetters object state address := by
  simp only [KnownToGetters, hasProperty_own, getPropertyDataSize_own, getPropertyData_own,
    notGettable]
  cases found : object.customProps address.mSelector with
  | none => simp [hasPropertyFallback, getPropertyDataSizeFallback, found]
  | some property =>
      have known : ∀ query : DataQuery,
          (getPropertyDataFallback object state object.objectID address query).status
            ≠ .kAudioHardwareUnknownPropertyError :=
        fun query => (getPropertyDataFallback_custom found (getters _ property found) query).1
      simp [hasPropertyFallback, getPropertyDataSizeFallback, found, known]

/-- Where the getters find a built-in property, `HasProperty()` answers by its scopes and the
getters know it in every scope.
-/
theorem has_iff_of_builtIn {found : Nat × Property Selector State}
    (gettable : object.gettable address.mSelector = some found)
    : ((hasProperty object object.objectID (some address)).result = true
        ↔ KnownToGetters object state address)
      ↔ (found.2.allowedScopes = [] ∨ address.mScope ∈ found.2.allowedScopes) := by
  have known : ∀ query : DataQuery,
      (found.2.getData state address query (some (.builtIn found.1 found.2))).status
        ≠ .kAudioHardwareUnknownPropertyError :=
    fun query => (Property.getData_known found.2 query _).1
  simp [KnownToGetters, hasProperty_own, getPropertyDataSize_own, getPropertyData_own, gettable,
    known]

/-- `IsPropertySettable()` reports what the property that the getters find says. -/
theorem isPropertySettable_outIsSettable
    : (isPropertySettable object object.objectID (some address) true).outIsSettable
      = match object.gettable address.mSelector with
        | some (_, property) => some property.isSettable
        | none => (object.customProps address.mSelector).map (·.setter.isSome) := by
  rw [isPropertySettable_own]
  cases object.gettable address.mSelector with
  | some found => rfl
  | none =>
      rw [isPropertySettableFallback, if_pos rfl]
      cases found : object.customProps address.mSelector with
      | none => simp
      | some property => simp

/-- The setter calls nothing that the getters do not report settable, where it finds the property
that they find, or neither finds a built-in property.
-/
theorem settable_of_invoked
    (same : object.settable address.mSelector = object.gettable address.mSelector
      ∨ (object.settable address.mSelector = none
        ∧ object.customProps address.mSelector = none))
    {inDataSize : UInt32} {inData : Option (List UInt8)}
    (invoked
      : (setPropertyData object state object.objectID (some address) inDataSize inData).invoked
        = true)
    : (isPropertySettable object object.objectID (some address) true).outIsSettable
      = some true := by
  rw [setPropertyData_own] at invoked
  rw [isPropertySettable_outIsSettable]
  cases settable : object.settable address.mSelector with
  | some found =>
      rcases same with same | same
      · rw [← same, settable]
        exact congrArg some (isSettable_of_firstCase settable)
      · rw [same.1] at settable
        cases settable
  | none =>
      rw [settable] at invoked
      obtain ⟨property, custom, hasSetter⟩ := setPropertyDataFallback_invoked invoked
      rcases same with same | same
      · rw [← same, settable]
        simp [custom, hasSetter]
      · rw [same.2] at custom
        cases custom

/-- Where the entry points agree, the setter leads to no other property than the getters. -/
theorem unambiguous_of_entryPointsAgree (agree : EntryPointsAgree object state address)
    : Unambiguous object address := by
  have setter := fun provider => agree.setterProvider 0 none provider
  simp only [setPropertyData_provider, getPropertyDataSize_provider] at setter
  unfold Unambiguous
  cases gettable : object.gettable address.mSelector with
  | some found =>
      refine ⟨(has_iff_of_builtIn gettable).mp agree.has, ?_⟩
      rw [gettable] at setter
      cases settable : object.settable address.mSelector with
      | some settableFound =>
          have same := setter _ (by rw [settable]; rfl)
          simp only [PropertyObject.provider, Option.some.injEq, Provider.builtIn.injEq] at same
          exact Or.inl (congrArg some (Prod.ext same.1 same.2).symm)
      | none =>
          refine Or.inr ⟨rfl, ?_⟩
          cases custom : object.customProps address.mSelector with
          | none => rfl
          | some property =>
              have same := setter (.custom property)
                (by simp [settable, PropertyObject.provider, custom])
              simp [PropertyObject.provider] at same
  | none =>
      cases settable : object.settable address.mSelector with
      | none => rfl
      | some settableFound =>
          have same := setter _ (by rw [settable]; rfl)
          cases custom : object.customProps address.mSelector with
          | none => simp [gettable, PropertyObject.provider, custom] at same
          | some property => simp [gettable, PropertyObject.provider, custom] at same

/-- In an unambiguous address the setter finds what the getters find, or nothing at all. -/
theorem Unambiguous.same (unambiguous : Unambiguous object address)
    : object.settable address.mSelector = object.gettable address.mSelector
      ∨ (object.settable address.mSelector = none
        ∧ object.customProps address.mSelector = none) := by
  unfold Unambiguous at unambiguous
  cases gettable : object.gettable address.mSelector with
  | some found =>
      rw [gettable] at unambiguous
      rcases unambiguous.2 with same | ⟨notSettable, notCustom⟩
      · exact Or.inl same
      · exact Or.inr ⟨notSettable, Option.isNone_iff_eq_none.mp notCustom⟩
  | none =>
      rw [gettable] at unambiguous
      exact Or.inl unambiguous

theorem entryPointsAgree_of_unambiguous
    (getters : ∀ selector property, object.customProps selector = some property
      → property.getter.isSome = true)
    (unambiguous : Unambiguous object address)
    : EntryPointsAgree object state address where
  has := by
    cases gettable : object.gettable address.mSelector with
    | some found =>
        unfold Unambiguous at unambiguous
        rw [gettable] at unambiguous
        exact (has_iff_of_builtIn gettable).mpr unambiguous.1
    | none => exact has_iff_of_custom gettable getters
  settable := fun _ _ invoked => settable_of_invoked unambiguous.same invoked
  getterProvider := fun query => by
    rw [getPropertyData_provider getters, getPropertyDataSize_provider]
  settableProvider := by rw [isPropertySettable_provider, getPropertyDataSize_provider]
  setterProvider := by
    intro inDataSize inData provider isProvider
    rw [setPropertyData_provider] at isProvider
    rw [getPropertyDataSize_provider, ← isProvider]
    rcases unambiguous.same with same | ⟨notSettable, notCustom⟩
    · rw [same]
    · simp [notSettable, PropertyObject.provider, notCustom] at isProvider

-----------------------------------------------------------------------------------------
-- Classes as they are described
-----------------------------------------------------------------------------------------

/-- What the JSON files say about the class of an object and its bases. -/
def PropertyObject.descriptions (object : PropertyObject Selector State)
    : List (List (PropertyDescription Selector)) :=
  object.classes.map (List.map Property.toPropertyDescription)

theorem settableCase_none {selector : Selector} {properties : List (Property Selector State)}
    (other : ∀ property ∈ properties, property.id ≠ selector)
    : settableCase selector properties = none := by
  refine List.find?_eq_none.mpr (fun property member => ?_)
  simp [other property member]

theorem firstCase_settable_none {selector : Selector} {depth : Nat}
    {classes : List (List (Property Selector State))}
    (other : ∀ property ∈ classes.flatten, property.id ≠ selector)
    : firstCase (settableCase selector) depth classes = none := by
  induction classes generalizing depth with
  | nil => rfl
  | cons properties bases ih =>
      have here := settableCase_none (fun property member =>
        other property (List.mem_append_left bases.flatten member))
      rw [firstCase, here]
      exact ih (fun property member => other property (List.mem_append_right properties member))

/-- Where a selector names one property and what can be set can be got, the setter finds what the
getters find or nothing, by induction on the classes.
-/
theorem firstCase_settable {selector : Selector} {depth : Nat}
    {classes : List (List (Property Selector State))}
    (distinct : (classes.flatten.map (·.id)).Nodup)
    (gettable : ∀ property ∈ classes.flatten, property.isSettable → property.isGettable)
    : firstCase (settableCase selector) depth classes
        = firstCase (gettableCase selector) depth classes
      ∨ firstCase (settableCase selector) depth classes = none := by
  induction classes generalizing depth with
  | nil => exact Or.inl rfl
  | cons properties bases ih =>
      rw [List.flatten_cons, List.map_append] at distinct
      obtain ⟨distinctHere, distinctBases, disjoint⟩ := List.nodup_append.mp distinct
      rw [firstCase, firstCase]
      cases got : gettableCase selector properties with
      | some property =>
          obtain ⟨member, -, named⟩ := gettableCase_some got
          cases set : settableCase selector properties with
          | some settable =>
              obtain ⟨settableMember, -, settableNamed⟩ := settableCase_some set
              have same := List.inj_on_of_nodup_map distinctHere settableMember member
                (settableNamed.trans named.symm)
              exact Or.inl (by rw [same])
          | none =>
              refine Or.inr (firstCase_settable_none (fun other inBases sameSelector => ?_))
              exact disjoint _ (List.mem_map_of_mem member) _ (List.mem_map_of_mem inBases)
                (named.trans sameSelector.symm)
      | none =>
          have notSet : settableCase selector properties = none := by
            refine List.find?_eq_none.mpr (fun property member isSet => ?_)
            have isSet := of_decide_eq_true isSet
            have isGot := gettable property (List.mem_append_left _ member) isSet.1
            exact List.find?_eq_none.mp got property member (decide_eq_true ⟨isGot, isSet.2⟩)
          rw [notSet]
          exact ih distinctBases
            (fun property member => gettable property (List.mem_append_right _ member))

/-- A built-in property that the getters find is one of the class or of a base. -/
theorem mem_of_firstCase_gettable {selector : Selector} {depth : Nat}
    {classes : List (List (Property Selector State))} {found : Nat × Property Selector State}
    (gettable : firstCase (gettableCase selector) depth classes = some found)
    : found.2 ∈ classes.flatten ∧ found.2.id = selector := by
  induction classes generalizing depth with
  | nil => cases gettable
  | cons properties bases ih =>
      rw [firstCase] at gettable
      cases got : gettableCase selector properties with
      | some property =>
          rw [got] at gettable
          obtain rfl := Option.some.inj gettable
          obtain ⟨member, -, named⟩ := gettableCase_some got
          exact ⟨List.mem_append_left _ member, named⟩
      | none =>
          rw [got] at gettable
          obtain ⟨member, named⟩ := ih gettable
          exact ⟨List.mem_append_right _ member, named⟩

/-- In well described classes the entry points agree wherever the scope is allowed and no custom
property has the selector of a built-in one.
-/
theorem entryPointsAgree_of_wellDescribed (described : WellDescribed object.descriptions)
    (getters : ∀ selector property, object.customProps selector = some property
      → property.getter.isSome = true)
    (free
      : ∀ property ∈ object.classes.flatten, property.id = address.mSelector
        → (property.allowedScopes = [] ∨ address.mScope ∈ property.allowedScopes)
          ∧ object.customProps address.mSelector = none)
    : EntryPointsAgree object state address := by
  have flat : object.descriptions.flatten
      = object.classes.flatten.map Property.toPropertyDescription := List.map_flatten.symm
  have distinct := described.distinct
  have gettable := described.gettable
  rw [flat, List.map_map] at distinct
  rw [flat, List.forall_mem_map] at gettable
  have settable
      : object.settable address.mSelector = object.gettable address.mSelector
        ∨ object.settable address.mSelector = none :=
    firstCase_settable distinct gettable
  refine entryPointsAgree_of_unambiguous getters ?_
  unfold Unambiguous
  cases found : object.gettable address.mSelector with
  | some property =>
      obtain ⟨member, named⟩ := mem_of_firstCase_gettable found
      obtain ⟨allowed, notCustom⟩ := free property.2 member named
      rcases settable with same | notSettable
      · exact ⟨allowed, Or.inl (same.trans found)⟩
      · exact ⟨allowed, Or.inr ⟨notSettable, by rw [notCustom]; rfl⟩⟩
  | none =>
      rcases settable with same | notSettable
      · exact same.trans found
      · exact notSettable

/-- So they do for an object of a described class. -/
theorem entryPointsAgree_of_described
    {object : PropertyObject AudioObjectPropertySelector State}
    {address : PropertyAddress AudioObjectPropertySelector}
    (described : object.descriptions ∈ describedClasses)
    (getters : ∀ selector property, object.customProps selector = some property
      → property.getter.isSome = true)
    (free
      : ∀ property ∈ object.classes.flatten, property.id = address.mSelector
        → (property.allowedScopes = [] ∨ address.mScope ∈ property.allowedScopes)
          ∧ object.customProps address.mSelector = none)
    : EntryPointsAgree object state address :=
  entryPointsAgree_of_wellDescribed (describedClasses_wellDescribed _ described) getters free

-----------------------------------------------------------------------------------------
-- The condition is exact
-----------------------------------------------------------------------------------------

/-- The entry points agree about an address exactly where it is unambiguous. -/
theorem entry_points_agree_iff (object : PropertyObject Selector State) (state : State)
    (address : PropertyAddress Selector)
    (getters : ∀ selector property, object.customProps selector = some property
      → property.getter.isSome = true)
    : EntryPointsAgree object state address ↔ Unambiguous object address :=
  ⟨unambiguous_of_entryPointsAgree, entryPointsAgree_of_unambiguous getters⟩

/-- A property whose value is zero, or two zeros, and that ignores what it is set to. -/
def PropertyDescription.zeroed (description : PropertyDescription Selector)
    : Property Selector Unit where
  toPropertyDescription := description
  getValue := fun _ _ => FoundationValue.read description.size [] 0
  getValues := fun _ _ => List.replicate 2 (FoundationValue.read description.size [] 0)
  setValues := fun _ _ => ((), .kAudioHardwareNoError)

/-- A device with zeroed properties and one custom property that can be got and set. -/
def zeroedDevice (selector : AudioObjectPropertySelector)
    : PropertyObject AudioObjectPropertySelector Unit where
  objectID := 2
  classes := [deviceProperties.map (·.zeroed), objectProperties.map (·.zeroed)]
  customProps := fun asked =>
    if asked = selector then
      some {
        getter := some (fun _ => FoundationValue.read referenceSize [] 0)
        setter := some (fun _ _ => ())
      }
    else none

theorem zeroedDevice_getter {selector asked : AudioObjectPropertySelector}
    {property : CustomProperty Unit}
    (registered : (zeroedDevice selector).customProps asked = some property)
    : property.getter.isSome = true := by
  dsimp only [zeroedDevice] at registered
  split at registered
  · rw [← Option.some.inj registered]
    rfl
  · cases registered

/-- On a device with a custom property of its own the entry points agree about the latency of its
outputs.
-/
theorem entry_points_agree_iff_latency
    : EntryPointsAgree (zeroedDevice (.other 1)) ()
        ⟨.kAudioDevicePropertyLatency, kAudioObjectPropertyScopeOutput⟩ := by
  have agree := entry_points_agree_iff (zeroedDevice (.other 1)) ()
    ⟨.kAudioDevicePropertyLatency, kAudioObjectPropertyScopeOutput⟩
    (fun _ _ registered => zeroedDevice_getter registered)
  exact agree.mpr ⟨by decide, Or.inr ⟨rfl, rfl⟩⟩

/-- In the global scope `HasProperty()` alone denies the latency of a device. And a custom
property with the selector of the name, which is read-only, takes what the name is set to.
-/
theorem latency_and_name_disagree
    : (¬ EntryPointsAgree (zeroedDevice (.other 1)) ()
          ⟨.kAudioDevicePropertyLatency, kAudioObjectPropertyScopeGlobal⟩)
      ∧ ¬ EntryPointsAgree (zeroedDevice .kAudioObjectPropertyName) ()
          ⟨.kAudioObjectPropertyName, kAudioObjectPropertyScopeGlobal⟩ := by
  refine ⟨fun agree => ?_, fun agree => ?_⟩
  · have allowed := (unambiguous_of_entryPointsAgree agree).1
    exact absurd allowed (by decide)
  · have set := agree.settable 8 (some (List.replicate 8 0)) (by decide)
    exact absurd set (by decide)

end Aspl.Object
