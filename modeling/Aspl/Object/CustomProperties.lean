import Aspl.Base.CriticalSection
import Aspl.DoubleBuffer.Updates
import Aspl.Base.OrderedMap
import Aspl.Object.PropertyProviders

/-! Custom properties of an object: `RegisterCustomProperty()` on any number of threads, one access
to the map a step, while HAL asks the object for properties. No registration is lost, and HAL finds
a property exactly if the object lists it.
-/

namespace Aspl.Object

open CoreAudio

universe u v

def kAudioServerPlugInCustomPropertyDataTypeNone : UInt32 := 0

/-- `'cfst'`. -/
def kAudioServerPlugInCustomPropertyDataTypeCFString : UInt32 := 0x63667374

/-- `'plst'`. -/
def kAudioServerPlugInCustomPropertyDataTypeCFPropertyList : UInt32 := 0x706C7374

/-- The value types of the overloads of `RegisterCustomProperty()`. -/
inductive CustomPropertyType where
  | CFStringRef
  | CFPropertyListRef

/-- The data type that an overload passes to `CustomProperty::Create()`. -/
def CustomPropertyType.dataType : CustomPropertyType → UInt32
  | .CFStringRef => kAudioServerPlugInCustomPropertyDataTypeCFString
  | .CFPropertyListRef => kAudioServerPlugInCustomPropertyDataTypeCFPropertyList

/-- `CustomProperty` with its data type. -/
structure TypedCustomProperty (State : Type u) extends CustomProperty State where
  type : UInt32

abbrev CustomProperties (State : Type u) := OrderedMap UInt32 (TypedCustomProperty State)

/-- A call of `RegisterCustomProperty()`. -/
structure Registration (State : Type u) where
  selector : UInt32
  valueType : CustomPropertyType
  getter : Option (State → FoundationValue referenceSize)
  setter : Option (State → FoundationValue referenceSize → State)

namespace Registration

variable {State : Type u}

/-- `CustomProperty::Create()`. -/
def create (registration : Registration State) : TypedCustomProperty State where
  type := registration.valueType.dataType
  getter := registration.getter
  setter := registration.setter

/-- The map with one property registered. -/
def perform (customProps : CustomProperties State) (registration : Registration State)
    : CustomProperties State :=
  customProps.insert registration.selector registration.create

/-- `RegisterCustomProperty()` between locking and unlocking `writeMutex_`. -/
def code (registration : Registration State) : Code (CustomProperties State) Unit :=
  .read id fun customProps =>
  .write (fun _ => perform customProps registration) (.done ())

/-- The map after registrations, oldest first. -/
def performAll (registrations : List (Registration State)) : CustomProperties State :=
  registrations.foldl perform .empty

/-- The last one of some registrations under a selector. -/
def last? (registrations : List (Registration State)) (selector : UInt32)
    : Option (Registration State) :=
  registrations.reverse.find? (fun registration => registration.selector = selector)

end Registration

/-- `AudioServerPlugInCustomPropertyInfo`. -/
structure CustomPropertyInfo where
  mSelector : UInt32
  mPropertyDataType : UInt32
  mQualifierDataType : UInt32

/-- `GetCustomProperties()`. -/
def getCustomProperties {State : Type u} (customProps : CustomProperties State)
    : List CustomPropertyInfo :=
  customProps.entries.map (fun (propSelector, prop) => {
    mSelector := propSelector
    mPropertyDataType := prop.type
    mQualifierDataType := kAudioServerPlugInCustomPropertyDataTypeNone
  })

/-- An object as HAL finds it while its custom properties are the given ones. -/
def PropertyObject.showing {State : Type u} (object : PropertyObject UInt32 State)
    (customProps : CustomProperties State)
    : PropertyObject UInt32 State :=
  {
    object with
    customProps := fun selector => (customProps.find? selector).map (·.toCustomProperty)
  }

namespace Registration

variable {State : Type u} {Thread : Type v}

/-- All interleavings of registrations on an object that has no custom properties yet. -/
def system (Thread : Type v) (State : Type u) [DecidableEq Thread]
    : System (Guarded Thread (CustomProperties State) (Registration State) Unit)
        (Thread × Guarded.Move (Registration State)) :=
  Guarded.system code (· = .empty)

/-- The last registration under a selector counts. -/
theorem find?_performAll (registrations : List (Registration State)) (selector : UInt32)
    : (performAll registrations).find? selector = (last? registrations selector).map create := by
  induction registrations using List.reverseRecOn with
  | nil => rfl
  | append_singleton earlier latest ih =>
      rw [performAll, List.foldl_concat, perform, OrderedMap.find?_insert, last?,
        List.reverse_concat, List.find?_cons]
      by_cases same : latest.selector = selector
      · rw [if_pos same.symm, decide_eq_true same]
        rfl
      · rw [if_neg (fun equal => same equal.symm), decide_eq_false same]
        exact ih

/-- The finished calls have left the map that they make one after the other. -/
theorem performAll_of_run {start before : CustomProperties State}
    {finished : List (Registration State × Unit)} (new : start = .empty)
    (run
      : ((Guarded.sequential code (· = .empty)).restrict (fun _ _ => True)).Run start finished
          before)
    : before = performAll (finished.map Prod.fst) := by
  induction run with
  | nil => exact new
  | @snoc middle after earlier label _ last ih =>
      obtain ⟨-, returned⟩ := last
      have performed : perform middle label.1 = after := (Prod.mk.inj (Option.some.inj returned)).1
      rw [List.map_append, performAll, List.foldl_append, ← performed, ih]
      rfl

variable [DecidableEq Thread]
  {state finish : Guarded Thread (CustomProperties State) (Registration State) Unit}

/-- The map is what the finished calls have made of it, or also the one that is under way. -/
theorem data_cases (reached : (system Thread State).Reachable state)
    : state.data = performAll (state.finished.map Prod.fst)
      ∨ ∃ thread registration code,
          state.phase thread = .inside registration code
          ∧ state.data = performAll (state.finished.map Prod.fst ++ [registration]) := by
  have allowed
      : ((system Thread State).restrict (Guarded.Admits (fun _ _ => True))).Reachable state :=
    reached.restrict (fun _ _ _ _ _ => trivial)
  obtain ⟨start, before, starts, run, located⟩ := Guarded.atomic allowed
  have finished := performAll_of_run starts run
  cases held : state.mutex with
  | none => exact .inl ((located.free held).trans finished)
  | some thread =>
      obtain ⟨registration, rest, inside, -, runs⟩ := located.locked thread held
      have throughout : (code registration).Throughout
          (fun shown => shown = before ∨ shown = perform before registration) before :=
        ⟨.inl rfl, .inl rfl, .inr rfl⟩
      rcases (runs.keeps _ throughout).now with same | performed
      · exact .inl (same.trans finished)
      · refine .inr ⟨thread, registration, rest, inside, ?_⟩
        rw [performed, finished, performAll, performAll, List.foldl_concat]

-----------------------------------------------------------------------------------------
-- What HAL finds
-----------------------------------------------------------------------------------------

/-- The object has the last property registered under each selector: it lists exactly those, each
once and with its data type, and HAL finds one that is not built in exactly if it is listed.
-/
structure Offers (object : PropertyObject UInt32 State) (customProps : CustomProperties State)
    (registrations : List (Registration State))
    : Prop where
  custom
    : ∀ selector,
        (object.showing customProps).customProps selector
        = (last? registrations selector).map (·.create.toCustomProperty)
  listed
    : ∀ info,
        info ∈ getCustomProperties customProps
        ↔ ∃ registration,
            last? registrations info.mSelector = some registration
            ∧ info.mPropertyDataType = registration.valueType.dataType
            ∧ info.mQualifierDataType = kAudioServerPlugInCustomPropertyDataTypeNone
  once : ((getCustomProperties customProps).map CustomPropertyInfo.mSelector).Nodup
  has
    : ∀ address,
        object.gettable address.mSelector = none
        → ((hasProperty (object.showing customProps) object.objectID (some address)).result = true
          ↔ ∃ info ∈ getCustomProperties customProps, info.mSelector = address.mSelector)

/-- The selectors that an object lists are the keys of the map. -/
theorem exists_info_iff {customProps : CustomProperties State} {selector : UInt32}
    : (∃ info ∈ getCustomProperties customProps, info.mSelector = selector)
      ↔ (customProps.find? selector).isSome := by
  rw [Option.isSome_iff_exists]
  constructor
  · rintro ⟨_, listed, rfl⟩
    obtain ⟨⟨propSelector, prop⟩, member, rfl⟩ := List.mem_map.mp listed
    exact ⟨prop, customProps.find?_eq_some_iff.mpr member⟩
  · rintro ⟨prop, found⟩
    have member := customProps.find?_eq_some_iff.mp found
    exact ⟨_, List.mem_map.mpr ⟨_, member, rfl⟩, rfl⟩

/-- The map after registrations offers what they registered last. -/
theorem offers_performAll (object : PropertyObject UInt32 State)
    (registrations : List (Registration State))
    : Offers object (performAll registrations) registrations := by
  constructor
  · intro selector
    change ((performAll registrations).find? selector).map (·.toCustomProperty) = _
    rw [find?_performAll, Option.map_map]
    rfl
  · intro ⟨selector, dataType, qualifierType⟩
    dsimp only
    constructor
    · intro listed
      obtain ⟨⟨propSelector, prop⟩, member, same⟩ := List.mem_map.mp listed
      obtain ⟨rfl, rfl, rfl⟩ := CustomPropertyInfo.mk.inj same
      have found := (performAll registrations).find?_eq_some_iff.mpr member
      rw [find?_performAll] at found
      obtain ⟨registration, last, rfl⟩ := Option.map_eq_some_iff.mp found
      exact ⟨registration, last, rfl, rfl⟩
    · rintro ⟨registration, last, rfl, rfl⟩
      have found : (performAll registrations).find? selector = some registration.create := by
        rw [find?_performAll, last]
        rfl
      exact List.mem_map.mpr ⟨_, (performAll registrations).find?_eq_some_iff.mp found, rfl⟩
  · have keys : (getCustomProperties (performAll registrations)).map CustomPropertyInfo.mSelector
        = (performAll registrations).entries.map Prod.fst := by
      rw [getCustomProperties, List.map_map]
      rfl
    rw [keys]
    exact OrderedMap.nodup_keys _
  · intro address custom
    let shown := object.showing (performAll registrations)
    have builtIn : shown.gettable address.mSelector = none := custom
    have asked : hasProperty shown shown.objectID (some address)
        = hasPropertyFallback shown shown.objectID address := by
      rw [hasProperty_own, builtIn]
    change (hasProperty shown shown.objectID (some address)).result = true ↔ _
    rw [exists_info_iff, asked, hasPropertyFallback, if_pos rfl]
    cases found : (performAll registrations).find? address.mSelector with
    | none => simp [shown, PropertyObject.showing, found]
    | some prop => simp [shown, PropertyObject.showing, found]

/-- A selector that was registered is listed. -/
theorem exists_last? {registrations : List (Registration State)} {registration : Registration State}
    (member : registration ∈ registrations)
    : (last? registrations registration.selector).isSome := by
  rw [last?, List.find?_isSome]
  exact ⟨registration, List.mem_reverse.mpr member, decide_eq_true rfl⟩

/-- HAL uses an object while any number of threads register custom properties. At any moment the
object offers what was registered last under each selector, by the calls that have returned in the
order in which they locked the mutex, and perhaps by the call that is under way. What a call has
registered that has returned is listed from then on.
-/
theorem concurrent_registrations (object : PropertyObject UInt32 State)
    (reached : (system Thread State).Reachable state)
    : (∃ registrations,
        Offers object state.data registrations
        ∧ (registrations = state.finished.map Prod.fst
          ∨ ∃ thread registration code,
              state.phase thread = .inside registration code
              ∧ registrations = state.finished.map Prod.fst ++ [registration]))
      ∧ ∀ labels finish registration,
          (system Thread State).Run state labels finish
          → (registration, ()) ∈ state.finished
          → ∃ info ∈ getCustomProperties finish.data, info.mSelector = registration.selector := by
  constructor
  · rcases data_cases reached with same | ⟨thread, registration, code, inside, same⟩
    · exact ⟨_, same ▸ offers_performAll object _, .inl rfl⟩
    · exact ⟨_, same ▸ offers_performAll object _, .inr ⟨thread, registration, code, inside, rfl⟩⟩
  · intro labels finish registration run returned
    have kept := (Guarded.finished_prefix run).subset returned
    have member : registration ∈ finish.finished.map Prod.fst := List.mem_map.mpr ⟨_, kept, rfl⟩
    rw [exists_info_iff]
    rcases data_cases (run.reachable reached) with same | ⟨thread, latest, code, inside, same⟩
    · rw [same, find?_performAll, Option.isSome_map]
      exact exists_last? member
    · rw [same, find?_performAll, Option.isSome_map]
      exact exists_last? (List.mem_append_left _ member)

/-- A property is registered again, with another data type, by a call that has not returned yet. -/
theorem concurrent_registrations_again
    : ∃ state : Guarded Bool (CustomProperties Unit) (Registration Unit) Unit,
        state.mutex = some true
        ∧ state.finished.length = 1
        ∧ getCustomProperties state.data
          = [⟨7, kAudioServerPlugInCustomPropertyDataTypeCFPropertyList,
              kAudioServerPlugInCustomPropertyDataTypeNone⟩]
        ∧ ∃ registrations, Offers ⟨2, [], fun _ => none⟩ state.data registrations := by
  let start : Guarded Bool (CustomProperties Unit) (Registration Unit) Unit :=
    ⟨fun _ => .outside, none, .empty, []⟩
  let labels : List (Bool × Guarded.Move (Registration Unit)) :=
    (false, .call ⟨7, .CFStringRef, none, none⟩) :: List.replicate 4 (false, .proceed)
    ++ (true, .call ⟨7, .CFPropertyListRef, none, none⟩) :: List.replicate 3 (true, .proceed)
  have starts : start.Starts (· = .empty) := ⟨fun _ => rfl, rfl, rfl, rfl⟩
  obtain ⟨state, played⟩ : ∃ state, System.play (Guarded.advance code) start labels = some state :=
    ⟨_, rfl⟩
  have reached : (system Bool Unit).Reachable state := System.reachable_of_play starts played
  obtain rfl := Option.some.inj played
  obtain ⟨⟨registrations, offers, -⟩, -⟩ := concurrent_registrations ⟨2, [], fun _ => none⟩ reached
  exact ⟨_, rfl, rfl, rfl, registrations, offers⟩

-----------------------------------------------------------------------------------------
-- Through the double buffer
-----------------------------------------------------------------------------------------

open DoubleBuffer

/-- Registrations on any number of threads, each with its `Get()` and `Set()` of `customProps_`,
and lookups through a read lock on it. While no registration is under way the object offers what
was registered last. A lookup finds what had been registered last at some moment, and every
property whose registration had returned from `Set()` before the lookup began.
-/
theorem lookups_find_registrations (object : PropertyObject UInt32 State)
    {start finish
      : Updates.Program Thread (CustomProperties State) (Registration State)
        × DoubleBuffer.State Thread (CustomProperties State)}
    {labels
      : List
          (System.Joint (Thread × Updates.Act (CustomProperties State) (Registration State))
            (Thread × DoubleBuffer.Move (CustomProperties State)))}
    (new : start.1.New) (constructed : DoubleBuffer.Constructed start.2)
    (empty : start.2.stored = [.empty])
    (run : (Updates.shared Thread perform false).Run start labels finish)
    : (finish.1.mutex = none
        → ∃ customProps,
            finish.2.stored[finish.2.switched]? = some customProps
            ∧ Offers object customProps finish.1.changes)
      ∧ ∀ thread since found,
          finish.1.task thread = .looking since found
          → ∃ customProps count,
              found = some customProps
              ∧ count ≤ finish.1.changes.length
              ∧ Offers object customProps (finish.1.changes.take count)
              ∧ ∀ registration ∈ finish.1.changes.take since,
                  ∃ info ∈ getCustomProperties customProps,
                    info.mSelector = registration.selector := by
  obtain ⟨rest, -, looks⟩ := Updates.updates_kept new constructed empty run
  constructor
  · intro free
    exact ⟨_, rest free, offers_performAll object _⟩
  · intro thread since found looking
    obtain ⟨count, enough, bound, rfl⟩ := looks thread since found looking
    refine ⟨_, count, rfl, bound, offers_performAll object _, ?_⟩
    intro registration member
    have known : registration ∈ finish.1.changes.take count :=
      (List.take_subset_take_left _ enough) member
    change ∃ info ∈ getCustomProperties (performAll (finish.1.changes.take count)), _
    rw [exists_info_iff, find?_performAll, Option.isSome_map]
    exact exists_last? known

/-- An object without custom properties, and no calls. -/
def noProperties
    : Updates.Program Bool (CustomProperties Unit) (Registration Unit)
      × DoubleBuffer.State Bool (CustomProperties Unit) :=
  (Updates.noUpdates _ _, DoubleBuffer.constructed _ .empty)

/-- A property with strings. -/
def stringRegistration : Registration Unit := ⟨7, .CFStringRef, none, none⟩

/-- A lookup begins when a registration has returned. -/
theorem lookups_find_registrations_returned
    : ∃ labels finish customProps,
        (Updates.shared Bool perform false).Run noProperties labels finish
        ∧ finish.1.task true = .looking 1 (some customProps)
        ∧ ∃ info ∈ getCustomProperties customProps, info.mSelector = 7 := by
  have start
      : (Updates.shared Bool perform false).Run noProperties [] (noProperties.1, noProperties.2) :=
    .nil _
  have asked := start.left (false, .update stringRegistration) rfl rfl
  have locked := asked.left (false, .lock) rfl rfl
  have called := locked.both (false, .callGet) (false, .read) rfl
    ⟨fun _ same => (by cases same), rfl⟩ rfl rfl
  have loaded := called.right (false, .proceed) ⟨fun _ same => (by cases same), rfl⟩ rfl
  have tried := loaded.right (false, .proceed) ⟨fun _ same => (by cases same), rfl⟩ rfl
  have found := tried.both (false, .obtain (some .empty)) (false, .proceed) rfl
    ⟨fun _ same => (by cases same; decide), rfl⟩ rfl rfl
  have copied := found.both (false, .release (some .empty)) (false, .proceed) rfl
    ⟨fun _ same => (by cases same), rfl⟩ rfl rfl
  have stored := copied.both (false, .callSet) (false, .set (perform .empty stringRegistration)) rfl
    ⟨fun _ same => (by cases same), rfl⟩ rfl rfl
  have lockedWrite := stored.right (false, .proceed) ⟨fun _ same => (by cases same), rfl⟩ rfl
  have loadedIndex := lockedWrite.right (false, .proceed) ⟨fun _ same => (by cases same), rfl⟩ rfl
  have storedIndex := loadedIndex.right (false, .proceed) ⟨fun _ same => (by cases same), rfl⟩ rfl
  have lockedNew := storedIndex.right (false, .proceed) ⟨fun _ same => (by cases same), rfl⟩ rfl
  have storedValue := lockedNew.right (false, .proceed) ⟨fun _ same => (by cases same), rfl⟩ rfl
  have unlockedNew := storedValue.right (false, .proceed) ⟨fun _ same => (by cases same), rfl⟩ rfl
  have switched := unlockedNew.right (false, .proceed) ⟨fun _ same => (by cases same), rfl⟩ rfl
  have invalidated := switched.right (false, .proceed) ⟨fun _ same => (by cases same), rfl⟩ rfl
  have lockedOld := invalidated.right (false, .proceed) ⟨fun _ same => (by cases same), rfl⟩ rfl
  have destroyed := lockedOld.right (false, .proceed) ⟨fun _ same => (by cases same), rfl⟩ rfl
  have unlockedOld := destroyed.right (false, .proceed) ⟨fun _ same => (by cases same), rfl⟩ rfl
  have returned := unlockedOld.both (false, .returnFromSet) (false, .proceed) rfl
    ⟨fun _ same => (by cases same), rfl⟩ rfl rfl
  have looked := returned.both (true, .callGet) (true, .read) rfl
    ⟨fun _ same => (by cases same), rfl⟩ rfl rfl
  have loadedAgain := looked.right (true, .proceed) ⟨fun _ same => (by cases same), rfl⟩ rfl
  have triedAgain := loadedAgain.right (true, .proceed) ⟨fun _ same => (by cases same), rfl⟩ rfl
  have shown := triedAgain.both (true, .obtain (some (perform .empty stringRegistration)))
    (true, .proceed) rfl ⟨fun _ same => (by cases same; decide), rfl⟩ rfl rfl
  obtain ⟨-, looks⟩ := lookups_find_registrations ⟨2, [], fun _ => none⟩
    ⟨fun _ => rfl, rfl, rfl, rfl⟩ (DoubleBuffer.constructed_constructed _ _) rfl shown
  obtain ⟨customProps, count, same, -, -, listed⟩ := looks true 1 _ rfl
  exact ⟨_, _, customProps, shown, congrArg _ same, listed stringRegistration (.head _)⟩

end Registration

end Aspl.Object
