import Aspl.CoreAudio
import Mathlib.Data.List.TakeWhile

/-! The conversions of `Convert` between C++ values and the objects of CoreFoundation, which is a
parameter.
-/

namespace Aspl.Storage

/-- A `std::string`, which may hold any bytes, or a `std::vector<UInt8>`. -/
abbrev Bytes := List UInt8

/-- The bits of a `Float64`. -/
abbrev Float64Bits := BitVec 64

/-- The classes of CoreFoundation and its functions that `Convert` calls. What a function creates
is `none` where it returns null. A C string is the list of the bytes before its NUL.
-/
structure CoreFoundation where
  CFString : Type
  CFData : Type
  CFBoolean : Type
  CFNumber : Type
  CFOther : Type
  cfStringCreateWithCString : Bytes → Option CFString
  cfStringGetLength : CFString → Int
  cfStringGetMaximumSizeForEncoding : Int → Int
  cfStringGetCString : CFString → Int → Option Bytes
  cfDataCreate : Bytes → Option CFData
  cfDataGetBytes : CFData → Bytes
  kCFBooleanTrue : CFBoolean
  kCFBooleanFalse : CFBoolean
  cfPropertyListCreateDeepCopy : CFBoolean → Option CFBoolean
  cfBooleanGetValue : CFBoolean → Bool
  cfNumberCreateSInt64 : Int64 → Option CFNumber
  cfNumberCreateFloat64 : Float64Bits → Option CFNumber
  cfNumberGetSInt64 : CFNumber → Int64 × Bool
  cfNumberGetFloat64 : CFNumber → Float64Bits × Bool

/-- A property list by its `CFGetTypeID()`; other classes are arrays, dictionaries and dates. -/
inductive CFPropertyList (cf : CoreFoundation) where
  | data (value : cf.CFData)
  | string (value : cf.CFString)
  | boolean (value : cf.CFBoolean)
  | number (value : cf.CFNumber)
  | other (value : cf.CFOther)

/-- The types that `Storage` reads and writes, except property lists themselves. -/
inductive ValueType where
  | bytes
  | string
  | boolean
  | int
  | float
deriving DecidableEq

/-- The C++ type. -/
abbrev ValueType.Value : ValueType → Type
  | .bytes | .string => Bytes
  | .boolean => Bool
  | .int => Int64
  | .float => Float64Bits

/-- `T value = {}`. -/
def ValueType.default : (type : ValueType) → type.Value
  | .bytes | .string => []
  | .boolean => false
  | .int => 0
  | .float => 0

/-- A value with its type. -/
structure TypedValue where
  type : ValueType
  value : type.Value

-----------------------------------------------------------------------------------------
-- Convert
-----------------------------------------------------------------------------------------

/-- What C functions see of `value.c_str()`. -/
def cString (value : Bytes) : Bytes := value.takeWhile (· ≠ 0)

namespace Convert

variable {cf : CoreFoundation}

/-- `ToFoundation(const std::string&, CFStringRef&)`. -/
def toFoundationString (cf : CoreFoundation) (value : Bytes) : Option cf.CFString :=
  cf.cfStringCreateWithCString (cString value)

/-- `FromFoundation(CFStringRef, std::string&)` of a string that is not null. -/
def fromFoundationString (value : cf.CFString) : Bytes × Bool :=
  let maxSize := cf.cfStringGetMaximumSizeForEncoding (cf.cfStringGetLength value) + 1
  if maxSize ≤ 0 then
    ([], false)
  else
    match cf.cfStringGetCString value maxSize with
    | some buffer => (buffer, true)
    | none => ([], false)

/-- `ToFoundation(…, CFPropertyListRef&)` for each type. -/
def toFoundation (cf : CoreFoundation) : TypedValue → Option (CFPropertyList cf)
  | ⟨.bytes, value⟩ => (cf.cfDataCreate value).map .data
  | ⟨.string, value⟩ => (toFoundationString cf value).map .string
  | ⟨.boolean, value⟩ =>
      (cf.cfPropertyListCreateDeepCopy
        (if value then cf.kCFBooleanTrue else cf.kCFBooleanFalse)).map .boolean
  | ⟨.int, value⟩ => (cf.cfNumberCreateSInt64 value).map .number
  | ⟨.float, value⟩ => (cf.cfNumberCreateFloat64 value).map .number

/-- What a call of `CFNumberGetValue()` wrote, which is zero where it returns false. -/
def numberOrZero {Number : Type} [OfNat Number 0] (written : Number × Bool) : Number × Bool :=
  if written.2 then written else (0, false)

/-- `FromFoundation(CFPropertyListRef, …)` for each type. `result` is what the reference holds
before the call; a property list of another class leaves it as it is.
-/
def fromFoundation (value : CFPropertyList cf) (type : ValueType) (result : type.Value)
    : type.Value × Bool :=
  match type, value with
  | .bytes, .data dataValue => (cf.cfDataGetBytes dataValue, true)
  | .string, .string stringValue => fromFoundationString stringValue
  | .boolean, .boolean booleanValue => (cf.cfBooleanGetValue booleanValue, true)
  | .int, .number numberValue => numberOrZero (cf.cfNumberGetSInt64 numberValue)
  | .float, .number numberValue => numberOrZero (cf.cfNumberGetFloat64 numberValue)
  | _, _ => (result, false)

end Convert

-----------------------------------------------------------------------------------------
-- What Convert relies on
-----------------------------------------------------------------------------------------

/-- The documented behaviour of CoreFoundation: a string that was created from a C string comes
back through a buffer that has room for it and its NUL, and the maximum size has that room;
data, booleans and numbers give back what they were created from.
-/
structure CoreFoundation.Documented (cf : CoreFoundation) : Prop where
  cString
    : ∀ bytes string,
        0 ∉ bytes
        → cf.cfStringCreateWithCString bytes = some string
        → ∀ size : Int, bytes.length < size → cf.cfStringGetCString string size = some bytes
  maximumSize
    : ∀ bytes string,
        0 ∉ bytes
        → cf.cfStringCreateWithCString bytes = some string
        → bytes.length ≤ cf.cfStringGetMaximumSizeForEncoding (cf.cfStringGetLength string)
  data : ∀ bytes data, cf.cfDataCreate bytes = some data → cf.cfDataGetBytes data = bytes
  copy
    : ∀ boolean copied,
        cf.cfPropertyListCreateDeepCopy boolean = some copied
        → cf.cfBooleanGetValue copied = cf.cfBooleanGetValue boolean
  booleanTrue : cf.cfBooleanGetValue cf.kCFBooleanTrue = true
  booleanFalse : cf.cfBooleanGetValue cf.kCFBooleanFalse = false
  sInt64
    : ∀ value number,
        cf.cfNumberCreateSInt64 value = some number → cf.cfNumberGetSInt64 number = (value, true)
  float64
    : ∀ value number,
        cf.cfNumberCreateFloat64 value = some number
        → cf.cfNumberGetFloat64 number = (value, true)

namespace Convert

variable {cf : CoreFoundation}

theorem zero_notMem_cString (value : Bytes) : 0 ∉ cString value := by
  intro member
  have notZero := List.mem_takeWhile_imp member
  simp at notZero

/-- C functions see the whole of a string exactly if it has no NUL. -/
theorem cString_eq_iff (value : Bytes) : cString value = value ↔ 0 ∉ value := by
  constructor
  · intro same
    rw [← same]
    exact zero_notMem_cString value
  · intro absent
    refine List.takeWhile_eq_self_iff.mpr ?_
    intro byte member
    exact decide_eq_true (fun isZero => absent (isZero ▸ member))

/-- A string comes back as far as its first NUL. -/
theorem fromFoundationString_eq (documented : cf.Documented) {value : Bytes}
    {string : cf.CFString} (encoded : toFoundationString cf value = some string)
    : fromFoundationString string = (cString value, true) := by
  have room := documented.maximumSize _ string (zero_notMem_cString value) encoded
  have positive
      : ¬ cf.cfStringGetMaximumSizeForEncoding (cf.cfStringGetLength string) + 1 ≤ 0 := by
    omega
  have read :=
    documented.cString _ string (zero_notMem_cString value) encoded
      (cf.cfStringGetMaximumSizeForEncoding (cf.cfStringGetLength string) + 1) (by omega)
  simp only [fromFoundationString, if_neg positive, read]

/-- Strings have the same encoded form exactly if they agree as far as their first NULs. -/
theorem toFoundationString_eq_iff (documented : cf.Documented) {left right : Bytes}
    {string : cf.CFString} (encoded : toFoundationString cf right = some string)
    : toFoundationString cf left = some string ↔ cString left = cString right := by
  constructor
  · intro same
    have readLeft := fromFoundationString_eq documented same
    have readRight := fromFoundationString_eq documented encoded
    exact congrArg Prod.fst (readLeft.symm.trans readRight)
  · intro same
    rw [← encoded, toFoundationString, toFoundationString, same]

/-- A value has no NUL, if it is a string. -/
def NulFree : TypedValue → Prop
  | ⟨.string, value⟩ => 0 ∉ value
  | _ => True

/-- A property list reads back as a value. -/
def Reads (plist : CFPropertyList cf) (value : TypedValue) : Prop :=
  fromFoundation plist value.type value.type.default = (value.value, true)

/-- What a value was converted to reads back as the value exactly if it has no NUL. -/
theorem reads_iff (documented : cf.Documented) {value : TypedValue} {plist : CFPropertyList cf}
    (encoded : toFoundation cf value = some plist)
    : Reads plist value ↔ NulFree value := by
  obtain ⟨type, value⟩ := value
  cases type with
  | bytes =>
      obtain ⟨dataValue, created, rfl⟩ := Option.map_eq_some_iff.mp encoded
      simp [Reads, fromFoundation, NulFree, documented.data value dataValue created]
  | string =>
      obtain ⟨stringValue, created, rfl⟩ := Option.map_eq_some_iff.mp encoded
      simp [Reads, fromFoundation, NulFree, fromFoundationString_eq documented created,
        cString_eq_iff]
  | boolean =>
      obtain ⟨booleanValue, created, rfl⟩ := Option.map_eq_some_iff.mp encoded
      have copied := documented.copy _ booleanValue created
      cases value with
      | true => simpa [Reads, fromFoundation, NulFree, documented.booleanTrue] using copied
      | false => simpa [Reads, fromFoundation, NulFree, documented.booleanFalse] using copied
  | int =>
      obtain ⟨numberValue, created, rfl⟩ := Option.map_eq_some_iff.mp encoded
      simp [Reads, fromFoundation, NulFree, numberOrZero,
        documented.sInt64 value numberValue created]
  | float =>
      obtain ⟨numberValue, created, rfl⟩ := Option.map_eq_some_iff.mp encoded
      simp [Reads, fromFoundation, NulFree, numberOrZero,
        documented.float64 value numberValue created]

/-- A string conversion that fails leaves the empty string. -/
theorem nil_of_fails {string : cf.CFString} (fails : (fromFoundationString string).2 = false)
    : (fromFoundationString string).1 = [] := by
  simp only [fromFoundationString] at fails ⊢
  by_cases overflow
      : cf.cfStringGetMaximumSizeForEncoding (cf.cfStringGetLength string) + 1 ≤ 0
  · rw [if_pos overflow]
  · rw [if_neg overflow] at fails ⊢
    cases read
        : cf.cfStringGetCString string
          (cf.cfStringGetMaximumSizeForEncoding (cf.cfStringGetLength string) + 1) with
    | none => rfl
    | some buffer =>
        rw [read] at fails
        cases fails

/-- A number conversion that fails leaves zero. -/
theorem zero_of_fails {Number : Type} [OfNat Number 0] {written : Number × Bool}
    (fails : (numberOrZero written).2 = false)
    : (numberOrZero written).1 = 0 := by
  cases ok : written.2 with
  | true => simp [numberOrZero, ok] at fails
  | false => simp [numberOrZero, ok]

/-- A conversion that fails leaves the default value. -/
theorem default_of_fails {plist : CFPropertyList cf} {type : ValueType}
    (fails : (fromFoundation plist type type.default).2 = false)
    : (fromFoundation plist type type.default).1 = type.default := by
  cases type with
  | bytes | boolean => cases plist <;> first | rfl | cases fails
  | string =>
      cases plist with
      | string stringValue => exact nil_of_fails fails
      | data _ | boolean _ | number _ | other _ => rfl
  | int | float =>
      cases plist with
      | number numberValue => exact zero_of_fails fails
      | data _ | string _ | boolean _ | other _ => rfl

end Convert

end Aspl.Storage
