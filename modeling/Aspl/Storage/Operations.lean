import Aspl.Base.EncodedMap
import Aspl.Storage.Convert
import Mathlib.Data.List.Basic

/-! The operations of `Storage` on the storage of the host, which is a parameter. -/

namespace Aspl.Storage

open CoreAudio
open Aspl.Storage.Convert

/-- The storage operations of `AudioServerPlugInHostInterface`, on the state of the host. -/
structure Host (cf : CoreFoundation) (State : Type) where
  copyFromStorage : State → cf.CFString → OSStatus × Option (CFPropertyList cf)
  writeToStorage : State → cf.CFString → CFPropertyList cf → OSStatus × State
  deleteFromStorage : State → cf.CFString → OSStatus × State

section Operations

variable {cf : CoreFoundation} {State : Type} (host : Option (Host cf State)) (state : State)

/-- `CopyFromStorage_()`. -/
def copyFromStorage (type : ValueType) (key : Bytes) : type.Value × Bool :=
  match toFoundationString cf key with
  | none => (type.default, false)
  | some keyString =>
      match host with
      | none => (type.default, false)
      | some host =>
          match host.copyFromStorage state keyString with
          | (.kAudioHardwareNoError, some valuePlist) =>
              fromFoundation valuePlist type type.default
          | _ => (type.default, false)

/-- `WriteToStorage_()`: whether it succeeded, and the state of the host after it. -/
def writeToStorage (key : Bytes) (value : TypedValue) : Bool × State :=
  match toFoundationString cf key with
  | none => (false, state)
  | some keyString =>
      match toFoundation cf value with
      | none => (false, state)
      | some valuePlist =>
          match host with
          | none => (false, state)
          | some host =>
              let result := host.writeToStorage state keyString valuePlist
              (result.1 = .kAudioHardwareNoError, result.2)

/-- `DeleteFromStorage_()`: whether it succeeded, and the state of the host after it. -/
def deleteFromStorage (key : Bytes) : Bool × State :=
  match toFoundationString cf key with
  | none => (false, state)
  | some keyString =>
      match host with
      | none => (false, state)
      | some host =>
          let result := host.deleteFromStorage state keyString
          (result.1 = .kAudioHardwareNoError, result.2)

-----------------------------------------------------------------------------------------
-- The methods of Storage
-----------------------------------------------------------------------------------------

def readBytes (key : Bytes) : Bytes × Bool := copyFromStorage host state .bytes key

def readString (key : Bytes) : Bytes × Bool := copyFromStorage host state .string key

def readBoolean (key : Bytes) : Bool × Bool := copyFromStorage host state .boolean key

def readInt (key : Bytes) : Int64 × Bool := copyFromStorage host state .int key

def readFloat (key : Bytes) : Float64Bits × Bool := copyFromStorage host state .float key

def writeBytes (key value : Bytes) : Bool × State :=
  writeToStorage host state key ⟨.bytes, value⟩

def writeString (key value : Bytes) : Bool × State :=
  writeToStorage host state key ⟨.string, value⟩

def writeBoolean (key : Bytes) (value : Bool) : Bool × State :=
  writeToStorage host state key ⟨.boolean, value⟩

def writeInt (key : Bytes) (value : Int64) : Bool × State :=
  writeToStorage host state key ⟨.int, value⟩

def writeFloat (key : Bytes) (value : Float64Bits) : Bool × State :=
  writeToStorage host state key ⟨.float, value⟩

def delete (key : Bytes) : Bool × State := deleteFromStorage host state key

end Operations

-----------------------------------------------------------------------------------------
-- What Storage relies on
-----------------------------------------------------------------------------------------

/-- The host stores a property list for each key, and does not fail to copy or write one. -/
structure Host.StoresLists {cf : CoreFoundation} {State : Type} (host : Host cf State) : Prop where
  copies : ∀ state key, (host.copyFromStorage state key).1 = .kAudioHardwareNoError
  writes : ∀ state key value, (host.writeToStorage state key value).1 = .kAudioHardwareNoError
  written
    : ∀ state key value,
        (host.copyFromStorage (host.writeToStorage state key value).2 key).2 = some value
  writtenElsewhere
    : ∀ state key value other,
        other ≠ key
        → (host.copyFromStorage (host.writeToStorage state key value).2 other).2
          = (host.copyFromStorage state other).2
  deleted
    : ∀ state key,
        (host.copyFromStorage (host.deleteFromStorage state key).2 key).2 = none
  deletedElsewhere
    : ∀ state key other,
        other ≠ key
        → (host.copyFromStorage (host.deleteFromStorage state key).2 other).2
          = (host.copyFromStorage state other).2

section Lemmas

variable {cf : CoreFoundation} {State : Type} {host : Host cf State} {state : State}
  {key : Bytes} {value : TypedValue}

/-- What is stored under a key of CoreFoundation. -/
def Host.lookup (host : Host cf State) (state : State) (key : cf.CFString)
    : Option (CFPropertyList cf) :=
  (host.copyFromStorage state key).2

/-- A read succeeds with a value exactly if the key can be encoded and what is stored under it
reads back as the value.
-/
theorem copyFromStorage_iff (stores : host.StoresLists) (state : State) (key : Bytes)
    (value : TypedValue)
    : copyFromStorage (some host) state value.type key = (value.value, true)
      ↔ ∃ keyString plist,
          toFoundationString cf key = some keyString
          ∧ host.lookup state keyString = some plist
          ∧ Reads plist value := by
  cases encoded : toFoundationString cf key with
  | none => simp [copyFromStorage, encoded]
  | some keyString =>
      have ok := stores.copies state keyString
      cases copied : host.copyFromStorage state keyString with
      | mk status plist =>
          rw [copied] at ok
          obtain rfl : status = .kAudioHardwareNoError := ok
          cases plist with
          | none => simp [copyFromStorage, encoded, copied, Host.lookup]
          | some plist => simp [copyFromStorage, encoded, copied, Host.lookup, Reads]

/-- A read that fails returns the default value. -/
theorem default_of_copyFails {host : Option (Host cf State)} {type : ValueType}
    (fails : (copyFromStorage host state type key).2 = false)
    : (copyFromStorage host state type key).1 = type.default := by
  cases encoded : toFoundationString cf key with
  | none => simp [copyFromStorage, encoded]
  | some keyString =>
      cases host with
      | none => simp [copyFromStorage, encoded]
      | some host =>
          rcases copied : host.copyFromStorage state keyString with ⟨status, plist⟩
          cases plist with
          | none => cases status <;> simp [copyFromStorage, encoded, copied]
          | some plist =>
              by_cases ok : status = .kAudioHardwareNoError
              · subst ok
                simp only [copyFromStorage, encoded, copied] at fails ⊢
                exact default_of_fails fails
              · cases status <;>
                  first | exact absurd rfl ok | simp [copyFromStorage, encoded, copied]

/-- A write succeeds where the key and the value can be encoded. -/
theorem writeToStorage_eq (stores : host.StoresLists) {keyString : cf.CFString}
    {plist : CFPropertyList cf} (encodedKey : toFoundationString cf key = some keyString)
    (encoded : toFoundation cf value = some plist)
    : writeToStorage (some host) state key value
      = (true, (host.writeToStorage state keyString plist).2) := by
  simp [writeToStorage, encodedKey, encoded, stores.writes]

/-- Elsewhere it does nothing. -/
theorem writeToStorage_of_none {host : Option (Host cf State)}
    (fails : toFoundationString cf key = none ∨ toFoundation cf value = none)
    : writeToStorage host state key value = (false, state) := by
  rcases fails with fails | fails
  · simp [writeToStorage, fails]
  · cases encoded : toFoundationString cf key <;> simp [writeToStorage, encoded, fails]

end Lemmas

end Aspl.Storage
