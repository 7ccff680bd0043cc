import Aspl.Storage.Operations
import Mathlib.Tactic.NormNum

/-! An implementation of what `Storage` relies on: CoreFoundation on the characters of strings, and
a host that keeps the property lists in a map.
-/

namespace Aspl.Storage

open CoreAudio

/-- The number of UTF-16 code units of a character. -/
def utf16Length (char : Char) : Nat := if char.val ≤ 0xFFFF then 1 else 2

/-- The UTF-8 bytes of a string. -/
def utf8Bytes (string : List Char) : Bytes := string.flatMap String.utf8EncodeChar

/-- Strings are the characters that their UTF-8 bytes decode to. A number can only be read with the
type that it was created from.
-/
def utf8Foundation : CoreFoundation where
  CFString := List Char
  CFData := Bytes
  CFBoolean := Bool
  CFNumber := Int64 ⊕ Float64Bits
  CFOther := Empty
  cfStringCreateWithCString bytes := bytes.toByteArray.utf8Decode?.map Array.toList
  cfStringGetLength string := (string.map utf16Length).sum
  cfStringGetMaximumSizeForEncoding length := 3 * length
  cfStringGetCString string size :=
    if (utf8Bytes string).length < size then some (cString (utf8Bytes string)) else none
  cfDataCreate := some
  cfDataGetBytes := id
  kCFBooleanTrue := true
  kCFBooleanFalse := false
  cfPropertyListCreateDeepCopy := some
  cfBooleanGetValue := id
  cfNumberCreateSInt64 value := some (.inl value)
  cfNumberCreateFloat64 value := some (.inr value)
  cfNumberGetSInt64 number := number.elim (·, true) (fun _ => (0, false))
  cfNumberGetFloat64 number := number.elim (fun _ => (0, false)) (·, true)

/-- The UTF-8 bytes of a string decode to the string. -/
theorem create_utf8Bytes (string : List Char)
    : utf8Foundation.cfStringCreateWithCString (utf8Bytes string) = some string := by
  have decoded := List.utf8Decode?_utf8Encode (l := string)
  exact (congrArg (Option.map Array.toList) decoded).trans (by simp)

/-- No other bytes do. -/
theorem utf8Bytes_of_create {bytes : Bytes} {string : List Char}
    (created : utf8Foundation.cfStringCreateWithCString bytes = some string)
    : utf8Bytes string = bytes := by
  obtain ⟨chars, decoded, rfl⟩ := Option.map_eq_some_iff.mp created
  have isSome : bytes.toByteArray.utf8Decode?.isSome := by
    rw [decoded]
    rfl
  have encoded := ByteArray.utf8Encode_get_utf8Decode? (h := isSome)
  simp only [decoded, Option.get_some] at encoded
  exact List.toByteArray_inj.mp encoded

/-- UTF-8 takes at most three bytes for each UTF-16 code unit. -/
theorem length_utf8Bytes_le (string : List Char)
    : (utf8Bytes string).length ≤ 3 * (string.map utf16Length).sum := by
  induction string with
  | nil => simp [utf8Bytes]
  | cons char rest ih =>
      have first : (String.utf8EncodeChar char).length ≤ 3 * utf16Length char := by
        rw [String.length_utf8EncodeChar, utf16Length]
        have most := char.utf8Size_le_four
        split
        · next basic =>
            have notFour : char.utf8Size ≠ 4 := by
              intro four
              exact absurd (Char.utf8Size_eq_four_iff.mp four) (UInt32.not_lt.mpr basic)
            omega
        · omega
      rw [utf8Bytes, List.flatMap_cons, List.length_append, List.map_cons, List.sum_cons]
      rw [utf8Bytes] at ih
      omega

theorem utf8Foundation_documented : utf8Foundation.Documented where
  cString bytes string absent created size room := by
    have encoded := utf8Bytes_of_create created
    simp only [utf8Foundation, encoded, if_pos room, (Convert.cString_eq_iff bytes).mpr absent]
  maximumSize bytes string absent created := by
    have bound := length_utf8Bytes_le string
    rw [utf8Bytes_of_create created] at bound
    change (bytes.length : Int) ≤ 3 * ((string.map utf16Length).sum : Nat)
    exact_mod_cast bound
  data := by
    rintro bytes _ ⟨⟩
    rfl
  copy := by
    rintro boolean _ ⟨⟩
    rfl
  booleanTrue := rfl
  booleanFalse := rfl
  sInt64 := by
    rintro value _ ⟨⟩
    rfl
  float64 := by
    rintro value _ ⟨⟩
    rfl

instance utf8Foundation.decidableEqCFString : DecidableEq utf8Foundation.CFString :=
  inferInstanceAs (DecidableEq (List Char))

/-- A host that keeps the property lists in a map. -/
def mapHost : Host utf8Foundation (List Char → Option (CFPropertyList utf8Foundation)) where
  copyFromStorage stored (key : List Char) := (.kAudioHardwareNoError, stored key)
  writeToStorage stored (key : List Char) value :=
    (.kAudioHardwareNoError, Function.update stored key (some value))
  deleteFromStorage stored (key : List Char) :=
    (
      if (stored key).isSome then
        .kAudioHardwareNoError
      else
        .kAudioHardwareUnknownPropertyError,
      Function.update stored key none
    )

theorem mapHost_storesLists : mapHost.StoresLists where
  copies _ _ := rfl
  writes _ _ _ := rfl
  written _ _ _ := Function.update_self ..
  writtenElsewhere _ _ _ _ different := Function.update_of_ne different ..
  deleted _ _ := Function.update_self ..
  deletedElsewhere _ _ _ different := Function.update_of_ne different ..

end Aspl.Storage
