import Aspl.Storage.Implementation

/-! `Storage` as a typed map from strings to values: what was written under a key is read back.
The map and its keys are encoded in property lists and keys of CoreFoundation, and so what is lost
is lost in the encoding.
-/

namespace Aspl.Storage.TypedMap

open CoreAudio
open Aspl.Storage.Convert

/-- A call of a method of `Storage`. -/
inductive Call where
  | write (key : Bytes) (value : TypedValue)
  | delete (key : Bytes)
  | read (type : ValueType) (key : Bytes)

/-- The state of the host, and the typed map: the value of the last write under each key that
returned true, until the key is deleted.
-/
structure History (State : Type) where
  state : State
  written : Bytes → Option TypedValue := fun _ => none

section Runs

variable {cf : CoreFoundation} {State : Type} (host : Host cf State)

/-- What a call leaves behind. -/
def perform (history : History State) : Call → History State
  | .write key value =>
      let result := writeToStorage (some host) history.state key value
      {
        state := result.2
        written :=
          if result.1 then
            Function.update history.written key (some value)
          else
            history.written
      }
  | .delete key =>
      {
        state := (deleteFromStorage (some host) history.state key).2
        written := Function.update history.written key none
      }
  | .read _ _ => history

/-- Each written value is read back with its type, and a read that fails returns the default. -/
structure ReadsBack (history : History State) : Prop where
  exact
    : ∀ key value,
        history.written key = some value
        → copyFromStorage (some host) history.state value.type key = (value.value, true)
  default
    : ∀ type key,
        (copyFromStorage (some host) history.state type key).2 = false
        → (copyFromStorage (some host) history.state type key).1 = type.default

/-- It is so before the first call and after each one. -/
def AlwaysReadsBack : History State → List Call → Prop
  | history, [] => ReadsBack host history
  | history, call :: rest =>
      ReadsBack host history ∧ AlwaysReadsBack (perform host history call) rest

/-- A call loses nothing: a write of a value that can be encoded, under a key that can be encoded,
is not of a string with a NUL, and what it stores also reads back as the value of any other
written key that agrees with its key as far as the first NUL; and no other written key agrees
in this way with the key of a deletion.
-/
def Lossless (cf : CoreFoundation) (history : History State) : Call → Prop
  | .write key value =>
      ∀ keyString plist,
        toFoundationString cf key = some keyString
        → toFoundation cf value = some plist
        → NulFree value
          ∧ ∀ other otherValue,
              other ≠ key
              → cString other = cString key
              → history.written other = some otherValue
              → Reads plist otherValue
  | .delete key =>
      ∀ other, other ≠ key → cString other = cString key → history.written other = none
  | .read _ _ => True

/-- Each call of a run loses nothing. -/
def AlwaysLossless : History State → List Call → Prop
  | _, [] => True
  | history, call :: rest =>
      Lossless cf history call ∧ AlwaysLossless (perform host history call) rest

end Runs

-----------------------------------------------------------------------------------------
-- One call
-----------------------------------------------------------------------------------------

section Steps

variable {cf : CoreFoundation} {State : Type} {host : Host cf State} {history : History State}

/-- The typed map is encoded in what the host stores. -/
def encoding (cf : CoreFoundation)
    : Encoding Bytes cf.CFString TypedValue (CFPropertyList cf) where
  key := toFoundationString cf
  Reads := Reads

/-- Reading back is what it means that the stored property lists hold the typed map. -/
theorem readsBack_iff (stores : host.StoresLists)
    : ReadsBack host history
      ↔ (encoding cf).Holds (host.lookup history.state) history.written := by
  constructor
  · intro back key value found
    exact (copyFromStorage_iff stores _ key value).mp (back.exact key value found)
  · intro holds
    exact {
      exact :=
        fun key value found =>
          (copyFromStorage_iff stores _ key value).mpr (holds key value found)
      default := fun type key fails => default_of_copyFails fails
    }

/-- What it means that a write loses nothing where the key and the value can be encoded. -/
theorem lossless_write_iff {key : Bytes} {value : TypedValue} {keyString : cf.CFString}
    {plist : CFPropertyList cf} (encodedKey : toFoundationString cf key = some keyString)
    (encoded : toFoundation cf value = some plist)
    : Lossless cf history (.write key value)
      ↔ NulFree value
        ∧ ∀ other otherValue,
            other ≠ key
            → cString other = cString key
            → history.written other = some otherValue
            → Reads plist otherValue := by
  constructor
  · intro lossless
    exact lossless keyString plist encodedKey encoded
  · intro lossless _ otherPlist _ encodedAgain
    obtain rfl := Option.some.inj (encoded.symm.trans encodedAgain)
    exact lossless

/-- A write keeps what is read back exactly if it loses nothing. -/
theorem ReadsBack.write_iff (documented : cf.Documented) (stores : host.StoresLists)
    (back : ReadsBack host history) (key : Bytes) (value : TypedValue)
    : ReadsBack host (perform host history (.write key value))
      ↔ Lossless cf history (.write key value) := by
  cases encodedKey : toFoundationString cf key with
  | none =>
      simpa [perform, Lossless, writeToStorage_of_none (.inl encodedKey), encodedKey] using back
  | some keyString =>
      cases encoded : toFoundation cf value with
      | none =>
          simpa [perform, Lossless, writeToStorage_of_none (.inr encoded), encoded] using back
      | some plist =>
          have holds :=
            ((readsBack_iff stores).mp back).write_iff encodedKey
              (stores.written history.state keyString plist)
              (stores.writtenElsewhere history.state keyString plist) value
          simp only [readsBack_iff stores, perform,
            writeToStorage_eq stores encodedKey encoded, if_true]
          refine holds.trans ?_
          simp only [lossless_write_iff encodedKey encoded, encoding,
            toFoundationString_eq_iff documented encodedKey, reads_iff documented encoded]

/-- A deletion keeps what is read back exactly if it loses nothing. -/
theorem ReadsBack.delete_iff (documented : cf.Documented) (stores : host.StoresLists)
    (back : ReadsBack host history) (key : Bytes)
    : ReadsBack host (perform host history (.delete key))
      ↔ Lossless cf history (.delete key) := by
  have holds := (readsBack_iff stores).mp back
  cases encodedKey : toFoundationString cf key with
  | none =>
      refine iff_of_true ?_ ?_
      · refine (readsBack_iff stores).mpr ?_
        simpa [perform, deleteFromStorage, encodedKey] using holds.forget key
      · intro other _ same
        cases found : history.written other with
        | none => rfl
        | some value =>
            obtain ⟨otherString, _, encodedOther, _⟩ := holds other value found
            have encodedHere : toFoundationString cf key = some otherString := by
              rw [toFoundationString, ← same]
              exact encodedOther
            rw [encodedKey] at encodedHere
            cases encodedHere
  | some keyString =>
      have erased :=
        holds.erase_iff encodedKey (stores.deleted history.state keyString)
          (stores.deletedElsewhere history.state keyString)
      simp only [readsBack_iff stores, perform, deleteFromStorage, encodedKey]
      refine erased.trans ?_
      simp only [Lossless, encoding, toFoundationString_eq_iff documented encodedKey]

/-- A call keeps what is read back exactly if it loses nothing. -/
theorem ReadsBack.perform_iff (documented : cf.Documented) (stores : host.StoresLists)
    (back : ReadsBack host history) (call : Call)
    : ReadsBack host (perform host history call) ↔ Lossless cf history call := by
  cases call with
  | write key value => exact back.write_iff documented stores key value
  | delete key => exact back.delete_iff documented stores key
  | read type key => exact iff_of_true back trivial

end Steps

-----------------------------------------------------------------------------------------
-- Runs
-----------------------------------------------------------------------------------------

section Theorem

variable {cf : CoreFoundation} {State : Type} {host : Host cf State}

/-- By induction on the calls; each state of the run is where the next call starts. -/
theorem ReadsBack.always_iff (documented : cf.Documented) (stores : host.StoresLists)
    {history : History State} (back : ReadsBack host history) (calls : List Call)
    : AlwaysReadsBack host history calls ↔ AlwaysLossless host history calls := by
  induction calls generalizing history with
  | nil => exact iff_of_true back trivial
  | cons call rest ih =>
      constructor
      · rintro ⟨-, after⟩
        have next : ReadsBack host (perform host history call) := by
          cases rest with
          | nil => exact after
          | cons _ _ => exact after.1
        exact ⟨(back.perform_iff documented stores call).mp next, (ih next).mp after⟩
      · rintro ⟨lossless, after⟩
        have next := (back.perform_iff documented stores call).mpr lossless
        exact ⟨back, (ih next).mpr after⟩

/-- In every run, from whatever the host has stored before, `Storage` is a typed map in all states
exactly if no call loses anything.
-/
theorem typed_map_iff (documented : cf.Documented) (stores : host.StoresLists) (state : State)
    (calls : List Call)
    : AlwaysReadsBack host { state } calls ↔ AlwaysLossless host { state } calls :=
  ((readsBack_iff stores).mpr (Encoding.holds_new _)).always_iff documented stores calls

end Theorem

-----------------------------------------------------------------------------------------
-- Calls without NULs
-----------------------------------------------------------------------------------------

/-- Neither the key nor a string value has a NUL. -/
def Call.NulFree : Call → Prop
  | .write key value => 0 ∉ key ∧ Convert.NulFree value
  | .delete key => 0 ∉ key
  | .read _ _ => True

section NulFree

variable {cf : CoreFoundation} {State : Type} {host : Host cf State} {history : History State}

/-- Keys without NULs agree as far as their first NULs only where they are equal. -/
theorem eq_of_cString_eq {key other : Bytes} (here : 0 ∉ key) (there : 0 ∉ other)
    (same : cString other = cString key)
    : other = key := by
  rwa [(cString_eq_iff other).mpr there, (cString_eq_iff key).mpr here] at same

/-- Where all written keys have no NUL, neither does a call without NULs lose anything. -/
theorem lossless_of_nulFree (keys : ∀ key value, history.written key = some value → 0 ∉ key)
    {call : Call} (nulFree : call.NulFree)
    : Lossless cf history call := by
  cases call with
  | write key value =>
      intro keyString plist _ _
      refine ⟨nulFree.2, ?_⟩
      intro other otherValue different same found
      exact absurd (eq_of_cString_eq nulFree.1 (keys other otherValue found) same) different
  | delete key =>
      intro other different same
      cases found : history.written other with
      | none => rfl
      | some value =>
          exact absurd (eq_of_cString_eq nulFree (keys other value found) same) different
  | read type key => trivial

/-- A call without NULs writes no key with a NUL. -/
theorem keys_perform (keys : ∀ key value, history.written key = some value → 0 ∉ key)
    {call : Call} (nulFree : call.NulFree)
    : ∀ key value, (perform host history call).written key = some value → 0 ∉ key := by
  intro other otherValue found
  cases call with
  | write key value =>
      by_cases here : other = key
      · subst here
        exact nulFree.1
      · refine keys other otherValue ?_
        simp only [perform] at found
        split at found
        · rwa [Function.update_of_ne here] at found
        · exact found
  | delete key =>
      by_cases here : other = key
      · subst here
        exact nulFree
      · refine keys other otherValue ?_
        simp only [perform, Function.update_of_ne here] at found
        exact found
  | read type key => exact keys other otherValue found

/-- Calls without NULs lose nothing. -/
theorem alwaysLossless_of_nulFree
    (keys : ∀ key value, history.written key = some value → 0 ∉ key) {calls : List Call}
    (nulFree : ∀ call ∈ calls, call.NulFree)
    : AlwaysLossless host history calls := by
  induction calls generalizing history with
  | nil => trivial
  | cons call rest ih =>
      have first := nulFree call List.mem_cons_self
      exact ⟨
        lossless_of_nulFree keys first,
        ih (keys_perform keys first)
          (fun later member => nulFree later (List.mem_cons_of_mem call member))
      ⟩

end NulFree

-----------------------------------------------------------------------------------------
-- Runs on the implementation
-----------------------------------------------------------------------------------------

/-- `"a"`, `"k"` and `"a"` with a NUL and a `'b'` after it. -/
def plainKey : Bytes := [97]

@[inherit_doc plainKey]
def otherKey : Bytes := [107]

@[inherit_doc plainKey]
def nulKey : Bytes := [97, 0, 98]

/-- A string and a number are written, the number is deleted, and the string is still there. -/
theorem typed_map_two_keys
    : AlwaysReadsBack mapHost { state := fun _ => none } [
        .write plainKey ⟨.string, otherKey⟩,
        .write otherKey ⟨.int, 5⟩,
        .delete otherKey
      ] := by
  refine (typed_map_iff utf8Foundation_documented mapHost_storesLists _ _).mpr ?_
  refine alwaysLossless_of_nulFree (fun key value found => ?_) ?_
  · cases found
  · intro call member
    simp only [List.mem_cons, List.not_mem_nil, or_false] at member
    rcases member with rfl | rfl | rfl <;> simp [Call.NulFree, NulFree, plainKey, otherKey]

theorem encoded_plainKey : toFoundationString utf8Foundation plainKey = some ['a'] :=
  create_utf8Bytes ['a']

theorem encoded_otherKey : toFoundationString utf8Foundation otherKey = some ['k'] :=
  create_utf8Bytes ['k']

theorem encoded_nulKey : toFoundationString utf8Foundation nulKey = some ['a'] :=
  create_utf8Bytes ['a']

/-- A key with a NUL overwrites the number under another key, and a string with a NUL is cut off;
all of the writes return true.
-/
theorem nul_is_lost
    : ¬ AlwaysReadsBack mapHost { state := fun _ => none } [
        .write plainKey ⟨.int, 5⟩,
        .write nulKey ⟨.int, 6⟩
      ]
      ∧ ¬ AlwaysReadsBack mapHost { state := fun _ => none } [
        .write otherKey ⟨.string, nulKey⟩
      ]
      ∧ readString (some mapHost)
          (writeString (some mapHost) (fun _ => none) otherKey nulKey).2 otherKey
        = (plainKey, true) := by
  have new : ReadsBack mapHost { state := fun _ => none } :=
    (readsBack_iff mapHost_storesLists).mpr (Encoding.holds_new _)
  have always_iff := new.always_iff utf8Foundation_documented mapHost_storesLists
  let cut : CFPropertyList utf8Foundation := .string ['a']
  have encoded : toFoundation utf8Foundation ⟨.string, nulKey⟩ = some cut :=
    congrArg (Option.map _) encoded_nulKey
  refine ⟨?_, ?_, ?_⟩
  · rw [always_iff]
    rintro ⟨-, lossless, -⟩
    have overwritten :=
      (lossless _ _ encoded_nulKey rfl).2 plainKey ⟨.int, 5⟩ (by decide) (by decide) (by
        rw [perform, writeToStorage_eq mapHost_storesLists encoded_plainKey rfl]
        rfl)
    exact absurd overwritten (by simp [Reads, fromFoundation, numberOrZero, utf8Foundation])
  · rw [always_iff]
    rintro ⟨lossless, -⟩
    have nulFree := (lossless _ _ encoded_otherKey encoded).1
    exact nulFree (by decide)
  · have read : Reads cut ⟨.string, plainKey⟩ :=
      fromFoundationString_eq utf8Foundation_documented encoded_plainKey
    have stored := mapHost_storesLists.written (fun _ => none) ['k'] cut
    rw [writeString, writeToStorage_eq mapHost_storesLists encoded_otherKey encoded]
    exact (copyFromStorage_iff mapHost_storesLists _ otherKey ⟨.string, plainKey⟩).mpr
      ⟨['k'], cut, encoded_otherKey, stored, read⟩

end Aspl.Storage.TypedMap
