import Mathlib.Logic.Function.Basic

/-! A map of items that is kept in another map, whose keys and values encode the keys and the
items. Nothing here names a program.
-/

namespace Aspl

universe u v w x

/-- The encoded form of a key, if it has one, and what it means that a stored value reads back
as an item.
-/
structure Encoding (Key : Type u) (Inner : Type v) (Item : Type w) (Stored : Type x) where
  key : Key → Option Inner
  Reads : Stored → Item → Prop

namespace Encoding

variable {Key : Type u} {Inner : Type v} {Item : Type w} {Stored : Type x}
  (encoding : Encoding Key Inner Item Stored)

/-- Every item reads back from the value that is stored under its encoded key. -/
def Holds (lookup : Inner → Option Stored) (written : Key → Option Item) : Prop :=
  ∀ key item,
    written key = some item
    → ∃ inner stored,
        encoding.key key = some inner
        ∧ lookup inner = some stored
        ∧ encoding.Reads stored item

variable {encoding} {lookup next : Inner → Option Stored} {written : Key → Option Item}
  {key : Key} {inner : Inner}

/-- Nothing is written at first. -/
theorem holds_new (lookup : Inner → Option Stored)
    : encoding.Holds lookup (fun _ => none) := by
  intro key item found
  cases found

/-- Items whose encoded keys are not touched read back as before. -/
theorem Holds.untouched (before : encoding.Holds lookup written)
    (elsewhere : ∀ other, other ≠ inner → next other = lookup other) {other : Key} {item : Item}
    (found : written other = some item) (apart : encoding.key other ≠ some inner)
    : ∃ otherInner stored,
        encoding.key other = some otherInner
        ∧ next otherInner = some stored
        ∧ encoding.Reads stored item := by
  obtain ⟨otherInner, stored, encoded, here, reads⟩ := before other item found
  refine ⟨otherInner, stored, encoded, ?_, reads⟩
  rw [elsewhere otherInner, here]
  rintro rfl
  exact apart encoded

variable [DecidableEq Key]

/-- After a value was stored under the encoded key of an item, everything reads back exactly if
the value reads back as this item, and as each item whose key has the same encoded form.
-/
theorem Holds.write_iff (before : encoding.Holds lookup written) {stored : Stored}
    (encoded : encoding.key key = some inner) (here : next inner = some stored)
    (elsewhere : ∀ other, other ≠ inner → next other = lookup other) (item : Item)
    : encoding.Holds next (Function.update written key (some item))
      ↔ encoding.Reads stored item
        ∧ ∀ other otherItem,
            other ≠ key
            → encoding.key other = some inner
            → written other = some otherItem
            → encoding.Reads stored otherItem := by
  have reads_of {other : Key} {otherItem : Item} (same : encoding.key other = some inner)
      (read
        : ∃ otherInner found,
            encoding.key other = some otherInner
            ∧ next otherInner = some found
            ∧ encoding.Reads found otherItem)
      : encoding.Reads stored otherItem := by
    obtain ⟨otherInner, found, encodedOther, there, reads⟩ := read
    obtain rfl := Option.some.inj (same.symm.trans encodedOther)
    obtain rfl := Option.some.inj (here.symm.trans there)
    exact reads
  constructor
  · intro after
    refine ⟨reads_of encoded (after key item (Function.update_self ..)), ?_⟩
    intro other otherItem different same found
    exact reads_of same (after other otherItem (by rwa [Function.update_of_ne different]))
  · rintro ⟨reads, others⟩ other otherItem found
    by_cases isKey : other = key
    · subst isKey
      rw [Function.update_self] at found
      obtain rfl := Option.some.inj found
      exact ⟨inner, stored, encoded, here, reads⟩
    · rw [Function.update_of_ne isKey] at found
      by_cases same : encoding.key other = some inner
      · exact ⟨inner, stored, same, here, others other otherItem isKey same found⟩
      · exact before.untouched elsewhere found same

/-- After the value under the encoded key of an item was erased, everything reads back exactly
if nothing else is written whose key has the same encoded form.
-/
theorem Holds.erase_iff (before : encoding.Holds lookup written)
    (encoded : encoding.key key = some inner) (here : next inner = none)
    (elsewhere : ∀ other, other ≠ inner → next other = lookup other)
    : encoding.Holds next (Function.update written key none)
      ↔ ∀ other, other ≠ key → encoding.key other = some inner → written other = none := by
  constructor
  · intro after other different same
    cases found : written other with
    | none => rfl
    | some item =>
        obtain ⟨otherInner, stored, encodedOther, there, -⟩ :=
          after other item (by rwa [Function.update_of_ne different])
        obtain rfl := Option.some.inj (same.symm.trans encodedOther)
        rw [here] at there
        cases there
  · intro others other item found
    by_cases isKey : other = key
    · subst isKey
      rw [Function.update_self] at found
      cases found
    · rw [Function.update_of_ne isKey] at found
      refine before.untouched elsewhere found ?_
      intro same
      rw [others other isKey same] at found
      cases found

/-- Forgetting an item changes nothing for the others. -/
theorem Holds.forget (before : encoding.Holds lookup written) (key : Key)
    : encoding.Holds lookup (Function.update written key none) := by
  intro other item found
  by_cases isKey : other = key
  · subst isKey
    rw [Function.update_self] at found
    cases found
  · rw [Function.update_of_ne isKey] at found
    exact before other item found

end Encoding

end Aspl
