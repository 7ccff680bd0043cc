import Mathlib.Data.Multiset.AddSub
import Mathlib.Data.Multiset.Filter

/-! Reference counting: the references that holders have to shared objects, as the owners of
`std::shared_ptr` control blocks. The count of an object is the number of references to it.
-/

namespace Aspl

universe u v

/-- The references that exist, each with its holder; a holder may hold several. -/
abbrev References (Holder : Type u) (Object : Type v) := Multiset (Holder × Object)

namespace References

variable {Holder : Type u} {Object : Type v} [DecidableEq Holder] [DecidableEq Object]

/-- `use_count()`: the object is destroyed when it drops to zero. -/
def count (references : References Holder Object) (object : Object) : Nat :=
  references.countP (fun reference => reference.2 = object)

def acquire (references : References Holder Object) (holder : Holder) (object : Object)
    : References Holder Object :=
  (holder, object) ::ₘ references

def release (references : References Holder Object) (holder : Holder) (object : Object)
    : References Holder Object :=
  references.erase (holder, object)

/-- Release every reference that a holder has to an object. -/
def releaseAll (references : References Holder Object) (holder : Holder) (object : Object)
    : References Holder Object :=
  references.filter (fun reference => reference ≠ (holder, object))

omit [DecidableEq Holder] in
/-- An object with a reference has a nonzero count. -/
theorem count_ne_zero_iff {references : References Holder Object} {object : Object}
    : references.count object ≠ 0 ↔ ∃ holder, (holder, object) ∈ references := by
  rw [count, ← Nat.pos_iff_ne_zero, Multiset.countP_pos]
  constructor
  · intro ⟨⟨holder, other⟩, member, same⟩
    exact ⟨holder, same ▸ member⟩
  · intro ⟨holder, member⟩
    exact ⟨_, member, rfl⟩

omit [DecidableEq Holder] [DecidableEq Object] in
@[simp] theorem mem_acquire {references : References Holder Object} {holder other : Holder}
    {object held : Object}
    : (other, held) ∈ references.acquire holder object
      ↔ (other = holder ∧ held = object) ∨ (other, held) ∈ references := by
  rw [acquire, Multiset.mem_cons, Prod.mk.injEq]

omit [DecidableEq Holder] [DecidableEq Object] in
theorem mem_acquire_of_mem {references : References Holder Object} {holder other : Holder}
    {object held : Object} (member : (other, held) ∈ references)
    : (other, held) ∈ references.acquire holder object :=
  mem_acquire.mpr (Or.inr member)

/-- Releasing a reference leaves those of other holders. -/
theorem mem_release_of_holder {references : References Holder Object} {holder other : Holder}
    {object held : Object} (member : (other, held) ∈ references) (different : other ≠ holder)
    : (other, held) ∈ references.release holder object :=
  (Multiset.mem_erase_of_ne (fun same => different (Prod.mk.inj same).1)).mpr member

/-- Releasing a reference leaves those to other objects. -/
theorem mem_release_of_object {references : References Holder Object} {holder other : Holder}
    {object held : Object} (member : (other, held) ∈ references) (different : held ≠ object)
    : (other, held) ∈ references.release holder object :=
  (Multiset.mem_erase_of_ne (fun same => different (Prod.mk.inj same).2)).mpr member

/-- Releasing all references of a holder to an object leaves those of other holders. -/
theorem mem_releaseAll_of_holder {references : References Holder Object}
    {holder other : Holder} {object held : Object} (member : (other, held) ∈ references)
    (different : other ≠ holder)
    : (other, held) ∈ references.releaseAll holder object :=
  Multiset.mem_filter.mpr ⟨member, fun same => different (Prod.mk.inj same).1⟩

/-- Releasing all references of a holder to an object leaves those to other objects. -/
theorem mem_releaseAll_of_object {references : References Holder Object}
    {holder other : Holder} {object held : Object} (member : (other, held) ∈ references)
    (different : held ≠ object)
    : (other, held) ∈ references.releaseAll holder object :=
  Multiset.mem_filter.mpr ⟨member, fun same => different (Prod.mk.inj same).2⟩

omit [DecidableEq Holder] in
/-- Counts of separate references add up. -/
theorem count_add (first second : References Holder Object) (object : Object)
    : count (first + second) object = first.count object + second.count object :=
  Multiset.countP_add _ _ _

/-- Releasing a reference takes one from the count of its object, and from no other. -/
theorem count_eq_release {references : References Holder Object} {holder : Holder}
    {object : Object} (member : (holder, object) ∈ references) (other : Object)
    : references.count other
      = (references.release holder object).count other + if object = other then 1 else 0 := by
  have restored : (holder, object) ::ₘ references.release holder object = references :=
    Multiset.cons_erase member
  refine (congrArg (count · other) restored).symm.trans ?_
  rw [count, Multiset.countP_cons, count]

/-- Releasing a reference takes one from the count of its object. -/
theorem count_release {references : References Holder Object} {holder : Holder}
    {object : Object} (member : (holder, object) ∈ references)
    : references.count object = (references.release holder object).count object + 1 := by
  rw [count_eq_release member, if_pos rfl]

/-- Releasing a reference that is not the last one to its object leaves one. -/
theorem exists_mem_release {references : References Holder Object} {holder : Holder}
    {object : Object} (member : (holder, object) ∈ references)
    (more : references.count object ≠ 1)
    : ∃ other, (other, object) ∈ references.release holder object := by
  have counted := count_release member
  exact count_ne_zero_iff.mp (by omega)

/-- Two holders of an object have two references to it. -/
theorem count_ne_one_of_holders {references : References Holder Object} {first second : Holder}
    {object : Object} (firstMember : (first, object) ∈ references)
    (secondMember : (second, object) ∈ references) (different : second ≠ first)
    : references.count object ≠ 1 := by
  have counted := count_release firstMember
  have remains : (second, object) ∈ references.release first object :=
    mem_release_of_holder secondMember different
  have nonzero := count_ne_zero_iff.mpr ⟨second, remains⟩
  omega

omit [DecidableEq Holder] in
/-- More references have greater counts. -/
theorem count_mono {references more : References Holder Object} (object : Object)
    (grows : references ≤ more)
    : references.count object ≤ more.count object :=
  Multiset.countP_le_of_le _ grows

/-- Releasing all references to an object does not change the counts of others. -/
theorem count_releaseAll_of_object {references : References Holder Object} {holder : Holder}
    {object other : Object} (different : other ≠ object)
    : (references.releaseAll holder object).count other = references.count other := by
  rw [count, releaseAll, Multiset.countP_filter, count]
  refine Multiset.countP_congr rfl (fun reference _ => ?_)
  refine propext (and_iff_left_of_imp (fun same this => different ?_))
  rw [← same, this]

end References

end Aspl
