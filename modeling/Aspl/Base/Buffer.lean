import Mathlib.Data.List.Nodup
import Mathlib.Data.List.Range

/-! Stores to a buffer, and values of one size that are stored one after the other as far as there
is room. Nothing here names a program.
-/

namespace Aspl

universe u

/-- A store: where it starts, and what it stores. -/
abbrev Store (Item : Type u) := Nat × List Item

namespace Buffer

variable {Item : Type u} {size room : Nat} {values : List (List Item)}

/-- A buffer after a store. -/
def write (memory : List Item) (store : Store Item) : List Item :=
  memory.take store.1 ++ store.2 ++ memory.drop (store.1 + store.2.length)

/-- The offsets that stores write to, as often as they do. -/
def offsets (stores : List (Store Item)) : List Nat :=
  stores.flatMap (fun store => List.range' store.1 store.2.length)

/-- Values of one size stored one after the other, from the start of the buffer. -/
def consecutive (size : Nat) (values : List (List Item)) : List (Store Item) :=
  values.zipIdx.map (fun (value, index) => (index * size, value))

/-- The values that a buffer with room for some items takes. Either it takes the first ones that
fit, or none unless all of them fit.
-/
def fitting (truncatable : Bool) (size : Nat) (values : List (List Item)) (room : Nat)
    : Option (List (List Item)) :=
  if truncatable then some (values.take (room / size))
  else if room < values.length * size then none
  else some values

-----------------------------------------------------------------------------------------
-- Consecutive stores
-----------------------------------------------------------------------------------------

theorem length_flatten (uniform : ∀ value ∈ values, value.length = size)
    : values.flatten.length = values.length * size := by
  induction values with
  | nil => simp
  | cons value rest ih =>
      rw [List.flatten_cons, List.length_append, uniform value List.mem_cons_self,
        ih (fun other member => uniform other (List.mem_cons_of_mem value member)),
        List.length_cons, Nat.succ_mul, Nat.add_comm]

/-- Consecutive stores write each offset up to their end once, by induction on the values. -/
theorem offsets_consecutive (uniform : ∀ value ∈ values, value.length = size)
    : offsets (consecutive size values) = List.range (values.length * size) := by
  have from_index : ∀ index,
      offsets ((values.zipIdx index).map (fun (value, index) => (index * size, value)))
      = List.range' (index * size) (values.length * size) := by
    induction values with
    | nil => simp [offsets]
    | cons value rest ih =>
        intro index
        have rest_offsets :=
          ih (fun other member => uniform other (List.mem_cons_of_mem value member)) (index + 1)
        rw [offsets] at rest_offsets
        rw [offsets, List.zipIdx_cons, List.map_cons, List.flatMap_cons, rest_offsets,
          uniform value List.mem_cons_self, Nat.succ_mul, List.range'_append_1, List.length_cons,
          Nat.succ_mul, Nat.add_comm size]
  rw [consecutive, from_index, Nat.zero_mul, List.range_eq_range']

/-- Consecutive stores leave the values and, after them, what was in the buffer, by induction on
the values with what is written before them in front.
-/
theorem foldl_write_consecutive (uniform : ∀ value ∈ values, value.length = size)
    (memory : List Item)
    : (consecutive size values).foldl write memory
      = values.flatten ++ memory.drop (values.length * size) := by
  have from_index : ∀ index (front rest : List Item), front.length = index * size →
      ((values.zipIdx index).map (fun (value, index) => (index * size, value))).foldl write
          (front ++ rest)
        = front ++ values.flatten ++ rest.drop (values.length * size) := by
    induction values with
    | nil => simp
    | cons value more ih =>
        intro index front rest isFront
        have isSize := uniform value List.mem_cons_self
        have written : write (front ++ rest) (index * size, value)
            = front ++ value ++ rest.drop size := by
          rw [write, ← isFront, List.take_left, isSize, List.drop_append]
          simp
        rw [List.zipIdx_cons, List.map_cons, List.foldl_cons, written,
          ih (fun other member => uniform other (List.mem_cons_of_mem value member)) (index + 1)
            (front ++ value) (rest.drop size)
            (by rw [List.length_append, isFront, isSize, Nat.succ_mul])]
        rw [List.drop_drop, List.flatten_cons, List.length_cons, Nat.succ_mul,
          Nat.add_comm (more.length * size), List.append_assoc front value, List.append_assoc]
  have whole := from_index 0 [] memory (by simp)
  simpa only [consecutive, List.nil_append] using whole

-----------------------------------------------------------------------------------------
-- What fits
-----------------------------------------------------------------------------------------

/-- What fits is no longer than the buffer. -/
theorem fitting_length {truncatable : Bool} {taken : List (List Item)}
    (fits : fitting truncatable size values room = some taken)
    : taken.length * size ≤ room := by
  rw [fitting] at fits
  split at fits
  · obtain rfl := Option.some.inj fits
    calc
      (values.take (room / size)).length * size
      _ ≤ room / size * size := Nat.mul_le_mul_right size (List.length_take_le _ _)
      _ ≤ room := Nat.div_mul_le_self room size
  · split at fits
    · cases fits
    · obtain rfl := Option.some.inj fits
      omega

/-- What fits is the first values. -/
theorem fitting_take {truncatable : Bool} {taken : List (List Item)}
    (fits : fitting truncatable size values room = some taken)
    : taken = values.take taken.length := by
  rw [fitting] at fits
  split at fits
  · obtain rfl := Option.some.inj fits
    rw [List.length_take, ← List.take_eq_take_min]
  · split at fits
    · cases fits
    · obtain rfl := Option.some.inj fits
      rw [List.take_length]

theorem fitting_uniform {truncatable : Bool} {taken : List (List Item)}
    (fits : fitting truncatable size values room = some taken)
    (uniform : ∀ value ∈ values, value.length = size)
    : taken.length ≤ values.length ∧ ∀ value ∈ taken, value.length = size := by
  rw [fitting_take fits]
  exact ⟨List.length_take_le' _ _, fun value member => uniform value (List.mem_of_mem_take member)⟩

/-- A buffer with room for all values takes all. -/
theorem fitting_whole (size_pos : 0 < size) (enough : values.length * size ≤ room)
    (truncatable : Bool)
    : fitting truncatable size values room = some values := by
  rw [fitting]
  split
  · rw [List.take_of_length_le ((Nat.le_div_iff_mul_le size_pos).mpr enough)]
  · rw [if_neg (Nat.not_lt.mpr enough)]

/-- A buffer without room for all values takes as many as fit. -/
theorem fitting_prefix (size_pos : 0 < size) (short : room < values.length * size)
    : ∃ count,
        count * size ≤ room
        ∧ room < (count + 1) * size
        ∧ count < values.length
        ∧ fitting true size values room = some (values.take count) :=
  ⟨room / size, Nat.div_mul_le_self room size, Nat.lt_mul_of_div_lt (Nat.lt_succ_self _) size_pos,
    (Nat.div_lt_iff_lt_mul size_pos).mpr short, by rw [fitting, if_pos rfl]⟩

/-- Or it takes none. -/
theorem fitting_none (short : room < values.length * size)
    : fitting false size values room = none := by
  rw [fitting, if_neg Bool.false_ne_true, if_pos short]

end Buffer

end Aspl
