import Aspl.Volume.Curve
import Mathlib.Data.List.Induction
import Mathlib.Data.List.Pairwise

/-! `AddRange()` of a curve: it looks for an entry that the new range overlaps, but stops at the
first entry that does not start after the new range. Entries of the map stay apart exactly where
this is enough.
-/

namespace Aspl.Volume

open Arithmetic

variable {K : Type}

namespace VolumeRawPoint

/-- The range has raw values to step through. -/
def Proper (point : VolumeRawPoint) : Prop := point.mMinimum < point.mMaximum

/-- A range ends before another one starts. -/
def Before (x y : VolumeRawPoint) : Prop := x.mMaximum ≤ y.mMinimum

/-- Two ranges overlap unless one is before the other. -/
theorem overlap_eq_false_iff {x y : VolumeRawPoint}
    : x.overlap y = false ↔ y.Before x ∨ x.Before y := by
  simp only [overlap, Before, Bool.and_eq_false_iff, decide_eq_false_iff_not, not_lt]

theorem overlap_comm (x y : VolumeRawPoint) : x.overlap y = y.overlap x :=
  Bool.and_comm ..

end VolumeRawPoint

/-- The entries of a map have proper ranges, each before the next ones. -/
structure Apart (map : CurveMap K) : Prop where
  proper : ∀ entry ∈ map, entry.1.Proper
  ordered : map.Pairwise (fun x y => x.1.Before y.1)

theorem Apart.tail {entry : VolumeRawPoint × VolumeDecibelPoint K} {map : CurveMap K}
    (apart : Apart (entry :: map))
    : Apart map :=
  ⟨fun other member => apart.proper other (List.mem_cons_of_mem _ member), apart.ordered.tail⟩

/-- Each entry starts after the entries in front of it. -/
theorem Apart.less {entry other : VolumeRawPoint × VolumeDecibelPoint K} {map : CurveMap K}
    (apart : Apart (entry :: map)) (member : other ∈ map)
    : entry.1.mMinimum < other.1.mMinimum := by
  have proper := apart.proper entry List.mem_cons_self
  exact lt_of_lt_of_le proper (List.rel_of_pairwise_cons apart.ordered member)

/-- No two entries overlap. -/
theorem Apart.separate {map : CurveMap K} (apart : Apart map)
    : map.Pairwise (fun x y => x.1.overlap y.1 = false) :=
  apart.ordered.imp (fun before => VolumeRawPoint.overlap_eq_false_iff.mpr (.inr before))

theorem Apart.not_overlap {x y : VolumeRawPoint × VolumeDecibelPoint K} {map : CurveMap K}
    (apart : Apart map) (first : x ∈ map) (second : y ∈ map) (different : x ≠ y)
    : x.1.overlap y.1 = false := by
  have symmetric
      : Std.Symm (fun x y : VolumeRawPoint × VolumeDecibelPoint K => x.1.overlap y.1 = false) :=
    ⟨fun x y same => (VolumeRawPoint.overlap_comm y.1 x.1).trans same⟩
  exact apart.separate.forall first second different

/-- Maps with the same entries are the same. -/
theorem Apart.eq_of_perm {map other : CurveMap K} (apart : Apart map) (apart' : Apart other)
    (perm : map.Perm other)
    : map = other := by
  refine perm.eq_of_pairwise ?_ apart.ordered apart'.ordered
  intro x y member member' before after
  have first := apart.proper x member
  have second := apart'.proper y member'
  exact absurd (first.trans_le (before.trans (second.le.trans after))) (lt_irrefl _)

/-- Proper ranges with the same start overlap. -/
theorem overlap_of_same {x y : VolumeRawPoint} (first : x.Proper) (second : y.Proper)
    (same : y.mMinimum = x.mMinimum)
    : x.overlap y = true := by
  rw [VolumeRawPoint.Proper] at first second
  simp [VolumeRawPoint.overlap, same ▸ second, same, first]

variable {theRaw : VolumeRawPoint} {theDB : VolumeDecibelPoint K} {map : CurveMap K}

/-- The loop looks at all entries where the new range starts before them, by induction on the map.
-/
theorem isOverlapped_of_less (first : ∀ entry ∈ map, theRaw.mMinimum < entry.1.mMinimum)
    : isOverlapped theRaw map = map.any (fun entry => theRaw.overlap entry.1) := by
  induction map with
  | nil => rfl
  | cons entry rest ih =>
      have less : theRaw.less entry.1 = true :=
        decide_eq_true (first entry List.mem_cons_self)
      rw [isOverlapped, List.any_cons,
        ih (fun other member => first other (List.mem_cons_of_mem _ member)), less]
      cases theRaw.overlap entry.1 <;> rfl

/-- The loop stops at an entry that does not start after the new range. -/
theorem isOverlapped_of_not_less {entry : VolumeRawPoint × VolumeDecibelPoint K}
    (stops : entry.1.mMinimum ≤ theRaw.mMinimum)
    : isOverlapped theRaw (entry :: map) = theRaw.overlap entry.1 := by
  have notLess : theRaw.less entry.1 = false := decide_eq_false (not_lt.mpr stops)
  rw [isOverlapped, notLess]
  cases theRaw.overlap entry.1 <;> rfl

/-- A range that overlaps no entry is accepted. -/
theorem isOverlapped_of_clear (clear : ∀ entry ∈ map, theRaw.overlap entry.1 = false)
    : isOverlapped theRaw map = false := by
  induction map with
  | nil => rfl
  | cons entry rest ih =>
      rw [isOverlapped, clear entry List.mem_cons_self,
        ih (fun other member => clear other (List.mem_cons_of_mem _ member))]
      cases theRaw.less entry.1 <;> rfl

theorem mem_insertRange_of_mem {entry : VolumeRawPoint × VolumeDecibelPoint K}
    (member : entry ∈ map)
    : entry ∈ insertRange theRaw theDB map := by
  induction map with
  | nil => cases member
  | cons first rest ih =>
      rw [insertRange]
      split
      · exact List.mem_cons_of_mem _ member
      · split
        · rcases List.mem_cons.mp member with rfl | later
          · exact List.mem_cons_self
          · exact List.mem_cons_of_mem _ (ih later)
        · exact member

/-- A range is inserted where no entry starts with it. -/
theorem insertRange_perm (free : ∀ entry ∈ map, entry.1.mMinimum ≠ theRaw.mMinimum)
    : (insertRange theRaw theDB map).Perm ((theRaw, theDB) :: map) := by
  induction map with
  | nil => exact List.Perm.refl _
  | cons first rest ih =>
      rw [insertRange]
      split
      · exact List.Perm.refl _
      · rename_i notLess
        have above : first.1.less theRaw = true := by
          have least := not_lt.mp (fun less => notLess (decide_eq_true less))
          exact decide_eq_true (lt_of_le_of_ne least (free first List.mem_cons_self))
        rw [if_pos above]
        have later := ih (fun entry member => free entry (List.mem_cons_of_mem _ member))
        exact (later.cons first).trans (List.Perm.swap ..)

theorem mem_insertRange_self (free : ∀ entry ∈ map, entry.1.mMinimum ≠ theRaw.mMinimum)
    : (theRaw, theDB) ∈ insertRange theRaw theDB map :=
  (insertRange_perm free).mem_iff.mpr List.mem_cons_self

/-- Nothing is inserted where an entry starts with the new range. -/
theorem insertRange_of_mem (apart : Apart map)
    {entry : VolumeRawPoint × VolumeDecibelPoint K} (member : entry ∈ map)
    (same : entry.1.mMinimum = theRaw.mMinimum)
    : insertRange theRaw theDB map = map := by
  induction map with
  | nil => cases member
  | cons first rest ih =>
      rw [insertRange]
      rcases List.mem_cons.mp member with rfl | later
      · have notLess : ¬ theRaw.less entry.1 = true := by simp [VolumeRawPoint.less, same]
        have notMore : ¬ entry.1.less theRaw = true := by simp [VolumeRawPoint.less, same]
        rw [if_neg notLess, if_neg notMore]
      · have less := apart.less later
        rw [same] at less
        have notLess : ¬ theRaw.less first.1 = true := by
          simp [VolumeRawPoint.less, less.le]
        have more : first.1.less theRaw = true := decide_eq_true less
        rw [if_neg notLess, if_pos more, ih apart.tail later]

/-- What is in the map after an insertion. -/
theorem mem_of_mem_insertRange {entry : VolumeRawPoint × VolumeDecibelPoint K}
    (member : entry ∈ insertRange theRaw theDB map)
    : entry = (theRaw, theDB) ∨ entry ∈ map := by
  induction map with
  | nil => exact .inl (List.mem_singleton.mp member)
  | cons first rest ih =>
      rw [insertRange] at member
      split at member
      · exact List.mem_cons.mp member
      · split at member
        · rcases List.mem_cons.mp member with rfl | later
          · exact .inr List.mem_cons_self
          · rcases ih later with same | old
            · exact .inl same
            · exact .inr (List.mem_cons_of_mem _ old)
        · exact .inr member

/-- Entries stay apart where a range is inserted that overlaps none of them. -/
theorem Apart.insertRange (apart : Apart map) (proper : theRaw.Proper)
    (clear : ∀ entry ∈ map, theRaw.overlap entry.1 = false)
    : Apart (insertRange theRaw theDB map) where
  proper entry member := by
    rcases mem_of_mem_insertRange member with rfl | old
    · exact proper
    · exact apart.proper entry old
  ordered := by
    induction map with
    | nil => exact List.pairwise_singleton ..
    | cons first rest ih =>
        have around :=
          VolumeRawPoint.overlap_eq_false_iff.mp (clear first List.mem_cons_self)
        have properFirst := apart.proper first List.mem_cons_self
        rw [Volume.insertRange]
        split
        · rename_i less
          have before : theRaw.Before first.1 := by
            rcases around with after | before
            · exact absurd (of_decide_eq_true less)
                (not_lt.mpr (properFirst.le.trans after))
            · exact before
          refine List.pairwise_cons.mpr ⟨?_, apart.ordered⟩
          intro entry member
          rcases List.mem_cons.mp member with rfl | later
          · exact before
          · exact le_trans before (apart.less later).le
        · rename_i notLess
          have after : first.1.Before theRaw := by
            rcases around with after | before
            · exact after
            · exact absurd (decide_eq_true (lt_of_lt_of_le proper before)) notLess
          split
          · refine List.pairwise_cons.mpr ⟨?_, ?_⟩
            · intro entry member
              rcases mem_of_mem_insertRange member with rfl | old
              · exact after
              · exact List.rel_of_pairwise_cons apart.ordered old
            · exact ih apart.tail
                (fun entry member => clear entry (List.mem_cons_of_mem _ member))
          · exact apart.ordered

/-- A range slips past the loop: it starts after the first entry, where the loop stops, and overlaps
another one that does not start with it.
-/
def Slips (theRaw : VolumeRawPoint) : CurveMap K → Prop
  | [] => False
  | first :: rest =>
      first.1.Before theRaw
      ∧ (∃ entry ∈ rest, theRaw.overlap entry.1 = true)
      ∧ ∀ entry ∈ rest, entry.1.mMinimum ≠ theRaw.mMinimum

/-- An insertion that keeps the entries apart has not slipped past the loop. -/
theorem Slips.not_apart (slips : Slips theRaw map) (apart : Apart map)
    (theDB : VolumeDecibelPoint K)
    : isOverlapped theRaw map = false ∧ ¬ Apart (insertRange theRaw theDB map) := by
  cases map with
  | nil => exact slips.elim
  | cons first rest =>
      obtain ⟨after, ⟨entry, later, overlaps⟩, free⟩ := slips
      have properFirst := apart.proper first List.mem_cons_self
      constructor
      · rw [isOverlapped_of_not_less (properFirst.le.trans after)]
        exact VolumeRawPoint.overlap_eq_false_iff.mpr (.inl after)
      · intro still
        have unused : ∀ other ∈ first :: rest, other.1.mMinimum ≠ theRaw.mMinimum := by
          intro other member
          rcases List.mem_cons.mp member with rfl | inRest
          · exact (lt_of_lt_of_le properFirst after).ne
          · exact free other inRest
        have inserted : (theRaw, theDB) ∈ insertRange theRaw theDB (first :: rest) :=
          mem_insertRange_self unused
        have kept : entry ∈ insertRange theRaw theDB (first :: rest) :=
          mem_insertRange_of_mem (List.mem_cons_of_mem _ later)
        have different : (theRaw, theDB) ≠ entry := by
          intro same
          exact free entry later (by rw [← same])
        have clear := still.not_overlap inserted kept different
        rw [overlaps] at clear
        cases clear

/-- Where a range does not slip past the loop, it is refused or the entries stay apart. -/
theorem Apart.of_not_slips (apart : Apart map) (proper : theRaw.Proper)
    (caught : ¬ Slips theRaw map) (accepted : isOverlapped theRaw map = false)
    : Apart (Volume.insertRange theRaw theDB map) := by
  cases map with
  | nil => exact apart.insertRange proper (fun _ member => by cases member)
  | cons first rest =>
      by_cases less : theRaw.mMinimum < first.1.mMinimum
      · have least : ∀ entry ∈ first :: rest, theRaw.mMinimum < entry.1.mMinimum := by
          intro entry member
          rcases List.mem_cons.mp member with rfl | later
          · exact less
          · exact less.trans (apart.less later)
        rw [isOverlapped_of_less least] at accepted
        refine apart.insertRange proper ?_
        intro entry member
        exact Bool.eq_false_iff.mpr (List.any_eq_false.mp accepted entry member)
      · rw [isOverlapped_of_not_less (not_lt.mp less)] at accepted
        have after : first.1.Before theRaw := by
          rcases VolumeRawPoint.overlap_eq_false_iff.mp accepted with after | before
          · exact after
          · exact absurd (lt_of_lt_of_le proper before) less
        by_cases taken : ∃ entry ∈ rest, entry.1.mMinimum = theRaw.mMinimum
        · obtain ⟨entry, later, same⟩ := taken
          rw [insertRange_of_mem apart (List.mem_cons_of_mem _ later) same]
          exact apart
        · refine apart.insertRange proper ?_
          intro entry member
          rcases List.mem_cons.mp member with rfl | later
          · exact accepted
          · by_contra overlaps
            refine caught ⟨after, ⟨entry, later, ?_⟩, ?_⟩
            · exact Bool.eq_true_of_not_eq_false overlaps
            · intro other member same
              exact taken ⟨other, member, same⟩

variable [Field K] [LinearOrder K]

/-- The arguments of a call of `AddRange()`. -/
structure RangeCall (K : Type) where
  inMinRaw : SInt32
  inMaxRaw : SInt32
  inMinDB : K
  inMaxDB : K

def RangeCall.raw (call : RangeCall K) : VolumeRawPoint := ⟨call.inMinRaw, call.inMaxRaw⟩

/-- The entry that a call adds to the map. -/
def RangeCall.entry (call : RangeCall K) : VolumeRawPoint × VolumeDecibelPoint K :=
  (call.raw, ⟨call.inMinDB, call.inMaxDB⟩)

namespace VolumeCurve

/-- Calls of `AddRange()` one after the other. -/
def addRanges (curve : VolumeCurve K) (calls : List (RangeCall K)) : VolumeCurve K :=
  calls.foldl
    (fun curve call => curve.addRange call.inMinRaw call.inMaxRaw call.inMinDB call.inMaxDB)
    curve

omit [LinearOrder K] in
/-- A call keeps the entries apart exactly if its range does not slip past the loop. -/
theorem apart_addRange_iff {curve : VolumeCurve K} (apart : Apart curve.mCurveMap)
    (call : RangeCall K) (proper : call.raw.Proper)
    : Apart
          (curve.addRange call.inMinRaw call.inMaxRaw call.inMinDB call.inMaxDB).mCurveMap
      ↔ ¬ Slips call.raw curve.mCurveMap := by
  rw [addRange]
  constructor
  · intro still slips
    obtain ⟨accepted, crossing⟩ := slips.not_apart apart ⟨call.inMinDB, call.inMaxDB⟩
    rw [if_neg (by rw [← RangeCall.raw, accepted]; exact Bool.false_ne_true)] at still
    exact crossing still
  · intro caught
    split
    · exact apart
    · rename_i accepted
      exact apart.of_not_slips proper caught (Bool.eq_false_iff.mpr accepted)

omit [LinearOrder K] in
/-- In any number of calls that start with an empty curve, the entries are apart after each of them
exactly if no range has slipped past the loop.
-/
theorem ranges_apart_iff (calls : List (RangeCall K))
    (proper : ∀ call ∈ calls, call.raw.Proper)
    : (∀ earlier, earlier <+: calls → Apart (addRanges ({} : VolumeCurve K) earlier).mCurveMap)
      ↔ ∀ earlier call,
          earlier ++ [call] <+: calls
          → ¬ Slips call.raw (addRanges ({} : VolumeCurve K) earlier).mCurveMap := by
  have step (earlier : List (RangeCall K)) (call : RangeCall K)
      (begins : earlier ++ [call] <+: calls)
      (apart : Apart (addRanges ({} : VolumeCurve K) earlier).mCurveMap) :
      Apart (addRanges ({} : VolumeCurve K) (earlier ++ [call])).mCurveMap
      ↔ ¬ Slips call.raw (addRanges ({} : VolumeCurve K) earlier).mCurveMap := by
    rw [addRanges, List.foldl_append]
    refine apart_addRange_iff apart call (proper call ?_)
    exact begins.subset (List.mem_append_right _ (List.mem_singleton.mpr rfl))
  constructor
  · intro always earlier call begins
    have before := (List.prefix_append earlier [call]).trans begins
    exact (step earlier call begins (always earlier before)).mp (always _ begins)
  · intro caught earlier
    induction earlier using List.reverseRecOn with
    | nil =>
        intro _
        exact ⟨fun _ member => (by cases member), List.Pairwise.nil⟩
    | append_singleton earlier call ih =>
        intro begins
        have before := (List.prefix_append earlier [call]).trans begins
        exact (step earlier call begins (ih before)).mpr (caught earlier call begins)

omit [LinearOrder K] in
/-- Ranges that overlap no entry and not each other are all added. -/
theorem addRanges_perm {calls : List (RangeCall K)} {curve : VolumeCurve K}
    (proper : ∀ call ∈ calls, call.raw.Proper)
    (separate : calls.Pairwise (fun x y => x.raw.overlap y.raw = false))
    (apart : Apart curve.mCurveMap)
    (clear : ∀ call ∈ calls, ∀ entry ∈ curve.mCurveMap, call.raw.overlap entry.1 = false)
    : Apart (addRanges curve calls).mCurveMap
      ∧ (addRanges curve calls).mCurveMap.Perm
          (calls.map RangeCall.entry ++ curve.mCurveMap) := by
  induction calls generalizing curve with
  | nil => exact ⟨apart, List.Perm.refl _⟩
  | cons call calls ih =>
      have properFirst := proper call List.mem_cons_self
      have clearFirst := clear call List.mem_cons_self
      have added : (curve.addRange call.inMinRaw call.inMaxRaw call.inMinDB call.inMaxDB).mCurveMap
          = insertRange call.raw ⟨call.inMinDB, call.inMaxDB⟩ curve.mCurveMap := by
        have accepted : isOverlapped ⟨call.inMinRaw, call.inMaxRaw⟩ curve.mCurveMap = false :=
          isOverlapped_of_clear clearFirst
        rw [addRange, accepted]
        rfl
      have inserted : (insertRange call.raw ⟨call.inMinDB, call.inMaxDB⟩ curve.mCurveMap).Perm
          (call.entry :: curve.mCurveMap) := by
        refine insertRange_perm ?_
        intro entry member same
        have overlaps : call.raw.overlap entry.1 = true :=
          overlap_of_same properFirst (apart.proper entry member) same
        rw [clearFirst entry member] at overlaps
        cases overlaps
      have clearRest : ∀ other ∈ calls,
          ∀ entry ∈ insertRange call.raw ⟨call.inMinDB, call.inMaxDB⟩ curve.mCurveMap,
            other.raw.overlap entry.1 = false := by
        intro other later entry member
        rcases List.mem_cons.mp (inserted.mem_iff.mp member) with rfl | old
        · rw [VolumeRawPoint.overlap_comm]
          exact List.rel_of_pairwise_cons separate later
        · exact clear other (List.mem_cons_of_mem _ later) entry old
      have still
          : Apart (insertRange call.raw ⟨call.inMinDB, call.inMaxDB⟩ curve.mCurveMap) :=
        apart.insertRange properFirst clearFirst
      rw [← added] at still clearRest inserted
      obtain ⟨ends, perm⟩ :=
        ih (fun other member => proper other (List.mem_cons_of_mem _ member)) separate.tail
          still clearRest
      exact ⟨ends, perm.trans ((inserted.append_left _).trans List.perm_middle)⟩

omit [LinearOrder K] in
/-- Ranges that are apart may be added in any order. -/
theorem addRanges_any_order {calls : List (RangeCall K)} {sorted : CurveMap K}
    (apart : Apart sorted) (order : (calls.map RangeCall.entry).Perm sorted)
    : (addRanges ({} : VolumeCurve K) calls).mCurveMap = sorted := by
  have proper : ∀ call ∈ calls, call.raw.Proper := fun call member =>
    apart.proper call.entry (order.mem_iff.mp (List.mem_map_of_mem member))
  have separate : calls.Pairwise (fun x y => x.raw.overlap y.raw = false) :=
    List.pairwise_map.mp ((apart.separate.perm order.symm) (fun same =>
      (VolumeRawPoint.overlap_comm ..).trans same))
  have empty : Apart ({} : VolumeCurve K).mCurveMap :=
    ⟨fun _ member => (by cases member), List.Pairwise.nil⟩
  obtain ⟨still, perm⟩ :=
    addRanges_perm proper separate empty (fun _ _ _ member => (by cases member))
  rw [List.append_nil] at perm
  exact still.eq_of_perm apart (perm.trans order)

/-- Raw values for the examples. -/
def rawValue (n : Nat) : SInt32 := ⟨(n % 2 ^ 31 : Nat), by omega⟩

/-- Two ranges that are apart. -/
def twoRanges : List (RangeCall ℚ) :=
  [⟨rawValue 0, rawValue 10, 0, 1⟩, ⟨rawValue 20, rawValue 30, 2, 3⟩]

/-- A range that overlaps the second one of them. -/
def thirdRange : RangeCall ℚ := ⟨rawValue 15, rawValue 25, 1, 2⟩

/-- The overlap is not found. -/
theorem ranges_apart_iff_third
    : ¬ ∀ earlier,
        earlier <+: twoRanges ++ [thirdRange]
        → Apart (addRanges ({} : VolumeCurve ℚ) earlier).mCurveMap := by
  have proper : ∀ call ∈ twoRanges ++ [thirdRange], call.raw.Proper := by
    simp [twoRanges, thirdRange, RangeCall.raw, VolumeRawPoint.Proper]
    decide
  intro always
  apply (ranges_apart_iff _ proper).mp always twoRanges thirdRange (List.prefix_refl _)
  refine ⟨?_, ⟨_, List.mem_singleton.mpr rfl, ?_⟩, ?_⟩
  · change rawValue 10 ≤ rawValue 15
    decide
  · decide
  · intro entry member
    rw [List.mem_singleton.mp member]
    decide

end VolumeCurve

end Aspl.Volume
