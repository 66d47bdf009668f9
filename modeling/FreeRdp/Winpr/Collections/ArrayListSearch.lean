import FreeRdp.Library.Search
import FreeRdp.Winpr.Collections.ArrayList

/-!
# Searches in array lists

`ArrayList_IndexOf` and `ArrayList_LastIndexOf` look at a range of slots that the size of the list
does not bound. Behind the list they find what was removed.
-/

namespace FreeRdp

/-- The range of slots of a search: the first one and their number, unless `startIndex + count` is
too large for an `int`. -/
def searchSlots (l : Slots Nat) (startIndex count : Int) : Option (Nat × Nat) :=
  let startIndex := if startIndex < 0 then 0 else startIndex
  let count := if count < 0 then (l.size : Int) else count
  if INT_MAX < startIndex + count then none else some (startIndex.toNat, count.toNat)

/-- `ArrayList_IndexOf`: the index, and the slots it looks at. -/
def arrayListIndexOf (fnObjectEquals : Nat → Nat → Bool) (l : Slots Nat) (obj : Nat)
    (startIndex count : Int) : Option (Int × List Nat) :=
  (searchSlots l startIndex count).map fun (startIndex, count) =>
    let (found, inspected) := searchUp (fun i => fnObjectEquals (l.cell i) obj) count startIndex
    (indexOrNone found, inspected)

/-- `ArrayList_LastIndexOf`: the index, and the slots it looks at. -/
def arrayListLastIndexOf (fnObjectEquals : Nat → Nat → Bool) (l : Slots Nat) (obj : Nat)
    (startIndex count : Int) : Option (Int × List Nat) :=
  (searchSlots l startIndex count).map fun (startIndex, count) =>
    let (found, inspected) := searchDown (fun i => fnObjectEquals (l.cell i) obj) startIndex count
    (indexOrNone found, inspected)

variable {realloc : Malloc} {fnObjectEquals : Nat → Nat → Bool} {l : Slots Nat} {xs : List Nat}
  {obj : Nat} {startIndex count : Int}

/-! ### The lists that are meant -/

/-- The object is at an index of the list. -/
def MatchAt (fnObjectEquals : Nat → Nat → Bool) (xs : List Nat) (obj : Nat) (i : Nat) : Prop :=
  ∃ a, xs[i]? = some a ∧ fnObjectEquals a obj = true

/-- The indices of a search that have the object: from `startIndex` on, `count` many, or to the end
of the list if that is negative. -/
def searchedMatches (fnObjectEquals : Nat → Nat → Bool) (xs : List Nat) (obj : Nat)
    (startIndex count : Int) : Set Nat :=
  {i | startIndex ≤ i ∧ (i : Int) < (if count < 0 then (xs.length : Int)
    else min (startIndex + count) xs.length) ∧ MatchAt fnObjectEquals xs obj i}

/-- A search up that respects the list. -/
def IndexOfRespects (fnObjectEquals : Nat → Nat → Bool) (l : Slots Nat) (xs : List Nat) (obj : Nat)
    (startIndex count : Int) : Prop :=
  ∃ index inspected, arrayListIndexOf fnObjectEquals l obj startIndex count =
      some (index, inspected) ∧
    IsFirst (searchedMatches fnObjectEquals xs obj startIndex count) index ∧
    ∀ i ∈ inspected, i < xs.length

/-- A search down that respects the list. -/
def LastIndexOfRespects (fnObjectEquals : Nat → Nat → Bool) (l : Slots Nat) (xs : List Nat)
    (obj : Nat) (startIndex count : Int) : Prop :=
  ∃ index inspected, arrayListLastIndexOf fnObjectEquals l obj startIndex count =
      some (index, inspected) ∧
    IsLast (searchedMatches fnObjectEquals xs obj startIndex count) index ∧
    ∀ i ∈ inspected, i < xs.length

/-- The number of slots of a search. -/
def slotCount (xs : List Nat) (count : Int) : Int := if count < 0 then xs.length else count

/-- Every search up that respects the list: its range ends in the list, or it finds the object
before it leaves the list; and if `startIndex` is negative, it does not find the object behind the
range that is meant. -/
def IndexOfInList (fnObjectEquals : Nat → Nat → Bool) (xs : List Nat) (obj : Nat)
    (startIndex count : Int) : Prop :=
  max startIndex 0 + slotCount xs count ≤ INT_MAX ∧
    (slotCount xs count = 0 ∨ max startIndex 0 + slotCount xs count ≤ xs.length ∨
      ∃ i : Nat, startIndex ≤ i ∧ MatchAt fnObjectEquals xs obj i) ∧
    (startIndex < 0 → 0 ≤ count →
      (∃ i : Nat, (i : Int) < count ∧ MatchAt fnObjectEquals xs obj i) →
      ∃ i : Nat, (i : Int) < startIndex + count ∧ MatchAt fnObjectEquals xs obj i)

/-- Every search down that respects the list: its range ends in the list; and if `startIndex` is
negative, the object is not behind the range that is meant. -/
def LastIndexOfInList (fnObjectEquals : Nat → Nat → Bool) (xs : List Nat) (obj : Nat)
    (startIndex count : Int) : Prop :=
  max startIndex 0 + slotCount xs count ≤ INT_MAX ∧
    (slotCount xs count = 0 ∨ max startIndex 0 + slotCount xs count ≤ xs.length) ∧
    (startIndex < 0 → 0 ≤ count →
      ∀ i : Nat, (i : Int) < count → MatchAt fnObjectEquals xs obj i →
        (i : Int) < startIndex + count)

lemma matchAt_iff {i : Nat} (hitems : l.items = xs) : MatchAt fnObjectEquals xs obj i ↔
    i < xs.length ∧ fnObjectEquals (l.cell i) obj = true := by
  subst hitems
  rw [MatchAt, Slots.length_items]
  constructor
  · rintro ⟨a, hget, hequals⟩
    obtain ⟨hi, rfl⟩ := List.getElem?_eq_some_iff.mp hget
    rw [Slots.getElem_items] at hequals
    exact ⟨by rwa [Slots.length_items] at hi, hequals⟩
  · rintro ⟨hi, hequals⟩
    refine ⟨l.cell i, ?_, hequals⟩
    rw [List.getElem?_eq_getElem (by rwa [Slots.length_items]), Slots.getElem_items]

/-- The range of slots, as natural numbers. -/
lemma searchSlots_eq (hitems : l.items = xs) (startIndex count : Int) : ∃ s c : Nat,
    (s : Int) = max startIndex 0 ∧ (c : Int) = slotCount xs count ∧
    searchSlots l startIndex count = if INT_MAX < (s : Int) + c then none else some (s, c) := by
  subst hitems
  have hstart : (if startIndex < 0 then 0 else startIndex) = max startIndex 0 := by
    split <;> omega
  have hcount : (if count < 0 then (l.size : Int) else count) = slotCount l.items count := by
    rw [slotCount, Slots.length_items]
  obtain ⟨s, hs⟩ : ∃ s : Nat, (s : Int) = max startIndex 0 := ⟨(max startIndex 0).toNat, by omega⟩
  obtain ⟨c, hc⟩ : ∃ c : Nat, (c : Int) = slotCount l.items count := by
    refine ⟨(slotCount l.items count).toNat, ?_⟩
    unfold slotCount
    split <;> omega
  refine ⟨s, c, hs, hc, ?_⟩
  rw [searchSlots, hstart, hcount, ← hs, ← hc, Int.toNat_natCast, Int.toNat_natCast]

/-- The places of the search, and those that are meant, which are a lower part of them. -/
lemma searchedMatches_lower {s c : Nat} (hitems : l.items = xs) (hs : (s : Int) = max startIndex 0)
    (hc : (c : Int) = slotCount xs count) :
    searchedMatches fnObjectEquals xs obj startIndex count ⊆
        placesOf (fun i => fnObjectEquals (l.cell i) obj) s c ∧
      ∀ i ∈ searchedMatches fnObjectEquals xs obj startIndex count,
        ∀ j ∈ placesOf (fun i => fnObjectEquals (l.cell i) obj) s c,
          j < i → j ∈ searchedMatches fnObjectEquals xs obj startIndex count := by
  unfold slotCount at hc
  constructor
  · rintro i ⟨hle, hlt, hmatch⟩
    obtain ⟨hlength, hequals⟩ := (matchAt_iff hitems).mp hmatch
    refine ⟨by omega, ?_, hequals⟩
    split_ifs at hlt hc <;> omega
  · rintro i ⟨hle, hlt, hmatch⟩ j ⟨hjle, -, hjequals⟩ hji
    obtain ⟨hlength, -⟩ := (matchAt_iff hitems).mp hmatch
    refine ⟨by omega, ?_, (matchAt_iff hitems).mpr ⟨by omega, hjequals⟩⟩
    split_ifs at hlt ⊢ <;> omega

/-- A search up, by the slots it looks at. -/
lemma indexOfRespects_slots {s c : Nat} (hitems : l.items = xs) (hs : (s : Int) = max startIndex 0)
    (hc : (c : Int) = slotCount xs count)
    (hslots : searchSlots l startIndex count =
      if INT_MAX < (s : Int) + c then none else some (s, c)) :
    IndexOfRespects fnObjectEquals l xs obj startIndex count ↔
      (s : Int) + c ≤ INT_MAX ∧
        (c = 0 ∨ s + c ≤ xs.length ∨ ∃ k, s ≤ k ∧ k < xs.length ∧
          fnObjectEquals (l.cell k) obj = true) ∧
        ((placesOf (fun i => fnObjectEquals (l.cell i) obj) s c).Nonempty →
          (searchedMatches fnObjectEquals xs obj startIndex count).Nonempty) := by
  obtain ⟨hsub, hlower⟩ := searchedMatches_lower hitems hs hc
  rw [← searchUp_below_iff, ← searchUp_isFirst.iff_of_lower hsub hlower, IndexOfRespects,
    arrayListIndexOf, hslots]
  split
  · refine iff_of_false ?_ (by omega)
    rintro ⟨index, inspected, hnone, -⟩
    cases hnone
  · constructor
    · rintro ⟨index, inspected, hsome, hindex, hinspected⟩
      obtain ⟨rfl, rfl⟩ := Prod.mk.inj (Option.some.inj hsome)
      exact ⟨by omega, hinspected, hindex⟩
    · rintro ⟨-, hinspected, hindex⟩
      exact ⟨_, _, rfl, hindex, hinspected⟩

lemma indexOfRespects_iff (hitems : l.items = xs) :
    IndexOfRespects fnObjectEquals l xs obj startIndex count ↔
      IndexOfInList fnObjectEquals xs obj startIndex count := by
  obtain ⟨s, c, hs, hc, hslots⟩ := searchSlots_eq hitems startIndex count
  rw [indexOfRespects_slots hitems hs hc hslots, IndexOfInList, ← hs, ← hc]
  refine and_congr_right fun _ => ?_
  have hstay : (c = 0 ∨ s + c ≤ xs.length ∨ ∃ k, s ≤ k ∧ k < xs.length ∧
      fnObjectEquals (l.cell k) obj = true) ↔
      ((c : Int) = 0 ∨ (s : Int) + c ≤ xs.length ∨
        ∃ i : Nat, startIndex ≤ i ∧ MatchAt fnObjectEquals xs obj i) := by
    refine or_congr (by omega) (or_congr (by omega) (exists_congr fun k => ?_))
    rw [matchAt_iff hitems]
    exact and_congr_left' (by omega)
  rw [← hstay]
  clear hstay
  refine and_congr_right fun hA => ?_
  -- A match among the slots of the search is preceded by one in the list.
  have hinList : ∀ k, s ≤ k → k < s + c → fnObjectEquals (l.cell k) obj = true →
      ∃ i, s ≤ i ∧ i < s + c ∧ MatchAt fnObjectEquals xs obj i := by
    intro k hk hkc hkequals
    by_cases hklength : k < xs.length
    · exact ⟨k, hk, hkc, (matchAt_iff hitems).mpr ⟨hklength, hkequals⟩⟩
    · rcases hA with hA | hA | ⟨i, hi, hilength, hequals⟩
      · omega
      · omega
      · exact ⟨i, hi, by omega, (matchAt_iff hitems).mpr ⟨hilength, hequals⟩⟩
  clear hA
  unfold slotCount at hc
  constructor
  · rintro hne hnegative hpos ⟨i, hi, hmatch⟩
    have hequals := ((matchAt_iff hitems).mp hmatch).2
    rw [if_neg (by omega)] at hc
    obtain ⟨k, -, hk, hkmatch⟩ := hne ⟨i, by omega, by omega, hequals⟩
    rw [if_neg (by omega)] at hk
    exact ⟨k, by omega, hkmatch⟩
  · rintro hmeant ⟨k, hk, hkc, hkequals⟩
    obtain ⟨i, hi, hic, hmatch⟩ := hinList k hk hkc hkequals
    have hilength := ((matchAt_iff hitems).mp hmatch).1
    by_cases hcount : count < 0
    · exact ⟨i, by omega, by rw [if_pos hcount]; omega, hmatch⟩
    rw [if_neg hcount] at hc
    by_cases hstart : startIndex < 0
    · obtain ⟨j, hj, hjmatch⟩ := hmeant hstart (by omega) ⟨i, by omega, hmatch⟩
      have hjlength := ((matchAt_iff hitems).mp hjmatch).1
      exact ⟨j, by omega, by rw [if_neg hcount]; omega, hjmatch⟩
    · exact ⟨i, by omega, by rw [if_neg hcount]; omega, hmatch⟩

/-- A search down, by the slots it looks at. -/
lemma lastIndexOfRespects_slots {s c : Nat} (hitems : l.items = xs)
    (hs : (s : Int) = max startIndex 0) (hc : (c : Int) = slotCount xs count)
    (hslots : searchSlots l startIndex count =
      if INT_MAX < (s : Int) + c then none else some (s, c)) :
    LastIndexOfRespects fnObjectEquals l xs obj startIndex count ↔
      (s : Int) + c ≤ INT_MAX ∧ (c = 0 ∨ s + c ≤ xs.length) ∧
        placesOf (fun i => fnObjectEquals (l.cell i) obj) s c ⊆
          searchedMatches fnObjectEquals xs obj startIndex count := by
  obtain ⟨hsub, hlower⟩ := searchedMatches_lower hitems hs hc
  rw [← searchDown_below_iff, ← searchDown_isLast.iff_of_lower hsub hlower, LastIndexOfRespects,
    arrayListLastIndexOf, hslots]
  split
  · refine iff_of_false ?_ (by omega)
    rintro ⟨index, inspected, hnone, -⟩
    cases hnone
  · constructor
    · rintro ⟨index, inspected, hsome, hindex, hinspected⟩
      obtain ⟨rfl, rfl⟩ := Prod.mk.inj (Option.some.inj hsome)
      exact ⟨by omega, hinspected, hindex⟩
    · rintro ⟨-, hinspected, hindex⟩
      exact ⟨_, _, rfl, hindex, hinspected⟩

lemma lastIndexOfRespects_iff (hitems : l.items = xs) :
    LastIndexOfRespects fnObjectEquals l xs obj startIndex count ↔
      LastIndexOfInList fnObjectEquals xs obj startIndex count := by
  obtain ⟨s, c, hs, hc, hslots⟩ := searchSlots_eq hitems startIndex count
  rw [lastIndexOfRespects_slots hitems hs hc hslots, LastIndexOfInList, ← hs, ← hc]
  refine and_congr_right fun _ => ?_
  have hstay : (c = 0 ∨ s + c ≤ xs.length) ↔ ((c : Int) = 0 ∨ (s : Int) + c ≤ xs.length) := by
    omega
  rw [← hstay]
  refine and_congr_right fun hA => ?_
  unfold slotCount at hc
  constructor
  · rintro hsubset hnegative hpos i hi hmatch
    have hequals := ((matchAt_iff hitems).mp hmatch).2
    rw [if_neg (by omega)] at hc
    obtain ⟨-, hlt, -⟩ := hsubset ⟨by omega, by omega, hequals⟩
    rw [if_neg (by omega)] at hlt
    omega
  · rintro hmeant k ⟨hk, hkc, hkequals⟩
    have hklength : k < xs.length := by omega
    have hmatch : MatchAt fnObjectEquals xs obj k :=
      (matchAt_iff hitems).mpr ⟨hklength, hkequals⟩
    by_cases hcount : count < 0
    · exact ⟨by omega, by rw [if_pos hcount]; omega, hmatch⟩
    rw [if_neg hcount] at hc
    by_cases hstart : startIndex < 0
    · have hlt := hmeant hstart (by omega) k (by omega) hmatch
      exact ⟨by omega, by rw [if_neg hcount]; omega, hmatch⟩
    · exact ⟨by omega, by rw [if_neg hcount]; omega, hmatch⟩

/-- **Searches in reachable lists.** In every list that calls lead to, the searches respect the
list exactly when their range ends in it, or a search up finds the object before it does. -/
theorem arrayList_search_iff (calls : List ArrayListCall) (m : Nat → Nat) (obj : Nat)
    (startIndex count : Int) :
    let state := arrayListRun realloc fnObjectEquals m calls
    (IndexOfRespects fnObjectEquals state.1 state.2 obj startIndex count ↔
      IndexOfInList fnObjectEquals state.2 obj startIndex count) ∧
    (LastIndexOfRespects fnObjectEquals state.1 state.2 obj startIndex count ↔
      LastIndexOfInList fnObjectEquals state.2 obj startIndex count) := by
  intro state
  have hstate : ArrayListState state := arrayListRun_state calls m
  exact ⟨indexOfRespects_iff hstate.items_eq, lastIndexOfRespects_iff hstate.items_eq⟩

/-- After an object is removed, a search to the end of the list finds it behind the list. -/
theorem arrayList_search_removed :
    let state := arrayListRun mallocAll (· == ·) (fun _ => 0) [.add 1, .add 2, .removeAt 1]
    ¬(IndexOfRespects (· == ·) state.1 state.2 2 1 (-1)) := by
  rintro state ⟨index, inspected, hsome, -, hinspected⟩
  have hindex : (arrayListIndexOf (· == ·) state.1 2 1 (-1)) = some (1, [1]) := by decide
  rw [hindex] at hsome
  obtain ⟨rfl, rfl⟩ := Prod.mk.inj (Option.some.inj hsome)
  exact absurd (hinspected 1 (List.mem_singleton_self 1)) (by decide)

end FreeRdp
