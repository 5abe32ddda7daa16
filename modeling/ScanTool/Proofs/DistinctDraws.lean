import Mathlib.Data.List.Nodup
import ScanTool.Random.Draw

/-!
# Draws without repetition

A draw stays below its bound, and the positions drawn from a list are different positions of the
list. The invariant of the drawing of positions is `Distinct`: before the bound `j` is drawn from,
the positions chosen are different and below `j`, so that `j` itself is free if it has to take the
place of a position drawn again. The main statement is what is drawn from a list without repetitions.
-/

namespace ScanTool.Random

/-! ## One draw -/

theorem drawFrom_lt {next : Stream → Nat × Stream} {bits bound : Nat}
    (word : ∀ s, (next s).1 < twoTo bits) (pos : 0 < bound) (fuel : Nat) (s : Stream) :
    (drawFrom next bits bound fuel s).1 < bound := by
  induction fuel generalizing s with
  | zero => exact pos
  | succ fuel ih =>
    simp only [drawFrom]
    split
    · show (next s).1 * bound / twoTo bits < bound
      rw [Nat.div_lt_iff_lt_mul (twoTo_pos bits), Nat.mul_comm]
      exact Nat.mul_lt_mul_of_pos_left (word s) pos
    · exact ih (next s).2

theorem drawBelow_lt {bound : Nat} (pos : 0 < bound) (s : Stream) : (drawBelow bound s).1 < bound :=
  drawFrom_lt (fun s => s.next.1.toNat_lt) pos patience s

theorem drawBelowLong_lt {bound : Nat} (pos : 0 < bound) (s : Stream) :
    (drawBelowLong bound s).1 < bound :=
  drawFrom_lt (fun s => s.nextLong.1.toNat_lt) pos patience s

/-! ## Several positions -/

/-- Different positions of a list of `n` elements. -/
structure Distinct (n : Nat) (positions : List Nat) : Prop where
  nodup : positions.Nodup
  below : ∀ i ∈ positions, i < n

/-- One more position is added, which was free: the one drawn, or `j` in its place. -/
theorem addPosition_perm {chosen : List Nat} {j t : Nat} (h : Distinct j chosen) (ht : t ≤ j) :
    ∃ x, x ≤ j ∧ x ∉ chosen ∧ (addPosition chosen j t).Perm (x :: chosen) := by
  unfold addPosition
  cases found : chosen.idxOf? t with
  | none =>
    exact ⟨t, ht, List.idxOf?_eq_none_iff.mp found, List.perm_append_singleton t chosen⟩
  | some i =>
    obtain ⟨hi, -⟩ := List.idxOf?_eq_some_iff.mp found
    exact ⟨j, Nat.le_refl j, fun hj => Nat.lt_irrefl j (h.below j hj),
      List.perm_insertIdx j chosen (Nat.le_of_lt hi)⟩

theorem Distinct.add {chosen : List Nat} {j t : Nat} (h : Distinct j chosen) (ht : t ≤ j) :
    Distinct (j + 1) (addPosition chosen j t) ∧
      (addPosition chosen j t).length = chosen.length + 1 := by
  obtain ⟨x, hx, free, perm⟩ := addPosition_perm h ht
  refine ⟨⟨perm.nodup_iff.mpr (List.nodup_cons.mpr ⟨free, h.nodup⟩), ?_⟩, perm.length_eq⟩
  intro i hi
  rcases List.mem_cons.mp (perm.mem_iff.mp hi) with rfl | hi
  · omega
  · have := h.below i hi
    omega

/-- Drawing from the bounds `j`, `j + 1`, … keeps the positions different. -/
theorem Distinct.draw {chosen : List Nat} {j : Nat} (h : Distinct j chosen) (count : Nat)
    (s : Stream) :
    Distinct (j + count) (drawPositions (List.range' j count) chosen s).1 ∧
      (drawPositions (List.range' j count) chosen s).1.length = chosen.length + count := by
  induction count generalizing j chosen s with
  | zero => exact ⟨h, rfl⟩
  | succ count ih =>
    rw [List.range'_succ]
    have drawn := drawBelow_lt (Nat.succ_pos j) s
    obtain ⟨added, length⟩ := h.add (Nat.le_of_lt_succ drawn)
    obtain ⟨distinct, length'⟩ := ih added (drawBelow (j + 1) s).2
    rw [length] at length'
    refine ⟨?_, ?_⟩
    · rw [Nat.add_right_comm] at distinct
      exact distinct
    · rw [Nat.add_right_comm] at length'
      exact length'

/-- What is drawn from a list without repetitions are different elements of it, and not more of them
than were asked for or than there are. -/
theorem choose_distinct {α : Type} {pool : List α} (nodup : pool.Nodup) (count : Nat) (s : Stream) :
    (choose pool count s).1.Nodup ∧ (∀ a ∈ (choose pool count s).1, a ∈ pool) ∧
      (choose pool count s).1.length ≤ min count pool.length := by
  have bounds : (List.range (min count pool.length)).map (pool.length - min count pool.length + ·) =
      List.range' (pool.length - min count pool.length) (min count pool.length) := by
    rw [List.range'_eq_map_range]
  have start : Distinct (pool.length - min count pool.length) [] := ⟨List.nodup_nil, by simp⟩
  obtain ⟨distinct, length⟩ := start.draw (min count pool.length) s
  simp only [choose, bounds]
  generalize (drawPositions _ [] s).1 = positions at distinct length
  refine ⟨?_, ?_, ?_⟩
  · refine List.Nodup.filterMap ?_ distinct.nodup
    intro i i' a hi hi'
    obtain ⟨hlt, -⟩ := List.getElem?_eq_some_iff.mp hi
    exact (List.getElem?_inj hlt nodup).mp (hi.trans hi'.symm)
  · intro a ha
    obtain ⟨i, -, hi⟩ := List.mem_filterMap.mp ha
    exact List.mem_of_getElem? hi
  · have := List.length_filterMap_le (pool[·]?) positions
    rw [length, List.length_nil, Nat.zero_add] at this
    exact this

end ScanTool.Random
