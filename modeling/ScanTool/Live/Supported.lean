import ScanTool.Adapter.Frame
import ScanTool.Live.Parameter

/-!
# Supported parameters

A vehicle says which of the parameters 1 to 32 it supports in a mask of 32 bits, the first bit
standing for parameter 1. The set is kept as the mask.
-/

namespace ScanTool.Live

/-- The set of parameters that a vehicle supports. -/
structure Supported where
  /-- The bits of the parameters 1 to 32, the highest first. -/
  mask : BitVec 32
  deriving DecidableEq, Repr, Inhabited

namespace Supported

/-- The request for the mask. -/
def command : String := "0100"

/-- The echo that stands before the mask. -/
def marker : List Char := ['4', '1', '0', '0']

/-- The empty set. -/
def none : Supported := ⟨0⟩

/-- The parameters of the set, ascending. -/
def pids (s : Supported) : List Pid :=
  ((List.range 32).filter s.mask.getMsbD).map fun i => UInt8.ofNat (i + 1)

/-- Whether a parameter belongs to the set, that is, whether it is found among the parameters. -/
def contains (s : Supported) (pid : Pid) : Bool := s.pids.contains pid

/-- The requests for the parameters of the set, ascending. -/
def requests (s : Supported) : List String := s.pids.map request

/-- The number of parameters in the set. -/
def size (s : Supported) : Nat := s.pids.length

/-- Whether no parameter belongs to the set. -/
def isEmpty (s : Supported) : Bool := s.pids.isEmpty

/-- The set of a mask given as four bytes, the highest first. -/
def ofBytes : List UInt8 → Supported
  | [a, b, c, d] => ⟨a.toBitVec ++ b.toBitVec ++ c.toBitVec ++ d.toBitVec⟩
  | _ => none

/-- The set in an answer; it is empty if the mask is missing. -/
def ofAnswer (answer : String) : Supported :=
  match Frame.bytesAfter? marker 4 answer.toList with
  | some bytes => ofBytes bytes
  | Option.none => none

variable {s : Supported} {pid : Pid}

theorem toNat_number {n : Nat} (h : n ≤ 32) : (UInt8.ofNat n).toNat = n :=
  UInt8.toNat_ofNat_of_lt' (Nat.lt_of_le_of_lt h (by decide))

/-- The bits are numbered from the lowest elsewhere. -/
theorem getMsbD_mask {i : Nat} (h : i < 32) : s.mask.getMsbD i = s.mask.getLsbD (31 - i) := by
  rw [BitVec.getMsbD_eq_getLsbD, decide_eq_true h, Bool.true_and]

theorem mem_pids_iff : pid ∈ s.pids ↔ s.contains pid = true := List.contains_iff_mem.symm

/-- A parameter stands for the bit as many places below the 32nd as its number says. -/
theorem contains_iff : s.contains pid = true ↔
    1 ≤ pid.toNat ∧ pid.toNat ≤ 32 ∧ s.mask.getLsbD (32 - pid.toNat) = true := by
  rw [← mem_pids_iff]
  simp only [pids, List.mem_map, List.mem_filter, List.mem_range]
  constructor
  · rintro ⟨i, ⟨hi, hset⟩, rfl⟩
    rw [toNat_number (by omega)]
    rw [getMsbD_mask hi] at hset
    have hplace : 32 - (i + 1) = 31 - i := by omega
    rw [hplace]
    exact ⟨by omega, by omega, hset⟩
  · rintro ⟨low, high, hset⟩
    have hplace : 31 - (pid.toNat - 1) = 32 - pid.toNat := by omega
    refine ⟨pid.toNat - 1, ⟨by omega, ?_⟩, ?_⟩
    · rw [getMsbD_mask (by omega), hplace]
      exact hset
    · rw [Nat.sub_add_cancel low, UInt8.ofNat_toNat]

end Supported

end ScanTool.Live
