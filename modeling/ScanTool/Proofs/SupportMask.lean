import ScanTool.Proofs.LiveValues
import ScanTool.Live.Supported

/-!
# Supported parameters from their mask

A vehicle tells which of the parameters 1 to 32 it supports in a mask, whose highest bit stands for
parameter 1. The mask is written in eight digits behind the echo `4100`, on a line that may open with
a header. What is read is the set of exactly the parameters whose bits are set, so the set tells the
mask.
-/

namespace ScanTool.Live

open ScanTool.Text ScanTool.Frame

/-! ## The set of a mask -/

namespace Supported

theorem pids_pairwise (s : Supported) : s.pids.Pairwise (· < ·) := by
  have hbits : ((List.range 32).filter s.mask.getMsbD).Pairwise (· < ·) :=
    List.pairwise_lt_range.filter _
  rw [pids, List.pairwise_map]
  refine hbits.imp_of_mem fun {i j} hi hj hlt => ?_
  have hi32 : i < 32 := List.mem_range.mp (List.mem_filter.mp hi).1
  have hj32 : j < 32 := List.mem_range.mp (List.mem_filter.mp hj).1
  rw [UInt8.lt_iff_toNat_lt, toNat_number (by omega), toNat_number (by omega)]
  omega

theorem size_eq (s : Supported) : s.size = s.mask.cpop.toNat := by
  have hcount : ∀ n, s.mask.cpopNatRec n 0 = (List.range n).countP s.mask.getLsbD := by
    intro n
    induction n with
    | zero => rfl
    | succ n ih =>
      rw [BitVec.cpopNatRec_succ, BitVec.cpopNatRec_add, ih, List.range_succ, List.countP_append,
        List.countP_singleton]
      cases s.mask.getLsbD n <;> rfl
  -- the bits are counted from the other end
  have hreverse : ((List.range 32).map fun i => 31 - i).Perm (List.range 32) := by decide
  have hlow : (List.range 32).countP s.mask.getMsbD =
      (List.range 32).countP fun i => s.mask.getLsbD (31 - i) :=
    List.countP_congr fun i hi => by rw [getMsbD_mask (List.mem_range.mp hi)]
  calc s.size = (List.range 32).countP s.mask.getMsbD := by
        rw [size, pids, List.length_map, List.countP_eq_length_filter]
    _ = ((List.range 32).map fun i => 31 - i).countP s.mask.getLsbD := by
        rw [hlow, List.countP_map]
        rfl
    _ = (List.range 32).countP s.mask.getLsbD := hreverse.countP_eq _
    _ = s.mask.cpop.toNat := by rw [BitVec.toNat_cpop, hcount]

/-- Sets of different masks differ in some parameter. -/
theorem exists_contains_ne {s t : Supported} (h : s.mask ≠ t.mask) :
    ∃ pid, s.contains pid ≠ t.contains pid := by
  by_contra hsame
  refine h (BitVec.eq_of_getLsbD_eq fun i hi => ?_)
  have hnumber : (UInt8.ofNat (32 - i)).toNat = 32 - i := toNat_number (Nat.sub_le 32 i)
  have hplace : 32 - (32 - i) = i := by omega
  have hpid : s.contains (UInt8.ofNat (32 - i)) = t.contains (UInt8.ofNat (32 - i)) := by
    by_contra hne
    exact hsame ⟨_, hne⟩
  have hboth := Bool.eq_iff_iff.mp hpid
  rw [contains_iff, contains_iff, hnumber, hplace] at hboth
  have low : 1 ≤ 32 - i := by omega
  have high : 32 - i ≤ 32 := by omega
  simpa [low, high] using hboth

end Supported

/-! ## A mask as it is written -/

/-- The eight digits of a mask, the highest first. -/
def maskDigits (mask : BitVec 32) : List Char :=
  [7, 6, 5, 4, 3, 2, 1, 0].map fun place => hexDigit (mask.toNat / 16 ^ place % 16)

/-- The four bytes of a mask, the highest first. -/
def maskBytes (mask : BitVec 32) : List UInt8 :=
  [3, 2, 1, 0].map fun place => UInt8.ofBitVec (mask.extractLsb' (8 * place) 8)

theorem ofBytes_maskBytes (mask : BitVec 32) : Supported.ofBytes (maskBytes mask) = ⟨mask⟩ := by
  have hjoin : mask.extractLsb' 24 8 ++ mask.extractLsb' 16 8 ++ mask.extractLsb' 8 8 ++
      mask.extractLsb' 0 8 = mask := by
    rw [BitVec.extractLsb'_append_extractLsb'_eq_extractLsb' (by rfl),
      BitVec.extractLsb'_append_extractLsb'_eq_extractLsb' (by rfl),
      BitVec.extractLsb'_append_extractLsb'_eq_extractLsb' (by rfl)]
    exact BitVec.extractLsb'_eq_self
  exact congrArg Supported.mk hjoin

theorem hexPair_extractLsb' (mask : BitVec 32) (place : Nat) :
    hexPair (UInt8.ofBitVec (mask.extractLsb' (8 * place) 8)) =
      [hexDigit (mask.toNat / 16 ^ (2 * place + 1) % 16),
        hexDigit (mask.toNat / 16 ^ (2 * place) % 16)] := by
  have hpower : 2 ^ (8 * place) = 16 ^ (2 * place) := by
    rw [Nat.pow_mul, Nat.pow_mul]
  have hbyte : (UInt8.ofBitVec (mask.extractLsb' (8 * place) 8)).toNat =
      mask.toNat / 16 ^ (2 * place) % 256 := by
    rw [UInt8.toNat_ofBitVec, BitVec.extractLsb'_toNat, Nat.shiftRight_eq_div_pow, hpower]
  have hnext : mask.toNat / 16 ^ (2 * place + 1) = mask.toNat / 16 ^ (2 * place) / 16 := by
    rw [Nat.pow_succ, Nat.div_div_eq_div_mul]
  have hhigh : ∀ n, n % 256 / 16 = n / 16 % 16 := by omega
  have hlow : ∀ n, n % 256 % 16 = n % 16 := by omega
  rw [hexPair, hbyte, hnext, hhigh, hlow]

theorem flatMap_hexPair_maskBytes (mask : BitVec 32) :
    (maskBytes mask).flatMap hexPair = maskDigits mask := by
  simp only [maskBytes, List.map_cons, List.map_nil, List.flatMap_cons, List.flatMap_nil,
    hexPair_extractLsb']
  rfl

/-- What stands before the echo of a mask: nothing, an identifier of eleven or of twenty-nine bits
and the length, or a header of three bytes. -/
inductive PrecedesMask : List Char → Prop where
  /-- Nothing. -/
  | bare : PrecedesMask []
  /-- An identifier of eleven bits and the length. -/
  | short {unit : Char} (hunit : unit ∈ unitDigits) : PrecedesMask ['7', 'E', unit, '0', '6']
  /-- An identifier of twenty-nine bits with the address of the sender, and the length. -/
  | long {sender : List Char} (hsender : Digits sender) (length_sender : sender.length = 2) :
    PrecedesMask (longId ++ sender ++ ['0', '6'])
  /-- A header of priority, target and source. -/
  | bytes : PrecedesMask ['4', '8', '6', 'B', '1', '0']

theorem PrecedesMask.firstBehind {header : List Char} (h : PrecedesMask header) :
    FirstBehind header Supported.marker := by
  cases h with
  | bare => exact fun n hn => absurd hn (Nat.not_lt_zero n)
  | short hunit => exact firstBehind_short hunit rfl (by decide)
  | long _ hlen => exact firstBehind_long hlen (by decide)
  | bytes => unfold FirstBehind; decide

/-- An answer announces a mask: after lines on which the echo does not stand there is one that is,
once it is compacted, the echo and the digits of the mask behind a header, with more digits such as a
checksum at its end. -/
inductive Announces (mask : BitVec 32) : List Char → Prop where
  /-- Lines before, the line of the mask, and whatever comes after it. -/
  | intro {earlier : List (List Char × Char)} {line header more later : List Char}
    (breaks : ∀ p ∈ earlier, isLineBreak p.2 = true)
    (noEcho : ∀ p ∈ earlier, ¬ Supported.marker <:+: compact p.1)
    (hline : ∀ c ∈ line, isLineBreak c = false) (hheader : PrecedesMask header)
    (hmore : Digits more)
    (hcompact : compact line = header ++ (Supported.marker ++ (maskDigits mask ++ more)))
    (hlater : ∀ c ∈ later.head?, isLineBreak c = true) :
    Announces mask (ended earlier ++ (line ++ later))

/-- The mask that an answer announces is the one that is read. -/
theorem Announces.ofAnswer {mask : BitVec 32} {answer : String}
    (h : Announces mask answer.toList) : Supported.ofAnswer answer = ⟨mask⟩ := by
  have hbytes : bytesAfter? Supported.marker 4 answer.toList = some (maskBytes mask) := by
    generalize answer.toList = text at h
    cases h with
    | @intro earlier line header more later breaks noEcho hline hheader hmore hcompact hlater =>
      rw [← flatMap_hexPair_maskBytes] at hcompact
      have hfound : bytesAfter? Supported.marker 4 line = some (maskBytes mask) :=
        bytesAfter?_of_compact hline (List.cons_ne_nil _ _) hcompact hheader.firstBehind
      rw [bytesAfter?_ended _ breaks noEcho]
      exact bytesAfter?_of_first hfound hlater
  rw [Supported.ofAnswer, hbytes]
  exact ofBytes_maskBytes mask

/-- The set that is read from an answer is that of the mask which it announces: its parameters
ascend, there are as many as one bits, and a parameter belongs to it exactly if its bit is set.
Answers that announce different masks give sets that differ in some parameter. -/
theorem supported_of_announced_mask {mask : BitVec 32} {answer : String}
    (announced : Announces mask answer.toList) :
    (Supported.ofAnswer answer).pids.Pairwise (· < ·) ∧
    (Supported.ofAnswer answer).size = mask.cpop.toNat ∧
    (∀ pid : Pid, pid ∈ (Supported.ofAnswer answer).pids ↔
      (Supported.ofAnswer answer).contains pid = true) ∧
    (∀ pid : Pid, (Supported.ofAnswer answer).contains pid = true ↔
      1 ≤ pid.toNat ∧ pid.toNat ≤ 32 ∧ mask.getLsbD (32 - pid.toNat) = true) ∧
    ∀ (mask' : BitVec 32) (answer' : String), Announces mask' answer'.toList → mask' ≠ mask →
      ∃ pid, (Supported.ofAnswer answer').contains pid ≠
        (Supported.ofAnswer answer).contains pid := by
  rw [announced.ofAnswer]
  refine ⟨Supported.pids_pairwise _, Supported.size_eq _, fun pid => Supported.mem_pids_iff,
    fun pid => Supported.contains_iff, fun mask' answer' announced' hne => ?_⟩
  rw [announced'.ofAnswer]
  exact Supported.exists_contains_ne hne

/-- A mask in small letters and with blanks, behind an identifier whose sender has the address `41`
and after a line of progress; and another one behind a header of three bytes, with a checksum. -/
theorem supported_of_mask_from_sender_41 :
    let line := ['1', '8', ' ', 'd', 'a', ' ', 'f', '1', ' ', '4', '1', ' ', '0', '6', ' ',
      '4', '1', ' ', '0', '0', ' ', 'b', 'e', ' ', '1', 'f', ' ', 'a', '8', ' ', '1', '3']
    let text := ended [(['S', 'E', 'A', 'R', 'C', 'H', 'I', 'N', 'G'], '\r')] ++ (line ++ ['\r'])
    let other := ended [] ++ (['4', '8', '6', 'B', '1', '0'] ++
      (Supported.marker ++ (['8', '0', '0', '0', '0', '0', '0', '1'] ++ ['5', 'C'])) ++ [])
    Announces 0xBE1FA813 text ∧ Announces 0x80000001 other ∧
      (Supported.ofAnswer (String.ofList text)).pids.Pairwise (· < ·) ∧
      (Supported.ofAnswer (String.ofList text)).size = 17 ∧
      (Supported.ofAnswer (String.ofList text)).contains 0x0C = true ∧
      (Supported.ofAnswer (String.ofList text)).contains 0x02 = false ∧
      ∃ pid, (Supported.ofAnswer (String.ofList other)).contains pid ≠
        (Supported.ofAnswer (String.ofList text)).contains pid := by
  intro line text other
  have announced : Announces 0xBE1FA813 text := by
    have hheader : PrecedesMask (longId ++ ['4', '1'] ++ ['0', '6']) := .long (by decide) rfl
    have hmore : Digits [] := by decide
    have hline : ∀ c ∈ line, isLineBreak c = false := forall_mem_of_all (by decide)
    have hlater : ∀ c ∈ ['\r'].head?, isLineBreak c = true := by simp [isLineBreak]
    exact .intro (by decide) (by decide) hline hheader hmore (by decide) hlater
  have announced' : Announces 0x80000001 other := by
    have hmore : Digits ['5', 'C'] := by decide
    exact .intro (by simp) (by simp) (forall_mem_of_all (by decide)) .bytes hmore (by decide)
      (by simp)
  have htext : Announces 0xBE1FA813 (String.ofList text).toList := by rwa [String.toList_ofList]
  have hother : Announces 0x80000001 (String.ofList other).toList := by rwa [String.toList_ofList]
  obtain ⟨ascending, size, -, contains, differ⟩ := supported_of_announced_mask htext
  refine ⟨announced, announced', ascending, ?_, ?_, ?_, differ _ _ hother (by decide)⟩
  · rw [size]
    decide
  · rw [contains]
    decide
  · rw [Bool.eq_false_iff, ne_eq, contains]
    decide

end ScanTool.Live
