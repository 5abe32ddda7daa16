import ScanTool.Power

/-!
# A stream of random words

A stream is the key stream of a cipher with twelve rounds: word `n` of it depends on the key and on
`n` alone. A stream is therefore a key and a position, and a run of draws can be repeated from the
seed of the key.
-/

namespace ScanTool.Random

/-- The words of a key, and the position of the next word. -/
structure Stream where
  /-- The eight words of the key. -/
  key : List UInt32
  /-- The number of words taken so far. -/
  position : Nat
  deriving DecidableEq, Repr, Inhabited

/-- The state of the cipher: sixteen words. -/
abbrev Words := Vector UInt32 16

/-- A word rotated to the left. -/
def rotateLeft (x : UInt32) (n : Nat) : UInt32 :=
  (x <<< UInt32.ofNat n) ||| (x >>> UInt32.ofNat (32 - n))

/-- A quarter round on four of the words. -/
def quarterRound (w : Words) (a b c d : Fin 16) : Words :=
  let xa := w[a] + w[b]
  let xd := rotateLeft (w[d] ^^^ xa) 16
  let xc := w[c] + xd
  let xb := rotateLeft (w[b] ^^^ xc) 12
  let xa := xa + xb
  let xd := rotateLeft (xd ^^^ xa) 8
  let xc := xc + xd
  let xb := rotateLeft (xb ^^^ xc) 7
  (((w.set a xa).set b xb).set c xc).set d xd

/-- Two rounds: the columns, then the diagonals. -/
def doubleRound (w : Words) : Words :=
  let w := quarterRound w 0 4 8 12
  let w := quarterRound w 1 5 9 13
  let w := quarterRound w 2 6 10 14
  let w := quarterRound w 3 7 11 15
  let w := quarterRound w 0 5 10 15
  let w := quarterRound w 1 6 11 12
  let w := quarterRound w 2 7 8 13
  quarterRound w 3 4 9 14

/-- The words before the rounds: four constants, the key, the number of the block in two words, and
two zeros. -/
def initialWords (key : List UInt32) (block : Nat) : Words :=
  Vector.ofFn fun i =>
    match i.val with
    | 0 => 0x61707865
    | 1 => 0x3320646e
    | 2 => 0x79622d32
    | 3 => 0x6b206574
    | 12 => UInt32.ofNat block
    | 13 => UInt32.ofNat (block / twoTo 32)
    | 14 => 0
    | 15 => 0
    | n => key.getD (n - 4) 0

/-- The words of a block. -/
def block (key : List UInt32) (number : Nat) : Words :=
  let start := initialWords key number
  let mixed := doubleRound (doubleRound (doubleRound (doubleRound (doubleRound (doubleRound start)))))
  Vector.zipWith (· + ·) mixed start

/-- A word of the key stream. -/
def word (key : List UInt32) (n : Nat) : UInt32 :=
  (block key (n / 16)).get ⟨n % 16, Nat.mod_lt _ (by decide)⟩

/-- The next word. -/
def Stream.next (s : Stream) : UInt32 × Stream :=
  (word s.key s.position, { s with position := s.position + 1 })

/-- The next two words as one number, the low one first. -/
def Stream.nextLong (s : Stream) : UInt64 × Stream :=
  let (low, s) := s.next
  let (high, s) := s.next
  (low.toUInt64 ||| (high.toUInt64 <<< 32), s)

/-- A word rotated to the right. -/
def rotateRight (x : UInt32) (n : Nat) : UInt32 :=
  (x >>> UInt32.ofNat n) ||| (x <<< UInt32.ofNat (32 - n))

/-- A step of the generator that stretches a seed to a key. -/
def stretchState (state : UInt64) : UInt64 := state * 6364136223846793005 + 11634580027462260723

/-- The word that a state of that generator gives. -/
def stretchWord (state : UInt64) : UInt32 :=
  rotateRight (((state >>> 18) ^^^ state) >>> 27).toUInt32 (state >>> 59).toNat

/-- The words that a seed is stretched to. -/
def stretch : (count : Nat) → (state : UInt64) → List UInt32
  | 0, _ => []
  | n + 1, state => stretchWord (stretchState state) :: stretch n (stretchState state)

/-- The stream of a seed. -/
def Stream.ofSeed (seed : UInt64) : Stream := ⟨stretch 8 seed, 0⟩

end ScanTool.Random
