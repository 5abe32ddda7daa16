import ScanTool.Random.Stream

/-!
# Draws

A number below a bound is drawn by multiplying a random word by the bound and keeping the high half;
words whose low half lies outside the largest fitting zone are rejected, so that every number is
equally likely. Several different positions of a list are drawn so that each set of positions and
each order is equally likely.
-/

namespace ScanTool.Random

/-- The shift that brings the highest bit of a positive bound to the highest bit of a word. -/
def headroom (bits bound : Nat) : Nat := bits - 1 - Nat.log2 bound

/-- Whether a low half lies in the zone of a bound. -/
def accepts (bits bound low : Nat) : Bool := low ≤ bound * twoTo (headroom bits bound) - 1

/-- The number of words tried before zero is taken. As a word is accepted more often than not, so
many rejections do not occur. -/
def patience : Nat := 4096

/-- A number below a bound, from words of `bits` bits taken by `next`. -/
def drawFrom (next : Stream → Nat × Stream) (bits bound : Nat) : (fuel : Nat) → Stream → Nat × Stream
  | 0, s => (0, s)
  | fuel + 1, s =>
    let (v, s) := next s
    let product := v * bound
    if accepts bits bound (product % twoTo bits) then (product / twoTo bits, s)
    else drawFrom next bits bound fuel s

/-- A number below a positive bound, from single words. -/
def drawBelow (bound : Nat) (s : Stream) : Nat × Stream :=
  drawFrom (fun s => let (v, s) := s.next; (v.toNat, s)) 32 bound patience s

/-- A number below a positive bound, from double words. -/
def drawBelowLong (bound : Nat) (s : Stream) : Nat × Stream :=
  drawFrom (fun s => let (v, s) := s.nextLong; (v.toNat, s)) 64 bound patience s

/-- Adds the position `j`, or one before it, to different positions that are all below `j`. If the
position drawn is there already, `j` takes its place and pushes it back. -/
def addPosition (chosen : List Nat) (j t : Nat) : List Nat :=
  match chosen.idxOf? t with
  | some i => chosen.insertIdx i j
  | none => chosen ++ [t]

/-- Draws a position for each bound in turn. -/
def drawPositions : List Nat → List Nat → Stream → List Nat × Stream
  | [], chosen, s => (chosen, s)
  | j :: rest, chosen, s =>
    let (t, s) := drawBelow (j + 1) s
    drawPositions rest (addPosition chosen j t) s

/-- Draws different elements of a list, as many as asked for or all of them. -/
def choose {α : Type} (pool : List α) (count : Nat) (s : Stream) : List α × Stream :=
  let n := min count pool.length
  let (positions, s) := drawPositions ((List.range n).map (pool.length - n + ·)) [] s
  (positions.filterMap (pool[·]?), s)

end ScanTool.Random
