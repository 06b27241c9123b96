/-!
A source of random numbers: the Mersenne twister with 624 words of 32 bits, seeded with an integer
of any size. `Twister.word` gives the next 32 bits.
-/

namespace Grader

/-- The state of a source of random numbers: its words, and how many of them were handed out. -/
structure Twister where
  words : Array UInt32
  used : Nat

namespace Twister

/-- The number of words. -/
def size : Nat := 624

/-- The words that follow from a first one. -/
def spread (first : UInt32) : Array UInt32 :=
  (List.range (size - 1)).foldl
    (fun ws i =>
      let p := ws.getD i 0
      ws.push ((1812433253 : UInt32) * (p ^^^ (p >>> 30)) + (i + 1).toUInt32))
    #[first]

def mixed (ws : Array UInt32) (i : Nat) (factor : UInt32) : UInt32 :=
  let p := ws.getD (i - 1) 0
  ws.getD i 0 ^^^ ((p ^^^ (p >>> 30)) * factor)

/-- The place after a place; the end carries the last word to the front. -/
def step (ws : Array UInt32) (i : Nat) : Array UInt32 × Nat :=
  if i + 1 < size then (ws, i + 1) else (ws.setIfInBounds 0 (ws.getD (size - 1) 0), 1)

/-- The digits of a number in base 2 to the 32, the lowest first; at least one. `fuel` bounds their
number. -/
def keyOf : Nat → Nat → List UInt32
  | 0, n => [n.toUInt32]
  | fuel + 1, n => if n < 0x100000000 then [n.toUInt32] else n.toUInt32 :: keyOf fuel (n / 0x100000000)

/-- The words that a key leads to. -/
def fill (key : Array UInt32) : Array UInt32 :=
  let (ws, i) := (List.range (max size key.size)).foldl
    (fun (ws, i) k =>
      let j := k % key.size
      step (ws.setIfInBounds i (mixed ws i 1664525 + key.getD j 0 + j.toUInt32)) i)
    (spread 19650218, 1)
  let (ws, _) := (List.range (size - 1)).foldl
    (fun (ws, i) _ => step (ws.setIfInBounds i (mixed ws i 1566083941 - i.toUInt32)) i)
    (ws, i)
  ws.setIfInBounds 0 0x80000000

/-- The source for a seed; the sign of the seed does not matter. -/
def ofSeed (seed : Int) : Twister :=
  let n := seed.natAbs
  ⟨fill (keyOf (n.log2 / 32 + 1) n).toArray, size⟩

/-- The next generation of words. -/
def twist (ws : Array UInt32) : Array UInt32 :=
  (List.range size).foldl
    (fun ws i =>
      let y := (ws.getD i 0 &&& 0x80000000) ||| (ws.getD ((i + 1) % size) 0 &&& 0x7fffffff)
      let z := ws.getD ((i + 397) % size) 0 ^^^ (y >>> 1)
      ws.setIfInBounds i (if y &&& 1 = 1 then z ^^^ 0x9908b0df else z))
    ws

/-- Spreads the bits of a word. -/
def temper (y : UInt32) : UInt32 :=
  let y := y ^^^ (y >>> 11)
  let y := y ^^^ ((y <<< 7) &&& 0x9d2c5680)
  let y := y ^^^ ((y <<< 15) &&& 0xefc60000)
  y ^^^ (y >>> 18)

def word (t : Twister) : UInt32 × Twister :=
  let t := if t.used < size then t else ⟨twist t.words, 0⟩
  (temper (t.words.getD t.used 0), { t with used := t.used + 1 })

end Twister

end Grader
