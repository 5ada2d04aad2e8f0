import GoalGrid.Random.Generator
/-!
# Chance — the generator of a seed

A seed is stretched to a key of eight words by a permuted congruential
generator, and the tape is the key stream of the ChaCha cipher with twelve
rounds: the sixteen words of block 0, of block 1, and so on. The block
counter has 64 bits, which fixes the length of the tape.
-/

namespace GoalGrid.Random

/-- A word turned to the left by `n` bits. -/
def rotateLeft (x : UInt32) (n : UInt32) : UInt32 :=
  (x <<< n) ||| (x >>> (32 - n))

/-- One step of the congruential generator that stretches a seed. -/
def stretchStep (state : UInt64) : UInt64 :=
  state * 6364136223846793005 + 11634580027462260723

/-- The word that a state of the congruential generator gives: its high
bits folded together and turned by its topmost bits. -/
def stretchWord (state : UInt64) : UInt32 :=
  let folded := (((state >>> 18) ^^^ state) >>> 27).toUInt32
  let turn := (state >>> 59).toUInt32
  rotateLeft folded ((32 - turn) % 32)

/-- The first `n` words that a seed is stretched to. -/
def stretch : Nat → UInt64 → List UInt32
  | 0, _ => []
  | n + 1, state => stretchWord (stretchStep state) :: stretch n (stretchStep state)

/-- The state of the cipher: sixteen words. -/
abbrev Block := Vector UInt32 16

/-- The quarter round on the words at four places. -/
def quarterRound (b : Block) (i j k l : Fin 16) : Block :=
  let (w, x, y, z) := (b[i], b[j], b[k], b[l])
  let w := w + x
  let z := rotateLeft (z ^^^ w) 16
  let y := y + z
  let x := rotateLeft (x ^^^ y) 12
  let w := w + x
  let z := rotateLeft (z ^^^ w) 8
  let y := y + z
  let x := rotateLeft (x ^^^ y) 7
  (((b.set i w).set j x).set k y).set l z

/-- A round on the columns followed by a round on the diagonals. -/
def doubleRound (b : Block) : Block :=
  let b := quarterRound b 0 4 8 12
  let b := quarterRound b 1 5 9 13
  let b := quarterRound b 2 6 10 14
  let b := quarterRound b 3 7 11 15
  let b := quarterRound b 0 5 10 15
  let b := quarterRound b 1 6 11 12
  let b := quarterRound b 2 7 8 13
  quarterRound b 3 4 9 14

/-- The state before the rounds: the four constant words, the key, the
counter of the block, and two zeros. -/
def initialBlock (key : List UInt32) (counter : Nat) : Block :=
  let k (i : Nat) : UInt32 := key[i]?.getD 0
  #v[0x61707865, 0x3320646e, 0x79622d32, 0x6b206574,
     k 0, k 1, k 2, k 3, k 4, k 5, k 6, k 7,
     UInt32.ofNat counter, UInt32.ofNat (counter / Nat.pow 2 32), 0, 0]

/-- The key stream block with this counter: six double rounds, and the
state before them added back. -/
def keyBlock (key : List UInt32) (counter : Nat) : Block :=
  let start := initialBlock key counter
  let mixed := Nat.repeat doubleRound 6 start
  Vector.zipWith (· + ·) mixed start

/-- The tape of a seed. -/
def seededTape (seed : Nat) : Tape :=
  let key := stretch 8 (UInt64.ofNat seed)
  { word := fun i => (keyBlock key (i / 16))[i % 16]
    length := Nat.pow 2 68 }

end GoalGrid.Random

namespace GoalGrid

/-- The generator of a seed, at the start of its tape. -/
def Generator.seeded (seed : Nat) : Generator :=
  ⟨Random.seededTape seed, 0⟩

/-- The generator that hands out the listed words and then zeros. -/
def Generator.ofWords (words : List UInt32) : Generator :=
  ⟨Tape.ofList words, 0⟩

end GoalGrid
