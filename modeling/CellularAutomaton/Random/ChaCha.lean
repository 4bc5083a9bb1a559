/-!
# The ChaCha key stream

The generator of random words is the ChaCha block function with twelve rounds, applied to the blocks
with the numbers 0, 1, 2, … under a key that is expanded from a seed.
-/
namespace CellularAutomaton.Random

abbrev Block := Vector UInt32 16

abbrev Key := Vector UInt32 8

def rotateLeft (x : UInt32) (n : UInt32) : UInt32 := (x <<< n) ||| (x >>> (32 - n))

namespace Block

def quarterRound (v : Block) (a b c d : Fin 16) : Block :=
  let v := v.set a (v[a] + v[b])
  let v := v.set d (rotateLeft (v[d] ^^^ v[a]) 16)
  let v := v.set c (v[c] + v[d])
  let v := v.set b (rotateLeft (v[b] ^^^ v[c]) 12)
  let v := v.set a (v[a] + v[b])
  let v := v.set d (rotateLeft (v[d] ^^^ v[a]) 8)
  let v := v.set c (v[c] + v[d])
  v.set b (rotateLeft (v[b] ^^^ v[c]) 7)

def doubleRound (v : Block) : Block :=
  let v := v.quarterRound 0 4 8 12
  let v := v.quarterRound 1 5 9 13
  let v := v.quarterRound 2 6 10 14
  let v := v.quarterRound 3 7 11 15
  let v := v.quarterRound 0 5 10 15
  let v := v.quarterRound 1 6 11 12
  let v := v.quarterRound 2 7 8 13
  v.quarterRound 3 4 9 14

/-- The block before the rounds: constants, the key, the number of the block, and zeros. -/
def initial (key : Key) (number : Nat) : Block :=
  (#v[0x61707865, 0x3320646e, 0x79622d32, 0x6b206574] : Vector UInt32 4) ++ key ++
    (#v[UInt32.ofNat number, UInt32.ofNat (number >>> 32), 0, 0] : Vector UInt32 4)

def ofKey (key : Key) (number : Nat) : Block :=
  let v := initial key number
  (Nat.repeat doubleRound 6 v).zipWith (· + ·) v

end Block

/-- The state after one step of the seed expansion. -/
def expandStep (s : UInt64) : UInt64 := s * 6364136223846793005 + 11634580027462260723

def expandWord (s : UInt64) : UInt32 :=
  let x := (((s >>> 18) ^^^ s) >>> 27).toUInt32
  let n := (s >>> 59).toUInt32
  if n = 0 then x else (x >>> n) ||| (x <<< (32 - n))

def keyOfSeed (seed : UInt64) : Key :=
  Vector.ofFn fun i => expandWord (Nat.repeat expandStep (i.val + 1) seed)

/-- An endless sequence of random words. -/
abbrev Words := Nat → UInt64

/-- The words of 64 bits that the key stream of a seed consists of, the low half first. -/
def wordsOfSeed (seed : UInt64) : Words :=
  let key := keyOfSeed seed
  fun i =>
    let block := Block.ofKey key (i / 8)
    let low := block[2 * (i % 8)]
    let high := block[2 * (i % 8) + 1]
    low.toUInt64 ||| (high.toUInt64 <<< 32)

/-- The draw from the unit interval that a word stands for: its upper 53 bits are the binary
places. -/
def draw (word : UInt64) : Float := (word >>> 11).toFloat * Float.ofBits 0x3CA0000000000000

end CellularAutomaton.Random
