/-!
A stream of random words: the ChaCha cipher with twelve rounds over a key and a block count.
-/
namespace TextQuest.Random

abbrev Block := Vector UInt32 16

abbrev Key := Vector UInt32 8

def rotateLeft (x n : UInt32) : UInt32 := (x <<< n) ||| (x >>> (32 - n))

def rotateRight (x n : UInt32) : UInt32 := (x >>> n) ||| (x <<< (32 - n))

namespace Block

def quarterRound (block : Block) (a b c d : Fin 16) : Block :=
  let block := block.set a (block[a] + block[b])
  let block := block.set d (rotateLeft (block[d] ^^^ block[a]) 16)
  let block := block.set c (block[c] + block[d])
  let block := block.set b (rotateLeft (block[b] ^^^ block[c]) 12)
  let block := block.set a (block[a] + block[b])
  let block := block.set d (rotateLeft (block[d] ^^^ block[a]) 8)
  let block := block.set c (block[c] + block[d])
  block.set b (rotateLeft (block[b] ^^^ block[c]) 7)

def doubleRound (block : Block) : Block :=
  let block := ((block.quarterRound 0 4 8 12).quarterRound 1 5 9 13).quarterRound 2 6 10 14
  let block := (block.quarterRound 3 7 11 15).quarterRound 0 5 10 15
  ((block.quarterRound 1 6 11 12).quarterRound 2 7 8 13).quarterRound 3 4 9 14

def initial (key : Key) (count : UInt64) : Block :=
  #v[0x61707865, 0x3320646e, 0x79622d32, 0x6b206574,
    key[0], key[1], key[2], key[3], key[4], key[5], key[6], key[7],
    count.toUInt32, (count >>> 32).toUInt32, 0, 0]

def output (key : Key) (count : UInt64) : Block :=
  let first := initial key count
  let mixed := Nat.repeat doubleRound 6 first
  Vector.zipWith (· + ·) mixed first

end Block

structure Generator where
  key : Key
  position : Nat := 0
  deriving DecidableEq

namespace Generator

def stretch (state : UInt64) : UInt64 := state * 6364136223846793005 + 11634580027462260723

def stretchedWord (state : UInt64) : UInt32 :=
  rotateRight (((state >>> 18) ^^^ state) >>> 27).toUInt32 (state >>> 59).toUInt32

def keyOfSeed (seed : UInt64) : Key :=
  Vector.ofFn fun i => stretchedWord (Nat.repeat stretch (i + 1) seed)

def ofSeed (seed : UInt64) : Generator := ⟨keyOfSeed seed, 0⟩

def next (g : Generator) : UInt32 × Generator :=
  let block := Block.output g.key (UInt64.ofNat (g.position / 16))
  (block.get ⟨g.position % 16, Nat.mod_lt _ (by decide)⟩, { g with position := g.position + 1 })

def nextLong (g : Generator) : UInt64 × Generator :=
  let (low, g) := g.next
  let (high, g) := g.next
  (low.toUInt64 ||| (high.toUInt64 <<< 32), g)

end Generator
end TextQuest.Random
