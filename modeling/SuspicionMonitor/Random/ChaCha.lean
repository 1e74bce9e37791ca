import SuspicionMonitor.Random.Source

/-!
# The ChaCha generator with eight rounds

The words of the keystream, block after block.  The key is expanded from a
64-bit seed by a linear congruential generator with permuted output.
-/

namespace SuspicionMonitor

namespace ChaCha

abbrev Block := Vector UInt32 16

def rotateLeft (word : UInt32) (count : UInt32) : UInt32 :=
  (word <<< count) ||| (word >>> (32 - count))

def rotateRight (word : UInt32) (count : UInt32) : UInt32 :=
  (word >>> count) ||| (word <<< (32 - count))

def quarterRound (block : Block) (a b c d : Fin 16) : Block :=
  let block := block.set a (block[a] + block[b])
  let block := block.set d (rotateLeft (block[d] ^^^ block[a]) 16)
  let block := block.set c (block[c] + block[d])
  let block := block.set b (rotateLeft (block[b] ^^^ block[c]) 12)
  let block := block.set a (block[a] + block[b])
  let block := block.set d (rotateLeft (block[d] ^^^ block[a]) 8)
  let block := block.set c (block[c] + block[d])
  block.set b (rotateLeft (block[b] ^^^ block[c]) 7)

/-- A round on the columns and a round on the diagonals. -/
def doubleRound (block : Block) : Block :=
  let block := quarterRound block 0 4 8 12
  let block := quarterRound block 1 5 9 13
  let block := quarterRound block 2 6 10 14
  let block := quarterRound block 3 7 11 15
  let block := quarterRound block 0 5 10 15
  let block := quarterRound block 1 6 11 12
  let block := quarterRound block 2 7 8 13
  quarterRound block 3 4 9 14

/-- Constants, key and counter, before the rounds. -/
def initial (key : Vector UInt32 8) (counter : UInt64) : Block :=
  #v[0x61707865, 0x3320646e, 0x79622d32, 0x6b206574,
    key[0], key[1], key[2], key[3], key[4], key[5], key[6], key[7],
    counter.toUInt32, (counter >>> 32).toUInt32, 0, 0]

/-- A block of the keystream: eight rounds, then the initial block is added. -/
def block (key : Vector UInt32 8) (counter : UInt64) : Block :=
  let start := initial key counter
  let mixed := doubleRound (doubleRound (doubleRound (doubleRound start)))
  Vector.zipWith (· + ·) mixed start

/-- The generator: its key, the next block, and the words left of the current
one. -/
structure Generator where
  key : Vector UInt32 8
  counter : UInt64
  words : List UInt32

instance : WordSource Generator where
  next generator :=
    match generator.words with
    | word :: words => (word, { generator with words })
    | [] =>
        let fresh := block generator.key generator.counter
        (fresh[0], { generator with
          counter := generator.counter + 1
          words := fresh.toList.drop 1 })

def seedStep (state : UInt64) : UInt64 :=
  state * 6364136223846793005 + 11634580027462260723

def seedWord (state : UInt64) : UInt32 :=
  rotateRight (((state >>> 18) ^^^ state) >>> 27).toUInt32 (state >>> 59).toUInt32

/-- The words of the key, one for each step of the seed. -/
def keyWord (seed : UInt64) : Nat → UInt32
  | 0 => seedWord (seedStep seed)
  | index + 1 => keyWord (seedStep seed) index

def Generator.ofSeed (seed : UInt64) : Generator where
  key := Vector.ofFn fun index : Fin 8 => keyWord seed index
  counter := 0
  words := []

end ChaCha

end SuspicionMonitor
