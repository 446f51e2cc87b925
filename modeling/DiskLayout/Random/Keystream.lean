/-!
# Key streams

The random bytes of a run are the key stream of the ChaCha cipher with twelve rounds, keyed by a
64-bit seed.  The stream is the sequence of blocks for the counters 0, 1, 2, …, each block being
sixteen words of four bytes, the least significant byte first.

## Main definitions

* `Keystream.keyOfSeed` — the eight key words made from a seed
* `Keystream.block` — the sixteen words of a block
* `Keystream.byteAt` — the byte at a position of the stream
-/

namespace DiskLayout.Keystream

/-- The sixteen words that the cipher works on. -/
abbrev Block := Vector UInt32 16

/-- A word rotated to the left. -/
def rotateLeft (word : UInt32) (count : UInt32) : UInt32 :=
  word <<< count ||| word >>> (32 - count)

/-- The next state of the generator that stretches a seed. -/
def nextSeed (state : UInt64) : UInt64 := state * 6364136223846793005 + 11634580027462260723

/-- The word that a generator state gives: its high bits folded and rotated by its top five. -/
def wordOfSeed (state : UInt64) : UInt32 :=
  let folded := (((state >>> 18) ^^^ state) >>> 27).toUInt32
  let turn := (state >>> 59).toUInt32
  folded >>> turn ||| folded <<< ((32 - turn) % 32)

/-- The states of the seed generator after the first, second, … step. -/
def seedStates : (count : Nat) → (state : UInt64) → List UInt64
  | 0, _ => []
  | count + 1, state => nextSeed state :: seedStates count (nextSeed state)

/-- The eight key words made from a seed. -/
def keyOfSeed (seed : Nat) : List UInt32 :=
  (seedStates 8 (UInt64.ofNat seed)).map wordOfSeed

/-- The quarter round on four of the sixteen words. -/
def quarterRound (words : Block) (a b c d : Fin 16) : Block :=
  let wa := words[a] + words[b]
  let wd := rotateLeft (words[d] ^^^ wa) 16
  let wc := words[c] + wd
  let wb := rotateLeft (words[b] ^^^ wc) 12
  let wa := wa + wb
  let wd := rotateLeft (wd ^^^ wa) 8
  let wc := wc + wd
  let wb := rotateLeft (wb ^^^ wc) 7
  (((words.set a wa).set b wb).set c wc).set d wd

/-- Two rounds: the quarter round down the four columns, then along the four diagonals. -/
def doubleRound (words : Block) : Block :=
  let words := quarterRound words 0 4 8 12
  let words := quarterRound words 1 5 9 13
  let words := quarterRound words 2 6 10 14
  let words := quarterRound words 3 7 11 15
  let words := quarterRound words 0 5 10 15
  let words := quarterRound words 1 6 11 12
  let words := quarterRound words 2 7 8 13
  quarterRound words 3 4 9 14

/-- The words before the first round: four constants, the key, the block counter and two zeros. -/
def initialBlock (key : List UInt32) (counter : Nat) : Block :=
  let words := [0x61707865, 0x3320646e, 0x79622d32, 0x6b206574] ++ key ++
    [UInt32.ofNat counter, UInt32.ofNat (counter / 4294967296), 0, 0]
  Vector.ofFn fun i => words.getD i.val 0

/-- The words of a block: twelve rounds, then the initial words added. -/
def block (key : List UInt32) (counter : Nat) : Block :=
  let start := initialBlock key counter
  let mixed := Nat.repeat doubleRound 6 start
  Vector.ofFn fun i => mixed[i] + start[i]

/-- The byte at a position of the stream that a key gives. -/
def byteAt (key : List UInt32) (position : Nat) : UInt8 :=
  let words := block key (position / 64)
  let word := words.get ⟨position % 64 / 4 % 16, Nat.mod_lt _ (by decide)⟩
  (word >>> UInt32.ofNat (8 * (position % 4))).toUInt8

end DiskLayout.Keystream
