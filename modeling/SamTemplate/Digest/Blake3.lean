/-!
# BLAKE3

The digest of a sequence of bytes. The bytes are cut into chunks of 1024, and a
chunk into blocks of 64. The blocks of a chunk are compressed one after the
other; the chunks are the leaves of a tree in which neighbours are joined level
by level, a last one without a neighbour moving up as it is. The digest is the
compression of the root.
-/

namespace SamTemplate

namespace Blake3

/-- Eight words that carry the state from block to block. -/
abbrev ChainingValue := Vector UInt32 8

/-- The sixteen words of a block. -/
abbrev Block := Vector UInt32 16

/-- The words a chain starts with. -/
def initial : ChainingValue :=
  #v[0x6a09e667, 0xbb67ae85, 0x3c6ef372, 0xa54ff53a, 0x510e527f, 0x9b05688c, 0x1f83d9ab, 0x5be0cd19]

/-- The order in which a round takes the words of the block of the round before. -/
def permutation : Vector (Fin 16) 16 := #v[2, 6, 3, 10, 7, 0, 4, 13, 1, 11, 12, 5, 9, 14, 15, 8]

/-- Marks the first block of a chunk. -/
def chunkStart : UInt32 := 1

/-- Marks the last block of a chunk. -/
def chunkEnd : UInt32 := 2

/-- Marks a block of two chaining values. -/
def parent : UInt32 := 4

/-- Marks the root of the tree. -/
def root : UInt32 := 8

/-- Rotates a word to the right. -/
def rotateRight (word count : UInt32) : UInt32 := (word >>> count) ||| (word <<< (32 - count))

/-- Mixes two words of a block into four words of the state. -/
def mix (state : Block) (a b c d : Fin 16) (x y : UInt32) : Block :=
  let va := state[a] + state[b] + x
  let vd := rotateRight (state[d] ^^^ va) 16
  let vc := state[c] + vd
  let vb := rotateRight (state[b] ^^^ vc) 12
  let va := va + vb + y
  let vd := rotateRight (vd ^^^ va) 8
  let vc := vc + vd
  let vb := rotateRight (vb ^^^ vc) 7
  (((state.set a va).set b vb).set c vc).set d vd

/-- Mixes a whole block into the state, by columns and then by diagonals. -/
def mixBlock (state block : Block) : Block :=
  let state := mix state 0 4 8 12 block[0] block[1]
  let state := mix state 1 5 9 13 block[2] block[3]
  let state := mix state 2 6 10 14 block[4] block[5]
  let state := mix state 3 7 11 15 block[6] block[7]
  let state := mix state 0 5 10 15 block[8] block[9]
  let state := mix state 1 6 11 12 block[10] block[11]
  let state := mix state 2 7 8 13 block[12] block[13]
  mix state 3 4 9 14 block[14] block[15]

/-- The block of the next round. -/
def permute (block : Block) : Block := permutation.map fun place => block[place]

/-- A number of rounds. -/
def rounds : Nat → Block → Block → Block
  | 0, state, _ => state
  | count + 1, state, block => rounds count (mixBlock state block) (permute block)

/-- A block that is still to be compressed, with all that goes into it. -/
structure Pending where
  /-- The state before the block. -/
  chain : ChainingValue
  /-- The words of the block. -/
  block : Block
  /-- The number of the chunk. -/
  counter : UInt64
  /-- The bytes of the block that count. -/
  length : UInt32
  /-- The marks of the block. -/
  flags : UInt32

namespace Pending

/-- The first eight words of a compression. -/
def compress (pending : Pending) : ChainingValue :=
  let chain := pending.chain
  let state : Block := #v[
    chain[0], chain[1], chain[2], chain[3], chain[4], chain[5], chain[6], chain[7],
    initial[0], initial[1], initial[2], initial[3],
    pending.counter.toUInt32, (pending.counter >>> 32).toUInt32, pending.length, pending.flags]
  let out := rounds 7 state pending.block
  Vector.ofFn fun (i : Fin 8) => out[i.val] ^^^ out[i.val + 8]

/-- The words of the digest, if this is the root. -/
def digest (pending : Pending) : ChainingValue :=
  { pending with counter := 0, flags := pending.flags ||| root }.compress

end Pending

/-- A byte of a sequence; zero beyond its end. -/
def byteAt (bytes : ByteArray) (i : Nat) : UInt32 :=
  if h : i < bytes.size then bytes[i].toUInt32 else 0

/-- The block that starts at a byte, its words in little-endian order. -/
def blockAt (bytes : ByteArray) (start : Nat) : Block :=
  Vector.ofFn fun (i : Fin 16) =>
    let at_ (k : Nat) : UInt32 := byteAt bytes (start + 4 * i.val + k)
    at_ 0 ||| (at_ 1 <<< 8) ||| (at_ 2 <<< 16) ||| (at_ 3 <<< 24)

/-- Compresses the blocks of a chunk from `start` up to the last, which is left
    pending. The chunk ends at `stop`. -/
def chunkFrom (bytes : ByteArray) (counter : UInt64) (stop : Nat) :
    Nat → ChainingValue → Nat → UInt32 → Pending
  | blocks, chain, start, flags =>
    let block := blockAt bytes start
    match blocks with
    | 0 => ⟨chain, block, counter, (stop - start).toUInt32, flags ||| chunkEnd⟩
    | blocks + 1 =>
      let next := Pending.compress ⟨chain, block, counter, 64, flags⟩
      chunkFrom bytes counter stop blocks next (start + 64) 0

/-- The chunk of a number. -/
def chunk (bytes : ByteArray) (number : Nat) : Pending :=
  let start := 1024 * number
  let stop := min bytes.size (start + 1024)
  chunkFrom bytes number.toUInt64 stop ((stop - start - 1) / 64) initial start chunkStart

/-- Joins two neighbours of the tree. -/
def join (left right : Pending) : Pending :=
  let l := left.compress
  let r := right.compress
  ⟨initial, (l ++ r), 0, 64, parent⟩

/-- Joins the neighbours of a level of the tree. -/
def joinLevel : List Pending → List Pending
  | left :: right :: rest => join left right :: joinLevel rest
  | rest => rest

/-- Joins levels of the tree until one node is left. -/
def joinAll : Nat → List Pending → List Pending
  | 0, level => level
  | height + 1, level => joinAll height (joinLevel level)

/-- The bytes of a word in base sixteen, lowest first. -/
def wordHex (word : UInt32) : List Char :=
  ([0, 8, 16, 24] : List UInt32).flatMap fun shift =>
    let byte := (word >>> shift).toNat % 256
    [Nat.digitChar (byte / 16), Nat.digitChar (byte % 16)]

/-- The digest of a sequence of bytes in base sixteen. -/
def hex (bytes : ByteArray) : String :=
  let count := max 1 ((bytes.size + 1023) / 1024)
  let leaves := (List.range count).map (chunk bytes)
  match joinAll count.log2.succ leaves with
  | top :: _ => String.ofList (top.digest.toList.flatMap wordHex)
  | [] => ""

end Blake3

end SamTemplate
