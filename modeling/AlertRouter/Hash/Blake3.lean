/-! # The BLAKE3 hash

A message is cut into chunks of at most 1024 bytes, a chunk into blocks of at most 64 bytes.  Each
chunk is a chain of compressions; the chunks are the leaves of a binary tree whose left subtrees
are as large a power of two as possible, and whose inner nodes compress the two chaining values
below them.  The root is compressed once more with the root flag, which gives the digest. -/

namespace AlertRouter.Blake3

/-- A chaining value: eight words. -/
abbrev Chaining := Vector UInt32 8

/-- A message block, or the working state: sixteen words. -/
abbrev Words := Vector UInt32 16

/-- The initial chaining value. -/
def initial : Chaining := #v[
  0x6A09E667, 0xBB67AE85, 0x3C6EF372, 0xA54FF53A,
  0x510E527F, 0x9B05688C, 0x1F83D9AB, 0x5BE0CD19]

/-! ### Compression -/

def chunkStart : UInt32 := 1
def chunkEnd : UInt32 := 2
def parent : UInt32 := 4
def root : UInt32 := 8

def rotateRight (x : UInt32) (n : UInt32) : UInt32 := (x >>> n) ||| (x <<< (32 - n))

/-- Mixes two message words into four words of the state. -/
def mix (v : Words) (a b c d : Fin 16) (x y : UInt32) : Words :=
  let va := v[a] + v[b] + x
  let vd := rotateRight (v[d] ^^^ va) 16
  let vc := v[c] + vd
  let vb := rotateRight (v[b] ^^^ vc) 12
  let va := va + vb + y
  let vd := rotateRight (vd ^^^ va) 8
  let vc := vc + vd
  let vb := rotateRight (vb ^^^ vc) 7
  (((v.set a va).set b vb).set c vc).set d vd

/-- One round: the columns, then the diagonals. -/
def round (v m : Words) : Words :=
  let v := mix v 0 4 8 12 m[0] m[1]
  let v := mix v 1 5 9 13 m[2] m[3]
  let v := mix v 2 6 10 14 m[4] m[5]
  let v := mix v 3 7 11 15 m[6] m[7]
  let v := mix v 0 5 10 15 m[8] m[9]
  let v := mix v 1 6 11 12 m[10] m[11]
  let v := mix v 2 7 8 13 m[12] m[13]
  mix v 3 4 9 14 m[14] m[15]

/-- The order in which the next round takes the message words. -/
def permute (m : Words) : Words := #v[
  m[2], m[6], m[3], m[10], m[7], m[0], m[4], m[13],
  m[1], m[11], m[12], m[5], m[9], m[14], m[15], m[8]]

/-- `n` further rounds. -/
def rounds : Nat → Words → Words → Words
  | 0, v, _ => v
  | n + 1, v, m => rounds n (round v m) (permute m)

/-- What one compression consumes. -/
structure Node where
  chaining : Chaining
  block : Words
  counter : Nat
  length : Nat
  flags : UInt32

namespace Node

/-- The chaining value that a node passes up. -/
def compress (node : Node) : Chaining :=
  let h := node.chaining
  let v : Words := #v[
    h[0], h[1], h[2], h[3], h[4], h[5], h[6], h[7],
    initial[0], initial[1], initial[2], initial[3],
    node.counter.toUInt32, (node.counter >>> 32).toUInt32, node.length.toUInt32, node.flags]
  let v := rounds 7 v node.block
  #v[v[0] ^^^ v[8], v[1] ^^^ v[9], v[2] ^^^ v[10], v[3] ^^^ v[11],
    v[4] ^^^ v[12], v[5] ^^^ v[13], v[6] ^^^ v[14], v[7] ^^^ v[15]]

/-- The same node as the root of the tree. -/
def asRoot (node : Node) : Node := { node with flags := node.flags ||| root }

/-- The inner node above two chaining values. -/
def join (left right : Chaining) : Node :=
  ⟨initial, #v[
    left[0], left[1], left[2], left[3], left[4], left[5], left[6], left[7],
    right[0], right[1], right[2], right[3], right[4], right[5], right[6], right[7]], 0, 64, parent⟩

end Node

/-! ### Chunks -/

/-- The little-endian word at the front of some bytes, missing bytes being zero. -/
def wordOf (bytes : List UInt8) : UInt32 :=
  (bytes.take 4).foldr (fun b w => (w <<< 8) ||| b.toUInt32) 0

/-- A block of at most 64 bytes as words, padded with zeros. -/
def blockOf (bytes : List UInt8) : Words :=
  Vector.ofFn fun i => wordOf (bytes.drop (4 * i.val))

/-- The last node of the chunk number `counter`, after the chaining value `h`. -/
def chunk (counter : Nat) (h : Chaining) (start : UInt32) (bytes : List UInt8) : Node :=
  if bytes.length ≤ 64 then
    ⟨h, blockOf bytes, counter, bytes.length, start ||| chunkEnd⟩
  else
    let block : Node := ⟨h, blockOf (bytes.take 64), counter, 64, start⟩
    chunk counter block.compress 0 (bytes.drop 64)
termination_by bytes.length
decreasing_by simp only [List.length_drop]; omega

/-- Cuts a message into chunks of 1024 bytes; the last one may be shorter, and the empty message
has one empty chunk. -/
def chunks (bytes : List UInt8) : List (List UInt8) :=
  if bytes.length ≤ 1024 then [bytes]
  else bytes.take 1024 :: chunks (bytes.drop 1024)
termination_by bytes.length
decreasing_by simp only [List.length_drop]; omega

/-! ### The tree -/

/-- The number of leaves left of the root of a tree with `n ≥ 2` leaves: the largest power of two
below `n`. -/
def leftLeaves (n : Nat) : Nat := Nat.pow 2 (n - 1).log2

theorem leftLeaves_pos (n : Nat) : 0 < leftLeaves n := Nat.two_pow_pos _

theorem leftLeaves_lt {n : Nat} (h : 2 ≤ n) : leftLeaves n < n := by
  have := Nat.log2_self_le (n := n - 1) (by omega)
  simp only [leftLeaves, Nat.pow_eq]
  omega

/-- The topmost node over some chunks, the first of which has number `counter`. -/
def tree (counter : Nat) (leaves : List (List UInt8)) : Node :=
  if leaves.length ≤ 1 then
    chunk counter initial chunkStart (leaves.headD [])
  else
    let k := leftLeaves leaves.length
    .join (tree counter (leaves.take k)).compress (tree (counter + k) (leaves.drop k)).compress
termination_by leaves.length
decreasing_by
  · have := leftLeaves_lt (n := leaves.length) (by omega)
    simp only [List.length_take]; omega
  · have := leftLeaves_pos leaves.length
    simp only [List.length_drop]; omega

/-- The four bytes of a word, the lowest first. -/
def bytesOf (w : UInt32) : List UInt8 :=
  [w.toUInt8, (w >>> 8).toUInt8, (w >>> 16).toUInt8, (w >>> 24).toUInt8]

/-- The digest of a message: 32 bytes. -/
def digest (bytes : List UInt8) : List UInt8 :=
  (tree 0 (chunks bytes)).asRoot.compress.toList.flatMap bytesOf

end AlertRouter.Blake3
