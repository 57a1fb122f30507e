/-!
# The hash function BLAKE3

The unkeyed hash of a byte string, with 32 bytes of output. The input is cut into chunks of 1024
bytes, a chunk into blocks of 64 bytes. The blocks of a chunk are chained by the compression
function, and the chaining values of the chunks are the leaves of a binary tree whose left subtrees
are complete and as large as possible.
-/

namespace Groupwise.Blake3

/-- A vector of words; a word that is not there is zero. -/
abbrev Words := Array UInt32

/-- The initial chaining value. -/
def initial : Words :=
  #[0x6A09E667, 0xBB67AE85, 0x3C6EF372, 0xA54FF53A, 0x510E527F, 0x9B05688C, 0x1F83D9AB,
    0x5BE0CD19]

/-- How the words of a block are rearranged from round to round. -/
def permutation : Array Nat := #[2, 6, 3, 10, 7, 0, 4, 13, 1, 11, 12, 5, 9, 14, 15, 8]

def chunkStart : UInt32 := 1
def chunkEnd : UInt32 := 2
def parentNode : UInt32 := 4
def rootNode : UInt32 := 8

/-- A word rotated to the right by `n < 32` bits. -/
def rotate (w : UInt32) (n : UInt32) : UInt32 := (w >>> n) ||| (w <<< (32 - n))

/-- The quarter round on four words of the state, with two words of the block. -/
def mix (v : Words) (a b c d : Nat) (x y : UInt32) : Words :=
  let va := v.getD a 0 + v.getD b 0 + x
  let vd := rotate (v.getD d 0 ^^^ va) 16
  let vc := v.getD c 0 + vd
  let vb := rotate (v.getD b 0 ^^^ vc) 12
  let va := va + vb + y
  let vd := rotate (vd ^^^ va) 8
  let vc := vc + vd
  let vb := rotate (vb ^^^ vc) 7
  (((v.setIfInBounds a va).setIfInBounds b vb).setIfInBounds c vc).setIfInBounds d vd

/-- One round: the columns, then the diagonals. -/
def round (v block : Words) : Words :=
  let w (i : Nat) : UInt32 := block.getD i 0
  let v := mix v 0 4 8 12 (w 0) (w 1)
  let v := mix v 1 5 9 13 (w 2) (w 3)
  let v := mix v 2 6 10 14 (w 4) (w 5)
  let v := mix v 3 7 11 15 (w 6) (w 7)
  let v := mix v 0 5 10 15 (w 8) (w 9)
  let v := mix v 1 6 11 12 (w 10) (w 11)
  let v := mix v 2 7 8 13 (w 12) (w 13)
  mix v 3 4 9 14 (w 14) (w 15)

/-- Seven rounds, the block rearranged between them. -/
def rounds : Nat → Words → Words → Words
  | 0, v, _ => v
  | n + 1, v, block => rounds n (round v block) (permutation.map fun i => block.getD i 0)

/-- What the compression function is applied to. -/
structure Node where
  chaining : Words
  block : Words
  counter : UInt64
  length : UInt32
  flags : UInt32

/-- The compression function. -/
def Node.compress (n : Node) (flags : UInt32) : Words :=
  let v := n.chaining ++ initial.extract 0 4 ++
    #[n.counter.toUInt32, (n.counter >>> 32).toUInt32, n.length, n.flags ||| flags]
  let v := rounds 7 v n.block
  (Array.range 8).map (fun i => v.getD i 0 ^^^ v.getD (i + 8) 0) ++
    (Array.range 8).map (fun i => v.getD (i + 8) 0 ^^^ n.chaining.getD i 0)

/-- The chaining value of a node that is not the root. -/
def Node.value (n : Node) : Words := (n.compress 0).extract 0 8

/-- A list cut into pieces of length `n`, the last one possibly shorter. -/
def pieces (n : Nat) (bytes : List UInt8) : List (List UInt8) :=
  if _h : n = 0 ∨ bytes.length ≤ n then [bytes]
  else bytes.take n :: pieces n (bytes.drop n)
termination_by bytes.length
decreasing_by simp; omega

/-- A word of four bytes, the lowest first; missing bytes are zero. -/
def word (bytes : List UInt8) : UInt32 :=
  bytes.foldr (fun b w => b.toUInt32 ||| (w <<< 8)) 0

/-- The words of a block. -/
def blockWords (bytes : List UInt8) : Words :=
  let words := ((pieces 4 bytes).map word).toArray
  words ++ Array.replicate (16 - words.size) 0

/-- The last node of a chunk, whose blocks are chained. -/
def chunkNode (counter : UInt64) (chaining : Words) (flags : UInt32) :
    List (List UInt8) → Node
  | [] => ⟨chaining, blockWords [], counter, 0, flags ||| chunkEnd⟩
  | [block] => ⟨chaining, blockWords block, counter, block.length.toUInt32, flags ||| chunkEnd⟩
  | block :: rest =>
    let node : Node := ⟨chaining, blockWords block, counter, block.length.toUInt32, flags⟩
    chunkNode counter node.value 0 rest

/-- The node over two subtrees. -/
def parent (left right : Node) : Node :=
  ⟨initial, left.value ++ right.value, 0, 64, parentNode⟩

/-- The largest power of two below `n`, for `n` at least two. -/
def leftSize (n : Nat) : Nat := Nat.pow 2 (n - 1).log2

/-- The root of the tree over the nodes of all chunks. -/
def tree (nodes : List Node) : Node :=
  match nodes with
  | [] => chunkNode 0 initial chunkStart []
  | [node] => node
  | a :: b :: rest =>
    let k := leftSize (rest.length + 2)
    parent (tree ((a :: b :: rest).take k)) (tree ((a :: b :: rest).drop k))
termination_by nodes.length
decreasing_by
  · simp only [List.length_take, List.length_cons]
    have : Nat.pow 2 (rest.length + 2 - 1).log2 ≤ rest.length + 2 - 1 := Nat.log2_self_le (by omega)
    simp only [leftSize]
    omega
  · simp only [List.length_drop, List.length_cons]
    have : 0 < Nat.pow 2 (rest.length + 2 - 1).log2 := Nat.two_pow_pos _
    simp only [leftSize]
    omega

/-- The bytes of a word, the lowest first. -/
def wordBytes (w : UInt32) : List UInt8 :=
  [w.toUInt8, (w >>> 8).toUInt8, (w >>> 16).toUInt8, (w >>> 24).toUInt8]

/-- The root of the tree over a byte string. -/
def root (bytes : List UInt8) : Node :=
  tree ((pieces 1024 bytes).mapIdx fun i chunk =>
    chunkNode i.toUInt64 initial chunkStart (pieces 64 chunk))

/-- The hash of a byte string. -/
def hash (bytes : List UInt8) : List UInt8 :=
  let words := (root bytes).compress rootNode
  (List.range 8).flatMap fun i => wordBytes (words.getD i 0)

theorem length_hash (bytes : List UInt8) : (hash bytes).length = 32 := rfl

end Groupwise.Blake3
