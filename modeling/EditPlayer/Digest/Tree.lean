import EditPlayer.Digest.Compression
import EditPlayer.Text.Utf8
set_option autoImplicit false

/-!
# The BLAKE3 digest of a text

The bytes are cut into chunks of 1024 bytes, each chunk into blocks of 64 bytes.  A chunk is hashed
by chaining its blocks; the chunks are the leaves of a binary tree whose inner nodes hash the
chaining values of their two children.  The tree is built level by level: neighbours are paired, and
a node without a neighbour goes up one level unpaired.  The root is compressed with a mark of its
own, and its chaining value, written in hexadecimal, is the digest.
-/

namespace EditPlayer.Digest

open EditPlayer.Utf8 (Bytes)

/-! ## Marks of a node's place -/

/-- Marks the first block of a chunk. -/
def chunkStart : UInt32 := 1

/-- Marks the last block of a chunk. -/
def chunkEnd : UInt32 := 2

/-- Marks an inner node. -/
def parentMark : UInt32 := 4

/-- Marks the root. -/
def rootMark : UInt32 := 8

/-! ## Nodes -/

/-- A node of the tree: what its last compression takes, apart from the mark of the root. -/
structure Node where
  chain : Chain
  block : Block
  counter : UInt64
  length : UInt32
  flags : UInt32

/-- The chaining value of a node below the root. -/
def Node.value (node : Node) : Chain :=
  compress node.chain node.block node.counter node.length node.flags

/-- The chaining value of a node that is the root. -/
def Node.rootValue (node : Node) : Chain :=
  compress node.chain node.block node.counter node.length (node.flags ||| rootMark)

/-- The inner node above two nodes. -/
def Node.parent (left right : Node) : Node :=
  { chain := initialChain, block := left.value ++ right.value, counter := 0, length := 64,
    flags := parentMark }

/-! ## Chunks -/

/-- Pieces of `size` elements, the last one shorter; at least one piece, and at most `fuel`. -/
def cut {α : Type} (size : Nat) : Nat → List α → List (List α)
  | 0, list => [list]
  | fuel + 1, list =>
      let rest := list.drop size
      if rest.isEmpty then [list] else list.take size :: cut size fuel rest

/-- The words of a block, each of four bytes with the lowest first; missing bytes are zero. -/
def blockWords (bytes : Bytes) : Block :=
  let padded := bytes.toArray
  Vector.ofFn fun i : Fin 16 =>
    let byte (k : Nat) : UInt32 := (padded.getD (4 * i.val + k) 0).toUInt32
    byte 0 ||| (byte 1 <<< 8) ||| (byte 2 <<< 16) ||| (byte 3 <<< 24)

/-- The node of a chunk from its blocks, given the chaining value before them and the mark of the
first one. -/
def chunkNode (counter : UInt64) (chain : Chain) (mark : UInt32) : List Bytes → Node
  | [] =>
      { chain, block := blockWords [], counter, length := 0, flags := mark ||| chunkEnd }
  | [last] =>
      { chain, block := blockWords last, counter, length := last.length.toUInt32,
        flags := mark ||| chunkEnd }
  | block :: next :: rest =>
      chunkNode counter (compress chain (blockWords block) counter 64 mark) 0 (next :: rest)

/-- The node of the chunk with a given number. -/
def leaf (bytes : Bytes) (number : Nat) : Node :=
  chunkNode number.toUInt64 initialChain chunkStart (cut 64 bytes.length bytes)

/-! ## The tree -/

/-- Neighbours paired; a last node without a neighbour stays. -/
def pairUp : List Node → List Node
  | left :: right :: rest => left.parent right :: pairUp rest
  | nodes => nodes

/-- The root above the nodes of a level that begins with `first`, after at most `fuel` levels. -/
def rootOf : Nat → Node → List Node → Node
  | 0, first, _ => first
  | _ + 1, first, [] => first
  | fuel + 1, first, second :: rest => rootOf fuel (first.parent second) (pairUp rest)

/-- The root of the tree over the bytes. -/
def root (bytes : Bytes) : Node :=
  match (cut 1024 bytes.length bytes).zipIdx with
  | [] => leaf [] 0
  | (chunk, number) :: rest =>
      rootOf rest.length (leaf chunk number) (rest.map fun c => leaf c.1 c.2)

/-- The two lower-case hexadecimal digits of a byte. -/
def hexByte (n : Nat) : Text := [Nat.digitChar (n / 16), Nat.digitChar (n % 16)]

/-- The hexadecimal digits of a word, lowest byte first. -/
def hexWord (word : UInt32) : Text :=
  let n := word.toNat
  hexByte (n % 256) ++ hexByte (n / 256 % 256) ++ hexByte (n / 65536 % 256) ++
    hexByte (n / 16777216 % 256)

/-- The digest of bytes: 64 hexadecimal digits. -/
def ofBytes (bytes : Bytes) : Text := (root bytes).rootValue.toList.flatMap hexWord

/-- The digest of a text. -/
def ofText (text : Text) : Text := ofBytes (Utf8.encode text)

end EditPlayer.Digest
