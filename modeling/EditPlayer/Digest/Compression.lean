set_option autoImplicit false

/-!
# The compression function of BLAKE3

A block of sixteen words is mixed into a chaining value of eight words.  The state is a square of
four times four words: a round mixes its columns and then its diagonals, taking two words of the
message for each, and after a round the message is permuted.  Seven rounds are made.
-/

namespace EditPlayer.Digest

/-- A block of the message, or the state of the mixing. -/
abbrev Block : Type := Vector UInt32 16

/-- A chaining value. -/
abbrev Chain : Type := Vector UInt32 8

/-- The chaining value at the start. -/
def initialChain : Chain := #v[0x6A09E667, 0xBB67AE85, 0x3C6EF372, 0xA54FF53A,
  0x510E527F, 0x9B05688C, 0x1F83D9AB, 0x5BE0CD19]

/-- Which word of the message comes to each place after a round. -/
def permutation : Vector (Fin 16) 16 := #v[2, 6, 3, 10, 7, 0, 4, 13, 1, 11, 12, 5, 9, 14, 15, 8]

/-- The word with its bits moved to the right by `n` places, around the end. -/
def rotateRight (word n : UInt32) : UInt32 := (word >>> n) ||| (word <<< (32 - n))

/-- Mixes two words of the message into four words of the state. -/
def mix (state : Block) (a b c d : Fin 16) (x y : UInt32) : Block :=
  let a₁ := state[a] + state[b] + x
  let d₁ := rotateRight (state[d] ^^^ a₁) 16
  let c₁ := state[c] + d₁
  let b₁ := rotateRight (state[b] ^^^ c₁) 12
  let a₂ := a₁ + b₁ + y
  let d₂ := rotateRight (d₁ ^^^ a₂) 8
  let c₂ := c₁ + d₂
  let b₂ := rotateRight (b₁ ^^^ c₂) 7
  (((state.set a a₂).set b b₂).set c c₂).set d d₂

/-- One round: the four columns, then the four diagonals. -/
def round (state message : Block) : Block :=
  let state := mix state 0 4 8 12 message[0] message[1]
  let state := mix state 1 5 9 13 message[2] message[3]
  let state := mix state 2 6 10 14 message[4] message[5]
  let state := mix state 3 7 11 15 message[6] message[7]
  let state := mix state 0 5 10 15 message[8] message[9]
  let state := mix state 1 6 11 12 message[10] message[11]
  let state := mix state 2 7 8 13 message[12] message[13]
  mix state 3 4 9 14 message[14] message[15]

/-- The message in the order of the next round. -/
def permute (message : Block) : Block := permutation.map fun i => message[i]

/-- A number of rounds, with the message permuted after each. -/
def rounds : Nat → Block → Block → Block
  | 0, state, _ => state
  | n + 1, state, message => rounds n (round state message) (permute message)

/-- The state before the first round. -/
def startState (chain : Chain) (counter : UInt64) (length flags : UInt32) : Block :=
  chain ++ #v[initialChain[0], initialChain[1], initialChain[2], initialChain[3],
    counter.toUInt32, (counter >>> 32).toUInt32, length, flags]

/-- The chaining value after a block: the two halves of the state after seven rounds, combined. -/
def compress (chain : Chain) (block : Block) (counter : UInt64) (length flags : UInt32) : Chain :=
  let state := rounds 7 (startState chain counter length flags) block
  Vector.ofFn fun i : Fin 8 => state[i.val] ^^^ state[i.val + 8]

end EditPlayer.Digest
