/-!
# The ChaCha block function as a stream of words

A block is sixteen 32-bit words.  `block rounds key counter` fills a block with four constants, the
eight words of the key, the 64-bit `counter` and two zero words, stirs it by `rounds` double rounds
and adds the unstirred block word by word.  `word rounds key n` is word `n` of the endless stream
made of the blocks number 0, 1, 2, … in order.
-/

namespace SignalBoard.ChaCha

set_option autoImplicit false

/-- Sixteen words, the unit in which the stream is produced. -/
abbrev Block := Vector UInt32 16

/-- The eight words that select a stream. -/
abbrev Key := Vector UInt32 8

/-! ## Stirring a block -/

/-- Rotation of a word by `n` places, for `n` from 1 to 31. -/
def rotateLeft (w n : UInt32) : UInt32 := (w <<< n) ||| (w >>> (32 - n))

def quarterRound (a b c d : Fin 16) (s : Block) : Block :=
  let s := s.set a (s[a] + s[b])
  let s := s.set d (rotateLeft (s[d] ^^^ s[a]) 16)
  let s := s.set c (s[c] + s[d])
  let s := s.set b (rotateLeft (s[b] ^^^ s[c]) 12)
  let s := s.set a (s[a] + s[b])
  let s := s.set d (rotateLeft (s[d] ^^^ s[a]) 8)
  let s := s.set c (s[c] + s[d])
  s.set b (rotateLeft (s[b] ^^^ s[c]) 7)

/-- A round over the four columns of the block. -/
def columnRound (s : Block) : Block :=
  quarterRound 3 7 11 15 (quarterRound 2 6 10 14 (quarterRound 1 5 9 13 (quarterRound 0 4 8 12 s)))

/-- A round over the four diagonals of the block. -/
def diagonalRound (s : Block) : Block :=
  quarterRound 3 4 9 14 (quarterRound 2 7 8 13 (quarterRound 1 6 11 12 (quarterRound 0 5 10 15 s)))

def stir : Nat → Block → Block
  | 0, s => s
  | n + 1, s => stir n (diagonalRound (columnRound s))

/-! ## Blocks and the stream -/

def seedBlock (key : Key) (counter : UInt64) : Block :=
  #v[0x61707865, 0x3320646e, 0x79622d32, 0x6b206574,
     key[0], key[1], key[2], key[3], key[4], key[5], key[6], key[7],
     counter.toUInt32, (counter >>> 32).toUInt32, 0, 0]

/-- The stirred block, with the unstirred one added to it. -/
def block (doubleRounds : Nat) (key : Key) (counter : UInt64) : Block :=
  let start := seedBlock key counter
  (stir doubleRounds start).zipWith (· + ·) start

def word (doubleRounds : Nat) (key : Key) (n : Nat) : UInt32 :=
  (block doubleRounds key (UInt64.ofNat (n / 16))).get ⟨n % 16, Nat.mod_lt n (by decide)⟩

end SignalBoard.ChaCha
