import SignalBoard.Random.ChaCha

/-!
# Reproducible weights

Weights that nobody chose are drawn from `[-1, 1]`, one after another, from a stream that a 64-bit
seed determines.  `sample seed n` is number `n` of that stream.  A `Sampler` is a seed together with
the number of samples drawn so far, so drawing moves along the stream one sample at a time, without
gaps or repetition, and a sampler is determined by where it stands.
-/

namespace SignalBoard

set_option autoImplicit false

namespace Sampler

/-! ## The stream of a seed -/

/-- The linear congruential step that spreads a seed over the words of a key. -/
def stepSeed (state : UInt64) : UInt64 := state * 6364136223846793005 + 11634580027462260723

/-- A key word: a shifted exclusive or of the state, rotated right by the state's top five bits. -/
def keyWord (state : UInt64) : UInt32 :=
  let mixed := (((state >>> 18) ^^^ state) >>> 27).toUInt32
  let turn := (state >>> 59).toUInt32
  (mixed >>> turn) ||| (mixed <<< ((32 - turn) &&& 31))

/-- The key word made after `n + 1` steps from the seed. -/
def keyWordAt (seed : UInt64) : Nat → UInt32
  | 0 => keyWord (stepSeed seed)
  | n + 1 => keyWordAt (stepSeed seed) n

def key (seed : UInt64) : ChaCha.Key := Vector.ofFn fun i => keyWordAt seed i

/-- The top 23 bits of a word, placed evenly on `[-1, 1)`: each value is exact. -/
def unit (w : UInt32) : Float32 := (w >>> 9).toFloat32 * 2.384185791015625e-7 - 1

/-- Sample number `n` of a seed, from six double rounds. -/
def sample (seed : UInt64) (n : Nat) : Float32 := unit (ChaCha.word 6 (key seed) n)

end Sampler

/-! ## Drawing -/

/-- A place in the stream of samples of a seed. -/
structure Sampler where
  seed : UInt64
  drawn : Nat
  deriving DecidableEq

namespace Sampler

def ofSeed (seed : UInt64) : Sampler := ⟨seed, 0⟩

def advance (s : Sampler) (count : Nat) : Sampler := { s with drawn := s.drawn + count }

def next (s : Sampler) : Float32 := sample s.seed s.drawn

def upcoming (s : Sampler) (count : Nat) : List Float32 :=
  (List.range count).map fun k => sample s.seed (s.drawn + k)

@[simp] theorem length_upcoming (s : Sampler) (count : Nat) :
    (s.upcoming count).length = count := by
  simp [upcoming]

theorem advance_advance (s : Sampler) (m n : Nat) :
    (s.advance m).advance n = s.advance (m + n) := by
  simp [advance, Nat.add_assoc]

/-- Samples drawn in two goes are the samples drawn in one. -/
theorem upcoming_add (s : Sampler) (m n : Nat) :
    s.upcoming (m + n) = s.upcoming m ++ (s.advance m).upcoming n := by
  simp [upcoming, advance, List.range_add, Nat.add_assoc]

end Sampler

end SignalBoard
