import SignalBoard.Settings

/-!
# The time between frames

The interval is one second divided by the frame rate as a binary64 number, taken exactly and rounded
to whole nanoseconds, a half going to the even neighbour.  `significand` and `shift` decode the
quotient: it is `significand bits / 2 ^ shift bits`.  A rate of zero has no interval.  Main
statements: `roundHalfEven_near` and `roundHalfEven_even`.
-/

namespace SignalBoard

set_option autoImplicit false

/-- The quotient of two numbers rounded to the nearest whole number, a half to the even one. -/
def roundHalfEven (num den : Nat) : Nat :=
  let quotient := num / den
  let rest := 2 * (num % den)
  if rest < den then quotient
  else if rest = den then quotient + quotient % 2
  else quotient + 1

/-- The rounded quotient is within half a unit of the quotient. -/
theorem roundHalfEven_near (num den : Nat) (h : 0 < den) :
    2 * num ≤ 2 * (den * roundHalfEven num den) + den ∧
      2 * (den * roundHalfEven num den) ≤ 2 * num + den := by
  have hsplit := Nat.div_add_mod num den
  have hrest := Nat.mod_lt num h
  have hsucc : den * (num / den + 1) = den * (num / den) + den := Nat.mul_succ den (num / den)
  unfold roundHalfEven
  simp only
  split
  · omega
  · split
    · rcases Nat.mod_two_eq_zero_or_one (num / den) with hq | hq
      · rw [hq, Nat.add_zero]
        omega
      · rw [hq, hsucc]
        omega
    · rw [hsucc]
      omega

/-- A quotient halfway between two whole numbers is rounded to the even one. -/
theorem roundHalfEven_even {num den : Nat} (h : 2 * (num % den) = den) :
    roundHalfEven num den % 2 = 0 := by
  have hround : roundHalfEven num den = num / den + num / den % 2 := by
    simp [roundHalfEven, h]
  omega

namespace Settings

inductive IntervalFault
  | notFinite
  deriving DecidableEq

def IntervalFault.message : IntervalFault → String
  | notFinite => "cannot convert float seconds to Duration: value is either too big or NaN"

/-- The significand of a positive normal binary64 number, as a whole number. -/
def significand (bits : UInt64) : Nat := 1 <<< 52 + bits.toNat % (1 <<< 52)

/-- The power of two by which the significand is to be divided, for a number up to one. -/
def shift (bits : UInt64) : Nat := 1075 - (bits.toNat >>> 52) % (1 <<< 11)

/-- The time between frames, in nanoseconds. -/
def frameInterval (frameRate : UInt32) : Except IntervalFault Nat :=
  if frameRate = 0 then .error .notFinite
  else
    let bits := (1.0 / frameRate.toFloat).toBits
    .ok (roundHalfEven (significand bits * 1000000000) (1 <<< shift bits))

end Settings

end SignalBoard
