/-!
# The floor of a binary32 number

`floor x` is the largest whole number that is at most `x`, read off the bit pattern of `x`.  The
exponent field says how many of the low bits of the significand lie behind the binary point
(`fractionMask`).  Clearing them rounds towards zero; for a negative number that has a fraction the
magnitude is raised first, and a carry out of the significand lands in the exponent field, which is
where it belongs.  Zeros keep their sign, and infinities, `NaN` and numbers too large to have a
fraction are their own floor.
-/

namespace SignalBoard

set_option autoImplicit false

/-- The biased exponent held in bits 23 to 30. -/
def exponentField (bits : UInt32) : UInt32 := (bits >>> 23) &&& 0xff

def signBit (bits : UInt32) : Bool := 0x80000000 ≤ bits

/-- The significand bits worth less than one, for an exponent field from 127 to 149. -/
def fractionMask (exponent : UInt32) : UInt32 := (1 <<< (150 - exponent)) - 1

/-- The largest whole number that is at most `x`. -/
def floor (x : Float32) : Float32 :=
  let bits := x.toBits
  let exponent := exponentField bits
  if 150 ≤ exponent then
    x
  else if exponent < 127 then
    if bits &&& 0x7fffffff = 0 then x else if signBit bits then -1 else 0
  else
    let mask := fractionMask exponent
    if bits &&& mask = 0 then x
    else if signBit bits then Float32.ofBits ((bits + mask) &&& ~~~mask)
    else Float32.ofBits (bits &&& ~~~mask)

end SignalBoard
