/-!
# Double-precision numbers as exact rationals

A finite double is `m · 2 ^ q` for naturals `m` and integers `q`. This module takes doubles apart
and rounds a quotient of naturals to the nearest double, a tie going to the even neighbour.
-/
namespace IssueGraph.Binary64

/-- The absolute value of a finite double as `mantissa · 2 ^ exponent`. -/
structure Parts where
  mantissa : Nat
  exponent : Int
  deriving DecidableEq, Repr

/-- The mantissa of a normal number has this bit. -/
def hiddenBit : Nat := Nat.pow 2 52

/-- Take a finite double apart, forgetting its sign. -/
def parts (x : Float) : Parts :=
  let bits := x.toBits.toNat
  let fraction := bits % hiddenBit
  let biased := bits / hiddenBit % 2048
  if biased = 0 then ⟨fraction, -1074⟩ else ⟨hiddenBit + fraction, (biased : Int) - 1075⟩

/-- Whether the sign bit is set, also of zero and of values that are not numbers. -/
def isNegative (x : Float) : Bool := Nat.pow 2 63 ≤ x.toBits.toNat

/-- The exponent at which the quotient has a mantissa of 53 bits, or the least one there is. -/
def exponentFor (num den : Nat) : Int :=
  let e : Int := (num.log2 : Int) - den.log2 - 53
  let wide := if e < 0 then num * Nat.pow 2 (-e).toNat / den else num / (den * Nat.pow 2 e.toNat)
  max (-1074) (if Nat.pow 2 53 ≤ wide then e + 1 else e)

/-- The quotient of two naturals rounded to a natural, a tie going to the even one. -/
def roundQuotient (num den : Nat) : Nat :=
  let q := num / den
  let twice := 2 * (num % den)
  if den < twice || (twice == den && q % 2 == 1) then q + 1 else q

/-- The double nearest to `num / den`, infinite when that is out of range. -/
def ofRatio (num den : Nat) : Float :=
  if num = 0 then 0.0
  else
    let e := exponentFor num den
    let m := if e < 0 then roundQuotient (num * Nat.pow 2 (-e).toNat) den
      else roundQuotient num (den * Nat.pow 2 e.toNat)
    let bits := (e + 1074).toNat * hiddenBit + m
    Float.ofBits (min bits (2047 * hiddenBit)).toUInt64

/-- The double nearest to `digits · 10 ^ exponent`. Exponents beyond the range of doubles are told
by the number of digits, so that no huge power is taken. -/
def ofDecimal (digits : Nat) (exponent : Int) : Float :=
  if digits = 0 then 0.0
  else
    let length : Int := (Nat.toDigits 10 digits).length
    if 400 < exponent + length then Float.ofBits (2047 * hiddenBit).toUInt64
    else if exponent + length < -400 then 0.0
    else if exponent < 0 then ofRatio digits (Nat.pow 10 (-exponent).toNat)
    else ofRatio (digits * Nat.pow 10 exponent.toNat) 1

end IssueGraph.Binary64
