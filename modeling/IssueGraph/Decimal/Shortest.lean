import IssueGraph.Decimal.Binary64

/-!
# Shortest decimals

The shortest decimal of a double is the one with the fewest digits that rounds back to the double;
of those with as few digits it is the nearest one. The search tries one digit, two digits and so on,
and tests the two neighbours of the value on each grid in exact arithmetic.
-/
namespace IssueGraph

/-- The number `digits · 10 ^ exponent`. -/
structure Decimal where
  digits : Nat
  exponent : Int
  deriving DecidableEq, Repr

namespace Decimal

/-- Which of two equally near decimals is taken. -/
inductive Tie where
  | toEven
  | up
  deriving DecidableEq, Repr

/-- A positive value between the two ends of the interval of reals that round to it, all three in
units of `num / den`. The ends belong to the interval when `closed`. -/
structure Interval where
  low : Nat
  value : Nat
  high : Nat
  num : Nat
  den : Nat
  closed : Bool

/-- The interval of a double other than zero. Below a power of two the doubles lie twice as dense.
-/
def Interval.of (p : Binary64.Parts) : Interval :=
  let narrow := p.mantissa == Binary64.hiddenBit && -1074 < p.exponent
  let e := p.exponent - 2
  { low := 4 * p.mantissa - (if narrow then 1 else 2)
    value := 4 * p.mantissa
    high := 4 * p.mantissa + 2
    num := if e < 0 then 1 else Nat.pow 2 e.toNat
    den := if e < 0 then Nat.pow 2 (-e).toNat else 1
    closed := p.mantissa % 2 == 0 }

/-- The same interval in units of `10 ^ k`. -/
def Interval.scale (i : Interval) (k : Int) : Interval :=
  { i with
    num := if k < 0 then i.num * Nat.pow 10 (-k).toNat else i.num
    den := if k < 0 then i.den else i.den * Nat.pow 10 k.toNat }

/-- Whether the natural `d` lies in the interval. -/
def Interval.contains (i : Interval) (d : Nat) : Bool :=
  if i.closed then i.low * i.num ≤ d * i.den && d * i.den ≤ i.high * i.num
  else i.low * i.num < d * i.den && d * i.den < i.high * i.num

/-- The natural in the interval that is nearest to its value, if a neighbour of the value is in
it. -/
def Interval.nearest? (i : Interval) (tie : Tie) : Option Nat :=
  let d := i.value * i.num / i.den
  match i.contains d, i.contains (d + 1) with
  | false, false => none
  | true, false => some d
  | false, true => some (d + 1)
  | true, true =>
    let below := i.value * i.num - d * i.den
    let above := (d + 1) * i.den - i.value * i.num
    if below < above then some d
    else if above < below then some (d + 1)
    else match tie with
      | .up => some (d + 1)
      | .toEven => some (if d % 2 == 0 then d else d + 1)

/-- The exponent of ten of the leading digit of the value. -/
def Interval.magnitude (i : Interval) : Int :=
  let bits : Int := ((i.value * i.num).log2 : Int) - i.den.log2
  let guess := bits * 30103 / 100000 - 1
  let reaches (e : Int) : Bool := (i.scale e).den ≤ (i.scale e).value * (i.scale e).num
  if reaches (guess + 2) then guess + 2 else if reaches (guess + 1) then guess + 1 else guess

/-- Drop zeros at the end. -/
def trimZeros : Nat → Decimal → Decimal
  | 0, d => d
  | n + 1, d => if d.digits % 10 == 0 then trimZeros n ⟨d.digits / 10, d.exponent + 1⟩ else d

/-- The shortest decimal of a finite double other than zero, without its sign. -/
def shortest (tie : Tie) (x : Float) : Decimal :=
  let i := Interval.of (Binary64.parts x)
  let e := i.magnitude
  let candidate (n : Nat) : Option Decimal :=
    ((i.scale (e - n)).nearest? tie).map fun d => ⟨d, e - n⟩
  trimZeros 20 (((List.range 17).findSome? candidate).getD ⟨0, 0⟩)

end Decimal

end IssueGraph
