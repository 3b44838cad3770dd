/-!
The shortest decimal that reads back as a given binary fraction. A finite double is `m * 2 ^ q`;
the reals that round to it form an interval, closed when `m` is even. For one digit, two digits
and so on, the two neighbours of the value on that decimal grid are tried, and the first grid with
a neighbour inside the interval gives the answer, the nearer neighbour if both are inside.
-/

set_option autoImplicit false

namespace Dialogue

structure Decimal where
  digits : Nat
  exponent : Int
deriving DecidableEq, Repr

namespace Decimal

structure Ratio where
  num : Nat
  den : Nat

namespace Ratio

def le (a b : Ratio) : Bool := a.num * b.den ≤ b.num * a.den
def lt (a b : Ratio) : Bool := a.num * b.den < b.num * a.den

def gap (a b : Ratio) : Ratio :=
  let left := a.num * b.den
  let right := b.num * a.den
  ⟨if left ≤ right then right - left else left - right, a.den * b.den⟩

def scaled (m base : Nat) (power : Int) : Ratio :=
  if 0 ≤ power then ⟨m * Nat.pow base power.toNat, 1⟩
  else ⟨m, Nat.pow base (-power).toNat⟩

end Ratio

structure Interval where
  low : Ratio
  high : Ratio
  closed : Bool

def Interval.contains (interval : Interval) (x : Ratio) : Bool :=
  if interval.closed then interval.low.le x && x.le interval.high
  else interval.low.lt x && x.lt interval.high

def parts (bits : UInt64) : Nat × Int :=
  let fraction : Nat := bits.toNat % Nat.pow 2 52
  let exponent : Nat := bits.toNat / Nat.pow 2 52 % Nat.pow 2 11
  if exponent = 0 then (fraction, -1074) else (fraction + Nat.pow 2 52, (exponent : Int) - 1075)

-- Half way to each neighbour; below a power of two the lower neighbour is twice as near.
def interval (bits : UInt64) : Interval :=
  let (m, q) := parts bits
  let lower := if m = Nat.pow 2 52 && 1 < bits.toNat / Nat.pow 2 52 % Nat.pow 2 11 then 1 else 2
  ⟨.scaled (4 * m - lower) 2 (q - 2), .scaled (4 * m + 2) 2 (q - 2), m % 2 = 0⟩

def digitCount (n : Nat) : Nat := (Nat.toDigits 10 n).length

-- The exponent of the leading decimal digit. Every positive double is above `10 ^ (-400)`.
def leading (x : Ratio) : Int := (digitCount (x.num * Nat.pow 10 400 / x.den) : Int) - 401

def stripped : Nat → Decimal → Decimal
  | 0, d => d
  | fuel + 1, d =>
    if d.digits ≠ 0 ∧ d.digits % 10 = 0 then stripped fuel ⟨d.digits / 10, d.exponent + 1⟩ else d

def onGrid (interval : Interval) (x : Ratio) (step : Int) : Option Decimal :=
  let below := if 0 ≤ step then x.num / (x.den * Nat.pow 10 step.toNat)
    else x.num * Nat.pow 10 (-step).toNat / x.den
  let above := below + 1
  let lower := Ratio.scaled below 10 step
  let upper := Ratio.scaled above 10 step
  match interval.contains lower, interval.contains upper with
  | false, false => none
  | true, false => some ⟨below, step⟩
  | false, true => some ⟨above, step⟩
  | true, true =>
    if (x.gap lower).lt (x.gap upper) then some ⟨below, step⟩
    else if (x.gap upper).lt (x.gap lower) then some ⟨above, step⟩
    else some ⟨if below % 2 = 0 then below else above, step⟩

def shortest (bits : UInt64) : Decimal :=
  let (m, q) := parts bits
  let x := Ratio.scaled m 2 q
  let top := leading x
  let range := interval bits
  let found := (List.range 17).findSome? fun (more : Nat) => onGrid range x (top - (more : Int))
  (found.getD ⟨m, q⟩).stripped 20

end Decimal

end Dialogue
