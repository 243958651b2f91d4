/-!
# Shortest decimals — the fewest digits that read back

A finite binary number is `m * 2 ^ q`.  The reals that round to it form an interval
around it, closed when `m` is even.  For one, two, … seventeen digits the two
neighbours of the value on that decimal grid are tested in exact arithmetic, and the
first grid with a neighbour inside the interval gives the digits.

* `Binary64` is a floating-point number by its bits;
* `Shortest.digits` finds the digits and the exponent of the last one.
-/

namespace PagePress

/-- A double-precision number, given by its bits. -/
structure Binary64 where
  bits : UInt64
deriving DecidableEq, Repr, Inhabited

namespace Binary64

/-- The number as a machine float. -/
def toFloat (x : Binary64) : Float := Float.ofBits x.bits

/-- The bits of a machine float. -/
def ofFloat (f : Float) : Binary64 := ⟨f.toBits⟩

/-- The sign bit is set. -/
def isNegative (x : Binary64) : Bool := x.bits >>> 63 != 0

/-- The eleven exponent bits. -/
def exponentBits (x : Binary64) : Nat := (x.bits >>> 52).toNat % 2048

/-- The fifty-two fraction bits: the remainder by `2 ^ 52`. -/
def fractionBits (x : Binary64) : Nat := x.bits.toNat % 4503599627370496

/-- Neither an infinity nor a NaN. -/
def isFinite (x : Binary64) : Bool := x.exponentBits != 2047

/-- Integer significand `m` of a finite number `m * 2 ^ q`: the fraction bits, and the
hidden bit `2 ^ 52` if the number is normal. -/
def significand (x : Binary64) : Nat :=
  if x.exponentBits = 0 then x.fractionBits else x.fractionBits + 4503599627370496

/-- Power of two `q` of a finite number `m * 2 ^ q`. -/
def power (x : Binary64) : Int :=
  if x.exponentBits = 0 then -1074 else (x.exponentBits : Int) - 1075

end Binary64

namespace Shortest

/-- A non-negative rational. -/
structure Ratio where
  num : Nat
  den : Nat

/-- `a ≤ b`, or `a < b` when `closed` is false. -/
def Ratio.below (closed : Bool) (a b : Ratio) : Bool :=
  if closed then a.num * b.den ≤ b.num * a.den else a.num * b.den < b.num * a.den

/-- `d * 10 ^ k`. -/
def gridPoint (d : Nat) (k : Int) : Ratio :=
  match k with
  | .ofNat n => ⟨d * Nat.pow 10 n, 1⟩
  | .negSucc n => ⟨d, Nat.pow 10 (n + 1)⟩

/-- The quotient of `v` by `10 ^ k`, rounded down. -/
def gridFloor (v : Ratio) (k : Int) : Nat :=
  match k with
  | .ofNat n => v.num / (v.den * Nat.pow 10 n)
  | .negSucc n => v.num * Nat.pow 10 (n + 1) / v.den

/-- The number of decimal digits of a natural number (0 for 0). -/
def digitCount (n : Nat) : Nat := if n = 0 then 0 else (Nat.toDigits 10 n).length

/-- The exponent `p` with `10 ^ (p - 1) ≤ v < 10 ^ p`, for `v < 1` by counting up. -/
def leadingZeros (v : Ratio) : Nat → Nat → Nat
  | 0, j => j
  | fuel + 1, j => if v.num * Nat.pow 10 (j + 1) < v.den then leadingZeros v fuel (j + 1) else j

/-- The decimal magnitude `p` of a positive value: `10 ^ (p - 1) ≤ v < 10 ^ p`. -/
def magnitude (v : Ratio) : Int :=
  if v.num < v.den then - (leadingZeros v 400 0 : Int)
  else (digitCount (v.num / v.den) : Int)

/-- `c * 2 ^ q` as a ratio. -/
def scaled (c : Nat) (q : Int) : Ratio :=
  match q with
  | .ofNat n => ⟨c * Nat.pow 2 n, 1⟩
  | .negSucc n => ⟨c, Nat.pow 2 (n + 1)⟩

/-- Distance of two ratios. -/
def distance (a b : Ratio) : Ratio :=
  let x := a.num * b.den
  let y := b.num * a.den
  ⟨(x - y) + (y - x), a.den * b.den⟩

/-- Of the two neighbours of `v` on the grid of `10 ^ k`, the nearer one inside the
interval; a tie goes to the even one. -/
def onGrid (inside : Ratio → Bool) (v : Ratio) (k : Int) : Option Nat :=
  let d := gridFloor v k
  let lower := gridPoint d k
  let upper := gridPoint (d + 1) k
  match inside lower && d != 0, inside upper with
  | true, true =>
    let toLower := distance v lower
    let toUpper := distance v upper
    if Ratio.below false toLower toUpper then some d
    else if Ratio.below false toUpper toLower then some (d + 1)
    else if d % 2 = 0 then some d else some (d + 1)
  | true, false => some d
  | false, true => some (d + 1)
  | false, false => none

/-- The first grid, from `n` digits on, that has a neighbour inside the interval. -/
def search (inside : Ratio → Bool) (v : Ratio) (p : Int) : Nat → Nat → Nat × Int
  | 0, n => (gridFloor v (p - n), p - n)
  | fuel + 1, n =>
    match onGrid inside v (p - n) with
    | some d => (d, p - n)
    | none => search inside v p fuel (n + 1)

/-- Drops trailing zeros of the digits, raising the exponent. -/
def trimZeros : Nat → Nat → Int → Nat × Int
  | 0, d, k => (d, k)
  | fuel + 1, d, k => if d != 0 && d % 10 = 0 then trimZeros fuel (d / 10) (k + 1) else (d, k)

/-- The shortest digits `d` and exponent `k` such that `d * 10 ^ k` reads back as the
positive finite number. -/
def digits (x : Binary64) : Nat × Int :=
  let m := x.significand
  let q := x.power
  let v := scaled (4 * m) (q - 2)
  let narrow := x.fractionBits = 0 && x.exponentBits > 1
  let low := scaled (if narrow then 4 * m - 1 else 4 * m - 2) (q - 2)
  let high := scaled (4 * m + 2) (q - 2)
  let closed := m % 2 = 0
  let inside r := Ratio.below closed low r && Ratio.below closed r high
  let (d, k) := search inside v (magnitude v) 17 1
  trimZeros 20 d k

end Shortest

end PagePress
