import PagePress.Decimal.Shortest

/-!
# Reading decimals

* `Binary64.ofDecimal` rounds `m * 10 ^ e` to the nearest double;
* `Binary64.ofParts` scales a rounded significand by one rounded power of ten, which may
  differ from the nearest double in the last bit.
-/

namespace PagePress

namespace Binary64

/-- The double nearest to `m * 10 ^ e`. -/
def ofDecimal (negative : Bool) (m : Nat) (e : Int) : Binary64 :=
  let f := match e with
    | .ofNat n => Float.ofScientific m false n
    | .negSucc n => Float.ofScientific m true (n + 1)
  ofFloat (if negative then -f else f)

/-- The power of ten `10 ^ n` as a double, for `n ≤ 308`. -/
def powerOfTen (n : Nat) : Float := Float.ofScientific 1 false n

/-- Divides by `10 ^ 308` until the exponent is within reach. -/
def scaleDown (f : Float) : Nat → Nat → Float
  | 0, n => f / powerOfTen (min n 308)
  | fuel + 1, n =>
    if n ≤ 308 then f / powerOfTen n
    else if f == 0.0 then f
    else scaleDown (f / powerOfTen 308) fuel (n - 308)

/-- A 64-bit significand times a power of ten: the significand is rounded to a double, then
multiplied or divided by the rounded power.  Nothing when the result is infinite. -/
def ofParts (negative : Bool) (m : Nat) (e : Int) : Option Binary64 :=
  let f := m.toUInt64.toFloat
  let signed (g : Float) : Binary64 := ofFloat (if negative then -g else g)
  match e with
  | .ofNat n =>
    if n ≤ 308 then
      let g := f * powerOfTen n
      if g.isInf then none else some (signed g)
    else if f == 0.0 then some (signed f) else none
  | .negSucc n => some (signed (scaleDown f (n + 1) (n + 1)))

end Binary64

end PagePress
