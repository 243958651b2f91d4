import PagePress.Json.Printer

/-!
# Numbers of JSON values compared

Integers and other numbers are compared by value, exactly.

* `Json.quotient?` is the value of a number as a quotient;
* `Json.same` compares values, numbers by value;
* `Json.decimalText` writes a number without a point when it is whole.
-/

namespace PagePress

namespace Json

/-- A quotient of an integer by a positive number. -/
structure Quotient where
  num : Int
  den : Nat

namespace Quotient

/-- Whether a quotient is less than another. -/
def lt (a b : Quotient) : Bool := a.num * b.den < b.num * a.den

/-- Whether a quotient is at most another. -/
def le (a b : Quotient) : Bool := a.num * b.den ≤ b.num * a.den

/-- Whether a quotient is an integer. -/
def isWhole (a : Quotient) : Bool := a.num % a.den = 0

/-- Whether a quotient is a multiple of another. -/
def isMultiple (a b : Quotient) : Bool :=
  if b.num = 0 then false else (a.num * b.den) % (b.num * a.den) = 0

end Quotient

/-- The value of a floating-point number. -/
def floatValue (x : Binary64) : Quotient :=
  let m : Int := if x.isNegative then -(x.significand : Int) else x.significand
  match x.power with
  | .ofNat n => ⟨m * Nat.pow 2 n, 1⟩
  | .negSucc n => ⟨m, Nat.pow 2 (n + 1)⟩

/-- The value of a number. -/
def quotient? : Json → Option Quotient
  | int n => some ⟨n, 1⟩
  | float x => some (floatValue x)
  | _ => none

/-- Whether two numbers have the same value. -/
def sameNumber (a b : Json) : Bool :=
  match a.quotient?, b.quotient? with
  | some x, some y => x.le y && y.le x
  | _, _ => false

mutual

/-- Whether two values are the same, numbers being compared by value. -/
def same : Json → Json → Bool
  | null, null => true
  | bool a, bool b => a == b
  | str a, str b => a == b
  | arr a, arr b => sameItems a b
  | obj a, obj b => sameFields a b
  | int a, b => sameNumber (int a) b
  | float a, b => sameNumber (float a) b
  | _, _ => false

/-- Whether two lists hold the same values. -/
def sameItems : List Json → List Json → Bool
  | [], [] => true
  | a :: as, b :: bs => same a b && sameItems as bs
  | _, _ => false

/-- Whether two objects have the same fields. -/
def sameFields : List (String × Json) → List (String × Json) → Bool
  | [], [] => true
  | (k, a) :: as, (l, b) :: bs => k == l && same a b && sameFields as bs
  | _, _ => false

end

/-- Whether no value of a list occurs twice. -/
def allDifferent : List Json → Bool
  | [] => true
  | x :: xs => !xs.any (same x) && allDifferent xs

/-- A number without a point when it is whole. -/
def decimalText (j : Json) : String :=
  match j.quotient? with
  | some q => if q.isWhole then toString (q.num / q.den) else j.compact
  | none => j.compact

end Json

end PagePress
