import PagePress.Decimal.Reader

/-!
# Decimals in free notation

* `Binary64.ofText?` reads a sign, digits with or without a point, and an exponent;
* `Numeral.read?` reads an integer of a base.
-/

namespace PagePress

namespace Numeral

/-- The value of a digit in a base up to sixteen. -/
def digit? (base : Nat) (c : Char) : Option Nat :=
  let n :=
    if c.isDigit then c.toNat - '0'.toNat
    else if 'a' ≤ c && c ≤ 'f' then c.toNat - 'a'.toNat + 10
    else if 'A' ≤ c && c ≤ 'F' then c.toNat - 'A'.toNat + 10
    else base
  if n < base then some n else none

/-- The value of digits in a base; there has to be one at least. -/
def read? (base : Nat) : List Char → Option Nat
  | [] => none
  | cs => cs.foldlM (fun n c => (digit? base c).map (base * n + ·)) 0

/-- The value of decimal digits, of which there may be none. -/
def decimal (cs : List Char) : Nat := (read? 10 cs).getD 0

end Numeral

namespace Binary64

/-- A sign and what follows it. -/
def sign (cs : List Char) : Bool × List Char :=
  match cs with
  | '-' :: rest => (true, rest)
  | '+' :: rest => (false, rest)
  | _ => (false, cs)

/-- The exponent that ends a number; without one it is zero. -/
def exponentOf? : List Char → Option Int
  | [] => some 0
  | e :: cs =>
    if e = 'e' ∨ e = 'E' then
      let (negative, digits) := sign cs
      (Numeral.read? 10 digits).map fun n => if negative then -(n : Int) else n
    else none

/-- Exponents beyond this one give infinity or zero. -/
def exponentReach : Nat := 5000

/-- Reads a number in decimal notation; it is infinite if it is too large. -/
def ofText? (cs : List Char) : Option Binary64 := do
  let (negative, cs) := sign cs
  let whole := cs.takeWhile Char.isDigit
  let rest := cs.dropWhile Char.isDigit
  let (part, rest) := match rest with
    | '.' :: more => (more.takeWhile Char.isDigit, more.dropWhile Char.isDigit)
    | _ => ([], rest)
  if whole.isEmpty && part.isEmpty then none
  let e ← exponentOf? rest
  let m := Numeral.decimal (whole ++ part)
  let reach : Int := exponentReach + whole.length + part.length
  let e := max (-reach) (min reach e)
  some (ofDecimal negative m (if m = 0 then 0 else e - part.length))

end Binary64

end PagePress
