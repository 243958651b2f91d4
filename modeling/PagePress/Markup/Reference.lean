import PagePress.Json.Reader

/-!
# Character references

* `Reference.text` is what a reference in text stands for; an unknown one stands for itself;
* `Reference.unescape?` resolves the references of an attribute value, where only the five
  basic names are known and every reference has to resolve.
-/

namespace PagePress

namespace Markup

namespace Reference

/-- The five basic names. -/
def basic? : String → Option String
  | "lt" => some "<"
  | "gt" => some ">"
  | "amp" => some "&"
  | "apos" => some "'"
  | "quot" => some "\""
  | _ => none

/-- The names known in text. -/
def named? : String → Option String
  | "nbsp" => some "\u00a0"
  | "mdash" => some "\u2014"
  | "ndash" => some "\u2013"
  | "hellip" => some "\u2026"
  | "copy" => some "\u00a9"
  | "reg" => some "\u00ae"
  | "trade" => some "\u2122"
  | "laquo" => some "\u00ab"
  | "raquo" => some "\u00bb"
  | "rarr" => some "\u2192"
  | "larr" => some "\u2190"
  | name => basic? name

/-- The digits of a number in base ten or sixteen, below `2 ^ 32`. -/
def digits? (hex : Bool) (cs : List Char) : Option Nat :=
  if cs.isEmpty then none
  else
    let step (acc : Option Nat) (c : Char) : Option Nat := do
      let n ← acc
      let d ← Json.hexValue? c
      if hex then some (n * 16 + d) else if d < 10 && c.isDigit then some (n * 10 + d) else none
    (cs.foldl step (some 0)).filter (· < 4294967296)

/-- Digits, with a plus sign allowed before them. -/
def signedDigits? (hex : Bool) : List Char → Option Nat
  | '+' :: cs => digits? hex cs
  | cs => digits? hex cs

/-- The character of a number, if it is one. -/
def char? (n : Nat) : Option Char :=
  if n < 0xD800 || (0xE000 ≤ n && n < 0x110000) then some (Char.ofNat n) else none

/-- The character that a number sign and what follows it in text stands for. -/
def numeric? : List Char → Option Char
  | 'x' :: cs => (signedDigits? true cs).bind char?
  | 'X' :: cs => (signedDigits? true cs).bind char?
  | cs => (signedDigits? false cs).bind char?

/-- The text that the reference with this body stands for in text. -/
def text (body : List Char) : String :=
  let known : Option String := match body with
    | '#' :: number => (numeric? number).map fun c => String.ofList [c]
    | name => named? (String.ofList name)
  known.getD (String.ofList ('&' :: body ++ [';']))

/-- The character that a number sign and what follows it in an attribute value stands for. -/
def attrNumeric? : List Char → Option Char
  | 'x' :: cs => ((digits? true cs).filter (· ≠ 0)).bind char?
  | cs => ((digits? false cs).filter (· ≠ 0)).bind char?

/-- What the reference with this body stands for in an attribute value. -/
def attrText? (body : List Char) : Option (List Char) :=
  match body with
  | '#' :: number => (attrNumeric? number).map fun c => [c]
  | name => (basic? (String.ofList name)).map String.toList

/-- Resolves every reference of an attribute value; `body` holds the reference being read,
in reverse. -/
def unescapeFrom? (body : Option (List Char)) : List Char → Option (List Char)
  | [] => if body.isNone then some [] else none
  | c :: rest =>
    match body with
    | none =>
      if c = '&' then unescapeFrom? (some []) rest
      else (unescapeFrom? none rest).map (c :: ·)
    | some read =>
      if c = '&' then none
      else if c = ';' then do
        let out ← attrText? read.reverse
        let tail ← unescapeFrom? none rest
        some (out ++ tail)
      else unescapeFrom? (some (c :: read)) rest

/-- Resolves every reference of an attribute value; none if one does not resolve. -/
def unescape? (cs : List Char) : Option (List Char) := unescapeFrom? none cs

end Reference

end Markup

end PagePress
