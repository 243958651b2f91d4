import PagePress.Text.Ascii
import PagePress.Text.EntityTable

/-!
# Characters written by name or number

`Entity.read?` reads what stands between `&` and `;` in markdown: one of the standard names, or
a decimal or hexadecimal code point.
-/

namespace PagePress

namespace Text

namespace Entity

/-- The text of a name. -/
def named? (name : List Char) : Option String :=
  let s := String.ofList name
  (table.find? (·.1 == s)).map fun e => String.ofList (e.2.map Char.ofNat)

/-- The value of a digit in base sixteen. -/
def hexDigit? (c : Char) : Option Nat :=
  if c.isDigit then some (c.toNat - 48)
  else if 'a' ≤ c && c ≤ 'f' then some (c.toNat - 87)
  else if 'A' ≤ c && c ≤ 'F' then some (c.toNat - 55)
  else none

/-- The character of a code point; zero and what is no code point give the replacement
character. -/
def character (n : Nat) : Char :=
  if n = 0 || (0xD800 ≤ n && n < 0xE000) || 0x110000 ≤ n then Char.ofNat 0xFFFD
  else Char.ofNat n

/-- The value of digits in a base. -/
def number (base : Nat) (digits : List Char) : Nat :=
  digits.foldl (fun n c => n * base + (hexDigit? c).getD 0) 0

/-- Reads digits and a semicolon; at most `most` digits count as a number.  The second result
is the number of characters read. -/
def numeric? (base most : Nat) (isDigit : Char → Bool) (cs : List Char) :
    Option (String × Nat) :=
  let digits := (cs.take most).takeWhile isDigit
  match digits, cs.drop digits.length with
  | _ :: _, ';' :: _ =>
    some (String.ofList [character (number base digits)], digits.length + 1)
  | _, _ => none

/-- Reads a reference from its ampersand on; the second result is the number of characters
read. -/
def read? : List Char → Option (String × Nat)
  | '&' :: '#' :: cs =>
    match cs with
    | c :: rest =>
      if c = 'x' || c = 'X' then
        (numeric? 16 6 (fun c => (hexDigit? c).isSome) rest).map fun r => (r.1, r.2 + 3)
      else (numeric? 10 7 Char.isDigit cs).map fun r => (r.1, r.2 + 2)
    | [] => none
  | '&' :: cs =>
    let name := cs.takeWhile isAlnum
    match cs.drop name.length with
    | ';' :: _ => (named? name).map fun s => (s, name.length + 2)
    | _ => none
  | _ => none

end Entity

end Text

end PagePress
