import PagePress.Json.Basic

/-!
# Writing JSON

* `Json.compact` writes a value on one line without blanks;
* `Json.pretty` indents by two blanks;
* `NumberText` says how a double-precision number is spelled: fewest digits that read
  back, positional between `1e-5` and `1e16`, always with a point or an exponent.
-/

namespace PagePress

/-! ## Number text -/

namespace NumberText

/-- Largest decimal magnitude written positionally. -/
def positionalUpTo : Int := 16

/-- A magnitude at or below this one is written with an exponent. -/
def exponentFrom : Int := -5

/-- Digits `ds` times `10 ^ k`, with a point or an exponent. -/
def ofDigits (ds : List Char) (k : Int) : List Char :=
  let kk : Int := ds.length + k
  if 0 ≤ k ∧ kk ≤ positionalUpTo then
    ds ++ List.replicate k.toNat '0' ++ ['.', '0']
  else if 0 < kk ∧ kk ≤ positionalUpTo then
    ds.take kk.toNat ++ '.' :: ds.drop kk.toNat
  else if exponentFrom < kk ∧ kk ≤ 0 then
    '0' :: '.' :: List.replicate (-kk).toNat '0' ++ ds
  else
    match ds with
    | [d] => d :: 'e' :: (toString (kk - 1)).toList
    | d :: rest => d :: '.' :: rest ++ 'e' :: (toString (kk - 1)).toList
    | [] => []

/-- The text of a double-precision number; an infinity or a NaN has none and is `null`. -/
def ofBinary64 (x : Binary64) : List Char :=
  if !x.isFinite then ['n', 'u', 'l', 'l']
  else
    let sign := if x.isNegative then ['-'] else []
    if x.significand = 0 then sign ++ ['0', '.', '0']
    else
      let (d, k) := Shortest.digits x
      sign ++ ofDigits (Nat.toDigits 10 d) k

end NumberText

/-! ## Strings -/

namespace Json

/-- The lower-case hexadecimal digit of a number below sixteen. -/
def hexDigit (n : Nat) : Char := Nat.digitChar n

/-- One character inside a JSON string. -/
def escapeChar (c : Char) : List Char :=
  if c = '"' then ['\\', '"']
  else if c = '\\' then ['\\', '\\']
  else if c = '\n' then ['\\', 'n']
  else if c = '\r' then ['\\', 'r']
  else if c = '\t' then ['\\', 't']
  else if c.toNat = 8 then ['\\', 'b']
  else if c.toNat = 12 then ['\\', 'f']
  else if c.toNat < 32 then ['\\', 'u', '0', '0', hexDigit (c.toNat / 16), hexDigit (c.toNat % 16)]
  else [c]

/-- A quoted string. -/
def quote (s : String) : String :=
  String.ofList ('"' :: s.toList.flatMap escapeChar ++ ['"'])

/-! ## Values -/

mutual

/-- Appends a value on one line to the text written so far. -/
def compactOnto (out : String) : Json → String
  | .null => out ++ "null"
  | .bool true => out ++ "true"
  | .bool false => out ++ "false"
  | .int n => out ++ toString n
  | .float x => out ++ String.ofList (NumberText.ofBinary64 x)
  | .str s => out ++ quote s
  | .arr xs => compactItems (out ++ "[") true xs ++ "]"
  | .obj fs => compactFields (out ++ "\x7b") true fs ++ "\x7d"

/-- Appends items separated by commas. -/
def compactItems (out : String) (first : Bool) : List Json → String
  | [] => out
  | x :: xs => compactItems (compactOnto (if first then out else out ++ ",") x) false xs

/-- Appends fields separated by commas. -/
def compactFields (out : String) (first : Bool) : List (String × Json) → String
  | [] => out
  | (k, x) :: xs =>
    compactFields (compactOnto ((if first then out else out ++ ",") ++ quote k ++ ":") x) false xs

end

/-- A value on one line without blanks. -/
def compact (j : Json) : String := compactOnto "" j

/-- A new line indented by `depth` levels. -/
def newline (depth : Nat) : String := "\n" ++ String.ofList (List.replicate (2 * depth) ' ')

mutual

/-- Appends a value, one item or field a line. -/
def prettyOnto (depth : Nat) (out : String) : Json → String
  | .arr [] => out ++ "[]"
  | .obj [] => out ++ "\x7b\x7d"
  | .arr xs => prettyItems (depth + 1) (out ++ "[") true xs ++ newline depth ++ "]"
  | .obj fs => prettyFields (depth + 1) (out ++ "\x7b") true fs ++ newline depth ++ "\x7d"
  | .null => compactOnto out .null
  | .bool b => compactOnto out (.bool b)
  | .int n => compactOnto out (.int n)
  | .float x => compactOnto out (.float x)
  | .str s => compactOnto out (.str s)

/-- Appends items, one a line. -/
def prettyItems (depth : Nat) (out : String) (first : Bool) : List Json → String
  | [] => out
  | x :: xs =>
    prettyItems depth
      (prettyOnto depth ((if first then out else out ++ ",") ++ newline depth) x) false xs

/-- Appends fields, one a line. -/
def prettyFields (depth : Nat) (out : String) (first : Bool) : List (String × Json) → String
  | [] => out
  | (k, x) :: xs =>
    prettyFields depth
      (prettyOnto depth
        ((if first then out else out ++ ",") ++ newline depth ++ quote k ++ ": ") x) false xs

end

/-- A value with one item or field a line, indented by two blanks a level. -/
def pretty (j : Json) : String := prettyOnto 0 "" j

end Json

end PagePress
