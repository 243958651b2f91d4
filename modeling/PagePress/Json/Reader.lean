import PagePress.Json.Basic
import PagePress.Decimal.Reader

/-!
# Reading JSON

`Json.read?` reads one value from a text, with blanks around it allowed and nothing after
it.  Nesting deeper than `Json.depthLimit` is refused.  In an object the last value of a
repeated key counts.
-/

namespace PagePress

namespace Json

/-- Objects and lists may nest this deep. -/
def depthLimit : Nat := 127

/-! ## Lexemes -/

/-- Blanks between lexemes. -/
def isBlank (c : Char) : Bool := c = ' ' || c = '\n' || c = '\t' || c = '\r'

/-- Drops leading blanks. -/
def skipBlanks (cs : List Char) : List Char := cs.dropWhile isBlank

/-- The value of a hexadecimal digit. -/
def hexValue? (c : Char) : Option Nat :=
  if '0' ≤ c ∧ c ≤ '9' then some (c.toNat - 48)
  else if 'a' ≤ c ∧ c ≤ 'f' then some (c.toNat - 87)
  else if 'A' ≤ c ∧ c ≤ 'F' then some (c.toNat - 55)
  else none

/-- Four hexadecimal digits. -/
def hexUnit? : List Char → Option (Nat × List Char)
  | a :: b :: c :: d :: rest => do
    let a ← hexValue? a
    let b ← hexValue? b
    let c ← hexValue? c
    let d ← hexValue? d
    some (((a * 16 + b) * 16 + c) * 16 + d, rest)
  | _ => none

/-- The character after a backslash and `u`: one unit, or a leading and a trailing surrogate. -/
def unicodeEscape? (cs : List Char) : Option (Char × List Char) := do
  let (u, rest) ← hexUnit? cs
  if 0xD800 ≤ u ∧ u < 0xDC00 then
    match rest with
    | '\\' :: 'u' :: rest =>
      let (v, rest) ← hexUnit? rest
      if 0xDC00 ≤ v ∧ v < 0xE000 then
        some (Char.ofNat (0x10000 + (u - 0xD800) * 0x400 + (v - 0xDC00)), rest)
      else none
    | _ => none
  else if 0xDC00 ≤ u ∧ u < 0xE000 then none
  else some (Char.ofNat u, rest)

/-- The character after a backslash. -/
def escape? : List Char → Option (Char × List Char)
  | '"' :: rest => some ('"', rest)
  | '\\' :: rest => some ('\\', rest)
  | '/' :: rest => some ('/', rest)
  | 'b' :: rest => some (Char.ofNat 8, rest)
  | 'f' :: rest => some (Char.ofNat 12, rest)
  | 'n' :: rest => some ('\n', rest)
  | 'r' :: rest => some ('\r', rest)
  | 't' :: rest => some ('\t', rest)
  | 'u' :: rest => unicodeEscape? rest
  | _ => none

/-- The rest of a string after its opening quote; `acc` holds its characters in reverse. -/
def stringBody? : Nat → List Char → List Char → Option (String × List Char)
  | 0, _, _ => none
  | _ + 1, _, [] => none
  | fuel + 1, acc, c :: rest =>
    if c = '"' then some (String.ofList acc.reverse, rest)
    else if c = '\\' then
      match escape? rest with
      | some (d, rest) => stringBody? fuel (d :: acc) rest
      | none => none
    else if c.toNat < 32 then none
    else stringBody? fuel (c :: acc) rest

/-! ## Numbers -/

/-- Digits of a number while its significand stays below `2 ^ 64`; the digits that follow are
left. -/
def takeSignificand (m : Nat) (taken : Nat) : List Char → Nat × Nat × List Char
  | [] => (m, taken, [])
  | c :: rest =>
    if c.isDigit && m * 10 + (c.toNat - 48) < 18446744073709551616 then
      takeSignificand (m * 10 + (c.toNat - 48)) (taken + 1) rest
    else (m, taken, c :: rest)

/-- An exponent part, if one stands here. -/
def exponent? (cs : List Char) : Option (Int × List Char) :=
  let digits (negative : Bool) (cs : List Char) : Option (Int × List Char) :=
    match cs.takeWhile Char.isDigit with
    | [] => none
    | ds =>
      let n : Nat := min (ds.foldl (fun (n : Nat) d => n * 10 + (d.toNat - 48)) 0) 2147483647
      some (if negative then -(n : Int) else (n : Int), cs.dropWhile Char.isDigit)
  match cs with
  | '+' :: rest => digits false rest
  | '-' :: rest => digits true rest
  | rest => digits false rest

/-- The exponent part that may end a number, then the number as a double. -/
def finishFloat? (negative : Bool) (m : Nat) (e : Int) (cs : List Char) :
    Option (Json × List Char) :=
  match cs with
  | c :: rest =>
    if c = 'e' || c = 'E' then
      match exponent? rest with
      | some (x, rest) => (Binary64.ofParts negative m (e + x)).map fun d => (.float d, rest)
      | none => none
    else (Binary64.ofParts negative m e).map fun d => (.float d, c :: rest)
  | [] => (Binary64.ofParts negative m e).map fun d => (.float d, [])

/-- The digits after a point, then the rest of the number. -/
def fraction? (negative : Bool) (m : Nat) (e : Int) (cs : List Char) : Option (Json × List Char) :=
  match cs with
  | c :: _ =>
    if c.isDigit then
      let (m', taken, rest) := takeSignificand m 0 cs
      if taken = 0 then finishFloat? negative m e (rest.dropWhile Char.isDigit)
      else finishFloat? negative m' (e - taken) (rest.dropWhile Char.isDigit)
    else none
  | [] => none

/-- An integer as such if it is not below `-2 ^ 63`, otherwise the number as a double.  A negative
zero is a double too. -/
def wholeNumber? (negative : Bool) (m : Nat) (cs : List Char) : Option (Json × List Char) :=
  if negative then
    if m = 0 ∨ m > 9223372036854775808 then (Binary64.ofParts true m 0).map fun d => (.float d, cs)
    else some (.int (-(m : Int)), cs)
  else some (.int m, cs)

/-- A number after its sign. -/
def number? (negative : Bool) (cs : List Char) : Option (Json × List Char) :=
  match cs with
  | [] => none
  | c :: rest =>
    if !c.isDigit then none
    else
      let (m, tooLong, after) :=
        if c = '0' then (0, 0, rest)
        else
          let (m, _, after) := takeSignificand 0 0 (c :: rest)
          let more := after.takeWhile Char.isDigit
          (m, more.length, after.drop more.length)
      match after with
      | '.' :: after => fraction? negative m tooLong after
      | d :: _ =>
        if c = '0' && d.isDigit then none
        else if d = 'e' || d = 'E' || tooLong > 0 then finishFloat? negative m tooLong after
        else wholeNumber? negative m after
      | [] => if tooLong > 0 then finishFloat? negative m tooLong [] else wholeNumber? negative m []

/-! ## Values -/

/-- A word such as `true`. -/
def word? (word : List Char) (v : Json) (cs : List Char) : Option (Json × List Char) :=
  if word.isPrefixOf cs then some (v, cs.drop word.length) else none

mutual

/-- A value after blanks.  The first number bounds the work, the second the nesting left. -/
def readValue? : Nat → Nat → List Char → Option (Json × List Char)
  | 0, _, _ => none
  | fuel + 1, depth, cs =>
    match skipBlanks cs with
    | 'n' :: rest => word? "ull".toList .null rest
    | 't' :: rest => word? "rue".toList (.bool true) rest
    | 'f' :: rest => word? "alse".toList (.bool false) rest
    | '-' :: rest => number? true rest
    | '"' :: rest => (stringBody? (rest.length + 1) [] rest).map fun (s, rest) => (.str s, rest)
    | '[' :: rest =>
      match depth with
      | 0 => none
      | depth + 1 =>
        match skipBlanks rest with
        | ']' :: rest => some (.arr [], rest)
        | rest => readItems? fuel depth [] rest
    | '\x7b' :: rest =>
      match depth with
      | 0 => none
      | depth + 1 =>
        match skipBlanks rest with
        | '\x7d' :: rest => some (.obj [], rest)
        | rest => readMembers? fuel depth [] rest
    | rest => number? false rest

/-- The items of a list up to its bracket; `acc` holds the earlier ones in reverse. -/
def readItems? : Nat → Nat → List Json → List Char → Option (Json × List Char)
  | 0, _, _, _ => none
  | fuel + 1, depth, acc, cs =>
    match readValue? fuel depth cs with
    | none => none
    | some (v, rest) =>
      match skipBlanks rest with
      | ',' :: rest => readItems? fuel depth (v :: acc) rest
      | ']' :: rest => some (.arr (v :: acc).reverse, rest)
      | _ => none

/-- The fields of an object up to its brace. -/
def readMembers? : Nat → Nat → List (String × Json) → List Char → Option (Json × List Char)
  | 0, _, _, _ => none
  | fuel + 1, depth, acc, cs =>
    match skipBlanks cs with
    | '"' :: rest =>
      match stringBody? (rest.length + 1) [] rest with
      | none => none
      | some (k, rest) =>
        match skipBlanks rest with
        | ':' :: rest =>
          match readValue? fuel depth rest with
          | none => none
          | some (v, rest) =>
            let acc := Entries.put k v acc
            match skipBlanks rest with
            | ',' :: rest => readMembers? fuel depth acc rest
            | '\x7d' :: rest => some (.obj acc, rest)
            | _ => none
        | _ => none
    | _ => none

end

/-- The value that a text spells. -/
def read? (text : String) : Option Json :=
  let cs := text.toList
  match readValue? (cs.length + 1) depthLimit cs with
  | some (v, rest) => if (skipBlanks rest).isEmpty then some v else none
  | none => none

end Json

end PagePress
