import PagePress.Decimal.Text
import PagePress.Toml.Value

/-!
# TOML scalars

* `string?` reads a text between quotes, on one line or on several;
* `bareValue?` reads what is written without quotes: booleans, numbers, dates and times.
-/

namespace PagePress

namespace Toml

/-! ## Characters -/

/-- A space or a tab. -/
def isSpace (c : Char) : Bool := c = ' ' || c = '\t'

/-- A character that no text or remark may hold as it is. -/
def isControl (c : Char) : Bool := (c.toNat < 32 && c ≠ '\t') || c.toNat = 127

/-- A line break, if one comes next. -/
def newline? : List Char → Option (List Char)
  | '\n' :: cs => some cs
  | '\r' :: '\n' :: cs => some cs
  | _ => none

/-! ## Texts -/

/-- The character of exactly `count` hexadecimal digits. -/
def hexChar? (count : Nat) (cs : List Char) : Option (Char × List Char) := do
  if (cs.take count).length < count then none
  let n ← Numeral.read? 16 (cs.take count)
  if h : n.isValidChar then some (Char.ofNatAux n h, cs.drop count) else none

/-- The character behind a backslash. -/
def escape? : List Char → Option (Char × List Char)
  | 'b' :: cs => some ('\x08', cs)
  | 't' :: cs => some ('\t', cs)
  | 'n' :: cs => some ('\n', cs)
  | 'f' :: cs => some ('\x0c', cs)
  | 'r' :: cs => some ('\r', cs)
  | 'e' :: cs => some ('\x1b', cs)
  | '"' :: cs => some ('"', cs)
  | '\\' :: cs => some ('\\', cs)
  | 'x' :: cs => hexChar? 2 cs
  | 'u' :: cs => hexChar? 4 cs
  | 'U' :: cs => hexChar? 8 cs
  | _ => none

/-- The rest of a text on one line, behind what is read so far. -/
def line? (quote : Char) : Nat → List Char → List Char → Option (List Char × List Char)
  | 0, _, _ => none
  | _ + 1, _, [] => none
  | n + 1, text, c :: cs =>
    if c = quote then some (text, cs)
    else if c = '\\' ∧ quote = '"' then
      match escape? cs with
      | some (x, rest) => line? quote n (text ++ [x]) rest
      | none => none
    else if isControl c then none
    else line? quote n (text ++ [c]) cs

/-- Skips blanks and line breaks. -/
def skipGap : Nat → List Char → List Char
  | 0, cs => cs
  | n + 1, cs =>
    match newline? cs with
    | some rest => skipGap n rest
    | none =>
      match cs with
      | c :: rest => if isSpace c then skipGap n rest else c :: rest
      | [] => []

/-- The quotes that come next, five at most. -/
def quoteRun (quote : Char) (cs : List Char) : Nat := ((cs.take 5).takeWhile (· = quote)).length

/-- Whether a backslash ends the line, only blanks following it. -/
def endsLine (cs : List Char) : Bool := (newline? (cs.dropWhile isSpace)).isSome

/-- The rest of a text on several lines, behind what is read so far. -/
def lines? (quote : Char) : Nat → List Char → List Char → Option (List Char × List Char)
  | 0, _, _ => none
  | _ + 1, _, [] => none
  | n + 1, text, c :: cs =>
    if c = quote then
      let run := quoteRun quote (c :: cs)
      if 3 ≤ run then
        some (text ++ List.replicate (run - 3) quote, (c :: cs).drop run)
      else lines? quote n (text ++ [c]) cs
    else if c = '\\' ∧ quote = '"' then
      if endsLine cs then lines? quote n text (skipGap (cs.length + 1) cs)
      else match escape? cs with
        | some (x, rest) => lines? quote n (text ++ [x]) rest
        | none => none
    else match newline? (c :: cs) with
      | some rest => lines? quote n (text ++ ['\n']) rest
      | none => if isControl c then none else lines? quote n (text ++ [c]) cs

/-- A text between quotes that stay on a line. -/
def shortString? (quote : Char) (cs : List Char) : Option (String × List Char) :=
  (line? quote (cs.length + 1) [] cs).map fun (x : List Char × List Char) =>
    (String.ofList x.1, x.2)

/-- A text between quotes, behind the first of them. -/
def string? (quote : Char) (cs : List Char) : Option (String × List Char) :=
  if cs.take 2 = [quote, quote] then
    let body := (newline? (cs.drop 2)).getD (cs.drop 2)
    (lines? quote (body.length + 1) [] body).map fun (x : List Char × List Char) =>
      (String.ofList x.1, x.2)
  else shortString? quote cs

/-! ## Numbers -/

/-- Digits without the low lines between them; none may stand at an end or by another. -/
def digits? (isDigit : Char → Bool) (cs : List Char) : Option (List Char) :=
  let groups := (String.ofList cs).splitOn "_"
  if groups.all fun g => !g.isEmpty && g.toList.all isDigit then some (cs.filter (· ≠ '_'))
  else none

/-- A hexadecimal digit. -/
def isHexDigit (c : Char) : Bool := (Numeral.digit? 16 c).isSome

/-- A whole number without a sign; it has no zero in front. -/
def whole? (cs : List Char) : Option (List Char) := do
  let ds ← digits? Char.isDigit cs
  match ds with
  | '0' :: _ :: _ => none
  | _ => some ds

/-- An integer. -/
def integer? (cs : List Char) : Option Int :=
  match cs with
  | '0' :: 'x' :: ds => do
    (Numeral.read? 16 (← digits? isHexDigit ds)).map Int.ofNat
  | '0' :: 'o' :: ds => do
    (Numeral.read? 8 (← digits? Char.isDigit ds)).map Int.ofNat
  | '0' :: 'b' :: ds => do
    (Numeral.read? 2 (← digits? Char.isDigit ds)).map Int.ofNat
  | _ => do
    let (negative, ds) := Binary64.sign cs
    let n := Numeral.decimal (← whole? ds)
    some (if negative then -(n : Int) else n)

/-- Whether the text of an exponent is well formed. -/
def isExponent (cs : List Char) : Bool := (digits? Char.isDigit (Binary64.sign cs).2).isSome

/-- Whether a text is a number with a fraction or an exponent, or none at all. -/
def isFloat (cs : List Char) : Bool :=
  let body := (Binary64.sign cs).2
  let text := String.ofList body
  if text = "inf" || text = "nan" then true
  else
    let isE (c : Char) : Bool := c = 'e' || c = 'E'
    let mantissa := body.takeWhile (!isE ·)
    let power := body.dropWhile (!isE ·)
    let whole := mantissa.takeWhile (· ≠ '.')
    let fraction := mantissa.dropWhile (· ≠ '.')
    (whole? whole).isSome
      && (fraction.isEmpty || (digits? Char.isDigit (fraction.drop 1)).isSome)
      && (power.isEmpty || isExponent (power.drop 1))
      && !(fraction.isEmpty && power.isEmpty)

/-! ## Dates and times -/

/-- A number of exactly `count` digits. -/
def fixed? (count : Nat) (cs : List Char) : Option (Nat × List Char) :=
  let ds := cs.take count
  if ds.length = count ∧ ds.all Char.isDigit then some (Numeral.decimal ds, cs.drop count) else none

/-- A character that has to come next. -/
def expect? (c : Char) : List Char → Option (List Char)
  | d :: cs => if c = d then some cs else none
  | [] => none

/-- The days of a month. -/
def daysIn (year month : Nat) : Nat :=
  if month = 2 then (if year % 4 = 0 ∧ (year % 100 ≠ 0 ∨ year % 400 = 0) then 29 else 28)
  else if [4, 6, 9, 11].contains month then 30
  else 31

/-- A date. -/
def date? (cs : List Char) : Option (List Char) := do
  let (year, cs) ← fixed? 4 cs
  let (month, cs) ← fixed? 2 (← expect? '-' cs)
  let (day, cs) ← fixed? 2 (← expect? '-' cs)
  if 1 ≤ month ∧ month ≤ 12 ∧ 1 ≤ day ∧ day ≤ daysIn year month then some cs else none

/-- The seconds of a time, which may be missing. -/
def seconds? : List Char → Option (List Char)
  | ':' :: cs => do
    let (second, cs) ← fixed? 2 cs
    if 60 < second then none
    match cs with
    | '.' :: rest =>
      if rest.head?.any Char.isDigit then some (rest.dropWhile Char.isDigit) else none
    | _ => some cs
  | cs => some cs

/-- A time of day. -/
def time? (cs : List Char) : Option (List Char) := do
  let (hour, cs) ← fixed? 2 cs
  let (minute, cs) ← fixed? 2 (← expect? ':' cs)
  if hour ≤ 23 ∧ minute ≤ 59 then seconds? cs else none

/-- The distance of a clock, which may be missing. -/
def offset? : List Char → Option (List Char)
  | [] => some []
  | c :: cs =>
    if c = 'Z' ∨ c = 'z' then some cs
    else if c = '+' ∨ c = '-' then do
      let (hour, cs) ← fixed? 2 cs
      let (minute, cs) ← fixed? 2 (← expect? ':' cs)
      if hour ≤ 23 ∧ minute ≤ 59 then some cs else none
    else none

/-- Whether a text is a date, a time, or both. -/
def isDatetime (cs : List Char) : Bool :=
  match date? cs with
  | some [] => true
  | some (c :: rest) =>
    (c = 'T' || c = 't' || c = ' ') && ((time? rest).bind offset?) = some []
  | none => time? cs = some []

/-! ## Values without quotes -/

/-- A character of a value without quotes. -/
def isBareChar (c : Char) : Bool :=
  c.isAlphanum || c = '+' || c = '-' || c = '_' || c = '.' || c = ':'

/-- The characters of a value without quotes.  A single space may stand between a date and a
time. -/
def bareText (cs : List Char) : List Char :=
  let first := cs.takeWhile isBareChar
  match cs.drop first.length with
  | ' ' :: d :: rest =>
    if date? first = some [] ∧ d.isDigit then first ++ ' ' :: (d :: rest).takeWhile isBareChar
    else first
  | _ => first

/-- The value of a text without quotes. -/
def bareValue? (cs : List Char) : Option Value :=
  let s := String.ofList cs
  if s = "true" then some (.boolean true)
  else if s = "false" then some (.boolean false)
  else match integer? cs with
    | some n => some (.integer n)
    | none =>
      if isFloat cs then some .float
      else if isDatetime cs then some .datetime
      else none

end Toml

end PagePress
