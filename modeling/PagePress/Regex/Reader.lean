import PagePress.Regex.Basic

/-!
# Reading regular expressions

* `Regex.read?` reads alternatives, repetitions, groups, sets of characters, anchors and
  escapes, and gives nothing for any other text.
-/

namespace PagePress

namespace Regex

/-! ## Escapes -/

/-- The value of a hexadecimal digit. -/
def hexValue? (c : Char) : Option Nat :=
  if c.isDigit then some (c.toNat - '0'.toNat)
  else if 'a' ≤ c && c ≤ 'f' then some (c.toNat - 'a'.toNat + 10)
  else if 'A' ≤ c && c ≤ 'F' then some (c.toNat - 'A'.toNat + 10)
  else none

/-- The character of a number, unless the number is none of a character. -/
def charOf? (n : Nat) : Option Char := if h : n.isValidChar then some (Char.ofNatAux n h) else none

/-- The number of a list of hexadecimal digits. -/
def hexNumber? : List Char → Option Nat
  | [] => none
  | cs => cs.foldlM (fun n c => (hexValue? c).map (16 * n + ·)) 0

/-- A character given by the number of its digits. -/
def hexChar? (count : Nat) (cs : List Char) : Option (Char × List Char) := do
  let digits := cs.take count
  if digits.length < count then none
  let n ← hexNumber? digits
  let c ← charOf? n
  some (c, cs.drop count)

/-- The set behind an escape that stands for a set. -/
def escapedSet? : Char → Option CharSet
  | 'd' => some .digits
  | 'D' => some (.complement .digits)
  | 'w' => some .word
  | 'W' => some (.complement .word)
  | 's' => some .blanks
  | 'S' => some (.complement .blanks)
  | _ => none

/-- The character behind an escape that stands for a character. -/
def escapedChar? : List Char → Option (Char × List Char)
  | 'n' :: cs => some ('\n', cs)
  | 'r' :: cs => some ('\r', cs)
  | 't' :: cs => some ('\t', cs)
  | 'f' :: cs => some ('\x0c', cs)
  | 'v' :: cs => some ('\x0b', cs)
  | 'a' :: cs => some ('\x07', cs)
  | 'x' :: cs => hexChar? 2 cs
  | 'u' :: '\x7b' :: cs => do
    let n ← hexNumber? (cs.takeWhile (· ≠ '\x7d'))
    let c ← charOf? n
    match cs.dropWhile (· ≠ '\x7d') with
    | '\x7d' :: rest => some (c, rest)
    | _ => none
  | 'u' :: cs => hexChar? 4 cs
  | c :: cs => if c.isAlphanum then none else some (c, cs)
  | [] => none

/-! ## Sets of characters -/

/-- A member of a set: a set of its own or a character. -/
def member? : List Char → Option ((CharSet ⊕ Char) × List Char)
  | '\\' :: 'b' :: cs => some (.inr '\x08', cs)
  | '\\' :: c :: cs =>
    match escapedSet? c with
    | some s => some (.inl s, cs)
    | none => (escapedChar? (c :: cs)).map fun (x : Char × List Char) => (.inr x.1, x.2)
  | '\\' :: [] => none
  | c :: cs => some (.inr c, cs)
  | [] => none

/-- The rest of a set, up to its closing bracket. -/
def setRest? : Nat → CharSet → List Char → Option (CharSet × List Char)
  | 0, _, _ => none
  | _ + 1, s, ']' :: cs => some (s, cs)
  | n + 1, s, cs => do
    match ← member? cs with
    | (.inl t, rest) => setRest? n (.union s t) rest
    | (.inr low, '-' :: ']' :: rest) =>
      some (.union s (.union (.single low) (.single '-')), rest)
    | (.inr low, '-' :: rest) =>
      match ← member? rest with
      | (.inl t, rest) => setRest? n (.union s (.union (.single low) (.union (.single '-') t))) rest
      | (.inr high, rest) =>
        if low ≤ high then setRest? n (.union s (.range low high)) rest else none
    | (.inr c, rest) => setRest? n (.union s (.single c)) rest

/-- A set after its opening bracket. -/
def set? (cs : List Char) : Option (CharSet × List Char) :=
  match cs with
  | '^' :: rest =>
    (setRest? (rest.length + 1) .none rest).map fun (x : CharSet × List Char) =>
      (.complement x.1, x.2)
  | _ => setRest? (cs.length + 1) .none cs

/-! ## Repetition -/

/-- The bounds of a repetition between braces, behind the opening one. -/
def bounds? (cs : List Char) : Option (Nat × Option Nat × List Char) := do
  let low ← (String.ofList (cs.takeWhile Char.isDigit)).toNat?
  match cs.dropWhile Char.isDigit with
  | '\x7d' :: rest => some (low, some low, rest)
  | ',' :: '\x7d' :: rest => some (low, none, rest)
  | ',' :: rest =>
    let high ← (String.ofList (rest.takeWhile Char.isDigit)).toNat?
    match rest.dropWhile Char.isDigit with
    | '\x7d' :: rest => if low ≤ high then some (low, some high, rest) else none
    | _ => none
  | _ => none

/-- Between `low` and `high` times, or at least `low` times. -/
def repeated (r : Regex) (low : Nat) : Option Nat → Regex
  | some high => seq (times r low) (upTo r (high - low))
  | none => seq (times r low) (star r)

/-- A mark that asks for the shortest match changes nothing here. -/
def skipLazy : List Char → List Char
  | '?' :: cs => cs
  | cs => cs

/-- The repetition behind an expression. -/
def quantified (r : Regex) : List Char → Regex × List Char
  | '*' :: cs => (star r, skipLazy cs)
  | '+' :: cs => (plus r, skipLazy cs)
  | '?' :: cs => (optional r, skipLazy cs)
  | '\x7b' :: cs =>
    match bounds? cs with
    | some (low, high, rest) => (repeated r low high, skipLazy rest)
    | none => (r, '\x7b' :: cs)
  | cs => (r, cs)

/-! ## Expressions -/

/-- What stands behind the opening of a group: nothing, or a mark that gives it a name or
none. -/
def groupStart? : List Char → Option (List Char)
  | '?' :: ':' :: cs => some cs
  | '?' :: '<' :: cs =>
    if cs.head? = some '=' || cs.head? = some '!' then none
    else some ((cs.dropWhile (· ≠ '>')).drop 1)
  | '?' :: _ => none
  | cs => some cs

mutual

/-- Alternatives, and what follows them. -/
def alternatives? : Nat → List Char → Option (Regex × List Char)
  | 0, _ => none
  | n + 1, cs => do
    match ← sequence? n .empty cs with
    | (a, '|' :: rest) =>
      let (b, rest) ← alternatives? n rest
      some (.alt a b, rest)
    | (a, rest) => some (a, rest)

/-- Expressions one after another, behind those read so far. -/
def sequence? : Nat → Regex → List Char → Option (Regex × List Char)
  | 0, _, _ => none
  | _ + 1, sofar, [] => some (sofar, [])
  | n + 1, sofar, c :: cs =>
    if c = '|' ∨ c = ')' then some (sofar, c :: cs)
    else do
      let (a, rest) ← atom? n c cs
      let (a, rest) := quantified a rest
      sequence? n (thenMatch sofar a) rest

/-- A single expression that starts with the given character. -/
def atom? : Nat → Char → List Char → Option (Regex × List Char)
  | 0, _, _ => none
  | n + 1, c, cs =>
    match c with
    | '.' => some (anyButNewline, cs)
    | '^' => some (start, cs)
    | '$' => some (stop, cs)
    | '[' => (set? cs).map fun (x : CharSet × List Char) => (chars x.1, x.2)
    | '(' => do
      match ← alternatives? n (← groupStart? cs) with
      | (a, ')' :: rest) => some (a, rest)
      | _ => none
    | '*' | '+' | '?' => none
    | '\\' =>
      match cs with
      | 'b' :: rest => some (boundary false, rest)
      | 'B' :: rest => some (boundary true, rest)
      | e :: rest =>
        match escapedSet? e with
        | some s => some (chars s, rest)
        | none =>
          (escapedChar? (e :: rest)).map fun (x : Char × List Char) => (chars (.single x.1), x.2)
      | [] => none
    | c => some (chars (.single c), cs)

end

/-- Reads an expression. -/
def read? (s : String) : Option Regex :=
  match alternatives? (3 * s.length + 3) s.toList with
  | some (r, []) => some r
  | _ => none

end Regex

end PagePress
