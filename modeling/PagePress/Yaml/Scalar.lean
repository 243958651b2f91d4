import PagePress.Yaml.Cursor

/-!
# Scalars as they are written

* `plain?` reads a scalar without quotes, `quoted?` one between quotes;
* `block?` reads a scalar of whole lines, kept as they are or folded.
-/

namespace PagePress

namespace Yaml

/-! ## Scalars without quotes -/

/-- A bracket of a flow collection. -/
def isBracket (c : Char) : Bool := c = '[' || c = ']' || c = '\x7b' || c = '\x7d'

/-- The characters of a plain scalar up to a blank or an indicator. -/
def plainWord? (inFlow : Bool) : Nat → List Char → Cursor → Option (List Char × Cursor)
  | 0, word, c => some (word, c)
  | n + 1, word, c =>
    match c.rest with
    | [] => some (word, c)
    | x :: rest =>
      if isBlank x || isBreak x then some (word, c)
      else if inFlow && x = ':'
          && rest.head?.any (fun y => y = ',' || y = '?' || isBracket y) then none
      else if (x = ':' && atBlankOrEnd rest) || (inFlow && (x = ',' || isBracket x)) then
        some (word, c)
      else plainWord? inFlow n (word ++ [x]) c.skip

/-- The rest of a plain scalar behind the words read so far.  Also tells whether a line break
follows. -/
def plainFrom? (inFlow : Bool) (margin : Nat) :
    Nat → List Char → Gap → Cursor → Option (List Char × Bool × Cursor)
  | 0, text, g, c => some (text, g.broken, c)
  | n + 1, text, g, c =>
    if c.atDocumentMark || c.rest.head? = some '#' then some (text, g.broken, c)
    else
      match plainWord? inFlow (c.rest.length + 1) [] c with
      | none => none
      | some (word, c) =>
        let text' := if word.isEmpty then text else text ++ g.text ++ word
        let g := if word.isEmpty then g else Gap.none
        match c.rest with
        | [] => some (text', g.broken, c)
        | x :: _ =>
          if !(isBlank x || isBreak x) then some (text', g.broken, c)
          else
            match g.extend? margin (c.rest.length + 1) c with
            | none => none
            | some (g, c) =>
              if !inFlow && c.column < margin then some (text', g.broken, c)
              else plainFrom? inFlow margin n text' g c

/-- A plain scalar whose further lines start at column `margin` or behind. -/
def plain? (inFlow : Bool) (margin : Nat) (c : Cursor) : Option (List Char × Bool × Cursor) :=
  plainFrom? inFlow margin (c.rest.length + 1) [] .none c

/-! ## Scalars between quotes -/

/-- The value of a hexadecimal digit. -/
def hexValue? (c : Char) : Option Nat :=
  if c.isDigit then some (c.toNat - '0'.toNat)
  else if 'a' ≤ c && c ≤ 'f' then some (c.toNat - 'a'.toNat + 10)
  else if 'A' ≤ c && c ≤ 'F' then some (c.toNat - 'A'.toNat + 10)
  else none

/-- The number of exactly `count` hexadecimal digits. -/
def hexNumber? (count : Nat) (cs : List Char) : Option Nat :=
  if (cs.take count).length < count then none
  else (cs.take count).foldlM (fun n c => (hexValue? c).map (16 * n + ·)) 0

/-- The character given by hexadecimal digits. -/
def hexChar? (count : Nat) (cs : List Char) : Option Char := do
  let n ← hexNumber? count cs
  if h : n.isValidChar then some (Char.ofNatAux n h) else none

/-- The character behind a backslash, and how many characters the escape takes with it. -/
def escape? : List Char → Option (Char × Nat)
  | [] => none
  | c :: cs =>
    match c with
    | '0' => some ('\x00', 2)
    | 'a' => some ('\x07', 2)
    | 'b' => some ('\x08', 2)
    | 't' | '\t' => some ('\t', 2)
    | 'n' => some ('\n', 2)
    | 'v' => some ('\x0b', 2)
    | 'f' => some ('\x0c', 2)
    | 'r' => some ('\r', 2)
    | 'e' => some ('\x1b', 2)
    | ' ' => some (' ', 2)
    | '"' => some ('"', 2)
    | '/' => some ('/', 2)
    | '\\' => some ('\\', 2)
    | 'N' => some ('\u0085', 2)
    | '_' => some ('\u00a0', 2)
    | 'L' => some ('\u2028', 2)
    | 'P' => some ('\u2029', 2)
    | 'x' => (hexChar? 2 cs).map fun x => (x, 4)
    | 'u' => (hexChar? 4 cs).map fun x => (x, 6)
    | 'U' => (hexChar? 8 cs).map fun x => (x, 10)
    | _ => none

/-- The characters between quotes up to a blank or the closing quote.  Also tells whether an
escaped line break ends them. -/
def quotedWord? (quote : Char) : Nat → List Char → Cursor → Option (List Char × Bool × Cursor)
  | 0, word, c => some (word, false, c)
  | n + 1, word, c =>
    match c.rest with
    | [] => some (word, false, c)
    | x :: rest =>
      if isBlank x || isBreak x then some (word, false, c)
      else if x = '\'' ∧ quote = '\'' ∧ rest.head? = some '\'' then
        quotedWord? quote n (word ++ ['\'']) (c.skipMany 2)
      else if x = quote then some (word, false, c)
      else if x = '\\' ∧ quote = '"' then
        if rest.head?.any isBreak then some (word, true, c.skip.skipBreak.2)
        else
          match escape? rest with
          | none => none
          | some (y, length) => quotedWord? quote n (word ++ [y]) (c.skipMany length)
      else quotedWord? quote n (word ++ [x]) c.skip

/-- The rest of a quoted scalar behind what is read so far. -/
def quotedFrom? (quote : Char) : Nat → List Char → Cursor → Option (List Char × Cursor)
  | 0, _, _ => none
  | n + 1, text, c =>
    if c.atDocumentMark then none
    else
      match quotedWord? quote (c.rest.length + 1) [] c with
      | none => none
      | some (word, escaped, c) =>
        match c.rest with
        | [] => none
        | x :: _ =>
          if x = quote then some (text ++ word, c.skip)
          else
            match Gap.extend? 0 (c.rest.length + 1) ⟨escaped, [], [], []⟩ c with
            | none => none
            | some (g, c) => quotedFrom? quote n (text ++ word ++ g.text) c

/-- A scalar between quotes. -/
def quoted? (quote : Char) (c : Cursor) : Option (List Char × Cursor) :=
  quotedFrom? quote (c.rest.length + 2) [] c.skip

/-! ## Scalars of whole lines -/

/-- What happens to the line breaks at the end of a scalar. -/
inductive Chomping where
  /-- All are dropped. -/
  | strip
  /-- The first is kept. -/
  | clip
  /-- All are kept. -/
  | keep
deriving DecidableEq, Repr

/-- The sign of a chomping. -/
def chomping? : List Char → Option Chomping
  | '+' :: _ => some .keep
  | '-' :: _ => some .strip
  | _ => none

/-- The header of a scalar of lines: chomping and the depth of the lines, if they are given. -/
def blockHeader? (c : Cursor) : Option (Chomping × Option Nat × Cursor) :=
  let depth? (c : Cursor) : Option (Option Nat × Cursor) :=
    match c.rest with
    | d :: _ =>
      if d = '0' then none
      else if d.isDigit then some (some (d.toNat - '0'.toNat), c.skip)
      else some (none, c)
    | [] => some (none, c)
  match chomping? c.rest with
  | some chomping => (depth? c.skip).map fun (x : Option Nat × Cursor) => (chomping, x.1, x.2)
  | none =>
    match depth? c with
    | none => none
    | some (some d, c) =>
      match chomping? c.rest with
      | some chomping => some (chomping, some d, c.skip)
      | none => some (.clip, some d, c)
    | some (none, c) => some (.clip, none, c)

/-- Skips a remark at the end of a line. -/
def skipRemark (c : Cursor) : Cursor :=
  let c := c.skipWhile isBlank
  if c.rest.head? = some '#' then c.skipWhile (fun x => !isBreak x) else c

/-- Reads line breaks up to the next line with text, and the indentation of that line.  The
depth of the lines is the deepest indentation if it is not given. -/
def blockBreaks? (depth : Option Nat) :
    Nat → List Char → Nat → Cursor → Option (List Char × Nat × Cursor)
  | 0, breaks, deepest, c => some (breaks, deepest, c)
  | n + 1, breaks, deepest, c =>
    match c.rest with
    | [] => some (breaks, max deepest c.column, c)
    | x :: _ =>
      let outside := depth.all (c.column < ·)
      if outside && x = ' ' then blockBreaks? depth n breaks deepest c.skip
      else if outside && x = '\t' then none
      else if isBreak x then
        let (b, after) := c.skipBreak
        blockBreaks? depth n (breaks ++ b) (max deepest c.column) after
      else some (breaks, max deepest c.column, c)

/-- The lines of a scalar.  `first` is the break behind the lines read so far, `breaks` are the
empty lines behind it, and `indented` tells whether the last line starts with a blank. -/
def blockLines? (folded : Bool) (depth : Nat) :
    Nat → List Char → List Char → List Char → Bool → Cursor →
      Option (List Char × List Char × List Char × Cursor)
  | 0, text, first, breaks, _, c => some (text, first, breaks, c)
  | n + 1, text, first, breaks, indented, c =>
    if c.column ≠ depth ∨ c.rest.isEmpty then some (text, first, breaks, c)
    else
      let blank := c.rest.head?.any isBlank
      let joint :=
        if folded && first = ['\n'] && !indented && !blank then
          (if breaks.isEmpty then [' '] else []) ++ breaks
        else first ++ breaks
      let line := c.rest.takeWhile fun x => !isBreak x
      let (b, after) := (c.skipMany line.length).skipBreak
      match blockBreaks? (some depth) (after.rest.length + 1) [] 0 after with
      | none => none
      | some (more, _, c) =>
        blockLines? folded depth n (text ++ joint ++ line) b more blank c

/-- A scalar of lines that stand deeper than the block around them, whose own depth is `outer`
if it has one. -/
def block? (folded : Bool) (outer : Option Nat) (c : Cursor) : Option (List Char × Cursor) := do
  let (chomping, given, c) ← blockHeader? c.skip
  let c := skipRemark c
  if !atBreakOrEnd c.rest then none
  let c := c.skipBreak.2
  let depth := given.map fun d => outer.getD 0 + d
  let (breaks, deepest, c) ← blockBreaks? depth (c.rest.length + 1) [] 0 c
  let depth := depth.getD (max deepest (max (outer.elim 0 (· + 1)) 1))
  let (text, first, breaks, c) ← blockLines? folded depth (c.rest.length + 1) [] [] breaks false c
  some (match chomping with
    | .strip => (text, c)
    | .clip => (text ++ first, c)
    | .keep => (text ++ first ++ breaks, c))

end Yaml

end PagePress
