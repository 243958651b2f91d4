import PagePress.Yaml.Scalar

/-!
# Tokens of YAML

A text is cut into tokens.  That a scalar is a key shows only at the colon behind it, so the
place of every scalar that could be a key is kept, and the tokens of a key are put there later.

* `Token` is a token;
* `Scanner` is the state of scanning: the tokens so far, the columns of the open blocks and the
  places of possible keys;
* `tokens?` gives all tokens of a text.
-/

namespace PagePress

namespace Yaml

/-- A token. -/
inductive Token where
  | version (major minor : Nat)
  | tagHandle (handle head : String)
  | documentStart
  | documentEnd
  | streamEnd
  | blockSequenceStart
  | blockMappingStart
  | blockEnd
  | flowSequenceStart
  | flowSequenceEnd
  | flowMappingStart
  | flowMappingEnd
  | blockEntry
  | flowEntry
  | key
  | value
  | alias (name : String)
  | anchor (name : String)
  | tag (handle suffix : String)
  | scalar (text : String) (plain : Bool)
deriving DecidableEq, Repr

/-- A place where a key could stand. -/
structure PossibleKey where
  /-- Whether nothing but a key may stand there. -/
  required : Bool
  /-- How many tokens stand before. -/
  place : Nat
  index : Nat
  line : Nat
  column : Nat
deriving DecidableEq, Repr

/-- How far the colon may be behind the start of a key. -/
def keyReach : Nat := 1024

/-- The state of scanning. -/
structure Scanner where
  cursor : Cursor
  /-- The tokens so far, the last one first. -/
  produced : List Token
  /-- The columns of the open blocks, the innermost first. -/
  columns : List Nat
  /-- How many flow collections are open. -/
  flow : Nat
  /-- Whether a key may start here. -/
  keyAllowed : Bool
  /-- The possible key of each open flow collection, and of the block around them. -/
  keys : List (Option PossibleKey)

namespace Scanner

/-- Before the first token. -/
def start (text : List Char) : Scanner := ⟨.start text, [], [], 0, true, [none]⟩

/-- Adds a token. -/
def emit (s : Scanner) (t : Token) : Scanner := { s with produced := t :: s.produced }

/-- Adds a token behind the first `place` tokens. -/
def emitAt (s : Scanner) (place : Nat) (t : Token) : Scanner :=
  { s with produced := s.produced.insertIdx (s.produced.length - place) t }

/-- Goes on by several characters. -/
def skip (s : Scanner) (n : Nat) : Scanner := { s with cursor := s.cursor.skipMany n }

/-- Sets whether a key may start. -/
def allowKey (s : Scanner) (allowed : Bool) : Scanner := { s with keyAllowed := allowed }

/-- Whether a flow collection is open. -/
def inFlow (s : Scanner) : Bool := s.flow ≠ 0

/-! ## Blocks -/

/-- Opens a block that starts at a column behind the open ones.  Its first token stands behind
the first `place` tokens. -/
def openBlock (s : Scanner) (column place : Nat) (t : Token) : Scanner :=
  if s.inFlow then s
  else if s.columns.head?.all (· < column) then
    emitAt { s with columns := column :: s.columns } place t
  else s

/-- Closes the blocks that start behind a column. -/
def closeBlocks (s : Scanner) (column : Option Nat) : Scanner :=
  if s.inFlow then s
  else
    let closed := s.columns.takeWhile fun c => column.all (· < c)
    { s with
      columns := s.columns.drop closed.length
      produced := List.replicate closed.length Token.blockEnd ++ s.produced }

/-! ## Possible keys -/

/-- Forgets the possible key of the innermost collection; a required one has to be a key. -/
def dropKey? (s : Scanner) : Option Scanner :=
  match s.keys with
  | some k :: rest => if k.required then none else some { s with keys := none :: rest }
  | _ => some s

/-- Notes that a key could start here. -/
def saveKey? (s : Scanner) : Option Scanner :=
  if s.keyAllowed then do
    let s ← s.dropKey?
    let c := s.cursor
    let required := !s.inFlow && s.columns.head? = some c.column
    let k : PossibleKey := ⟨required, s.produced.length, c.index, c.line, c.column⟩
    some { s with keys := some k :: s.keys.drop 1 }
  else some s

/-- Forgets the possible keys that are too far behind; a required one has to be a key. -/
def dropStaleKeys? (s : Scanner) : Option Scanner := do
  let c := s.cursor
  let keys ← s.keys.mapM fun k =>
    match k with
    | some k =>
      if k.line < c.line || k.index + keyReach < c.index then
        if k.required then none else some none
      else some (some k)
    | none => some none
  some { s with keys := keys }

/-! ## Between tokens -/

/-- Goes on to the next token, over blanks, remarks and line breaks. -/
def skipToToken : Nat → Scanner → Scanner
  | 0, s => s
  | n + 1, s =>
    let c := s.cursor.skipWhile fun x => x = ' ' || ((s.inFlow || !s.keyAllowed) && x = '\t')
    let c := if c.rest.head? = some '#' then c.skipWhile fun x => !isBreak x else c
    if c.rest.head?.any isBreak then
      skipToToken n { s with cursor := c.skipBreak.2, keyAllowed := s.keyAllowed || !s.inFlow }
    else { s with cursor := c }

/-! ## Tokens -/

/-- Closes every block, where no key is open. -/
def endBlocks? (s : Scanner) : Option Scanner :=
  ((s.closeBlocks none).dropKey?).map fun s => s.allowKey false

/-- The characters of an address. -/
def isAddressChar (verbatim : Bool) (c : Char) : Bool :=
  isNameChar c || (";/?:@&=+$.!~*'()%".toList.contains c) || (verbatim && (",[]".toList.contains c))

/-- A text in which bytes may be given by their numbers. -/
def unescapeAddress? : Nat → List Char → ByteArray → Option ByteArray
  | 0, _, out => some out
  | _ + 1, [], out => some out
  | n + 1, '%' :: cs, out => do
    let b ← hexNumber? 2 cs
    unescapeAddress? n (cs.drop 2) (out.push b.toUInt8)
  | n + 1, c :: cs, out => unescapeAddress? n cs (out ++ c.toString.toUTF8)

/-- The address that comes next. -/
def address? (verbatim : Bool) (c : Cursor) : Option (String × Cursor) := do
  let cs := c.rest.takeWhile (isAddressChar verbatim)
  let bytes ← unescapeAddress? (cs.length + 1) cs .empty
  let s ← String.fromUTF8? bytes
  some (s, c.skipMany cs.length)

/-- The handle of a tag that comes next: a mark, a name and possibly another mark. -/
def handle (c : Cursor) : String × Cursor :=
  let name := (c.rest.drop 1).takeWhile isNameChar
  let c := c.skipMany (name.length + 1)
  if c.rest.head? = some '!' then (String.ofList ('!' :: name ++ ['!']), c.skip)
  else (String.ofList ('!' :: name), c)

/-- A tag. -/
def tag? (s : Scanner) : Option Scanner := do
  let s ← s.saveKey?
  let s := s.allowKey false
  let (t, c) ←
    if (s.cursor.rest.drop 1).head? = some '<' then do
      let (suffix, c) ← address? true (s.cursor.skipMany 2)
      if suffix.isEmpty || c.rest.head? ≠ some '>' then none
      else some (Token.tag "" suffix, c.skip)
    else do
      let (h, c) := handle s.cursor
      if 2 ≤ h.length ∧ h.toList.getLast? = some '!' then do
        let (suffix, c) ← address? false c
        if suffix.isEmpty then none else some (Token.tag h suffix, c)
      else do
        let (more, c) ← address? false c
        let suffix := String.ofList (h.toList.drop 1) ++ more
        some (if suffix.isEmpty then Token.tag "" "!" else Token.tag "!" suffix, c)
  if atBlankOrEnd c.rest || (s.inFlow && c.rest.head? = some ',') then
    some ({ s with cursor := c }.emit t)
  else none

/-- An anchor or a reference to one. -/
def name? (s : Scanner) (make : String → Token) : Option Scanner := do
  let s ← s.saveKey?
  let s := s.allowKey false
  let c := s.cursor.skip
  let name := c.rest.takeWhile isNameChar
  let c := c.skipMany name.length
  let closed := atBlankOrEnd c.rest || c.rest.head?.any ("?:,]\x7d%@\x60".toList.contains ·)
  if name.isEmpty || !closed then none
  else some ({ s with cursor := c }.emit (make (String.ofList name)))

/-- A number of a version. -/
def versionNumber? (c : Cursor) : Option (Nat × Cursor) := do
  let digits := c.rest.takeWhile Char.isDigit
  if 9 < digits.length then none
  let n ← (String.ofList digits).toNat?
  some (n, c.skipMany digits.length)

/-- What stands behind the name of a directive. -/
def directiveBody? (name : List Char) (c : Cursor) : Option (Token × Cursor) := do
  let c := c.skipWhile isBlank
  if name = ['Y', 'A', 'M', 'L'] then
    let (major, c) ← versionNumber? c
    if c.rest.head? ≠ some '.' then none
    let (minor, c) ← versionNumber? c.skip
    some (.version major minor, c)
  else if name = ['T', 'A', 'G'] then
    if c.rest.head? ≠ some '!' then none
    let (h, c) := handle c
    if h ≠ "!" ∧ h.toList.getLast? ≠ some '!' then none
    if !c.rest.head?.any isBlank then none
    let (head, c) ← address? true (c.skipWhile isBlank)
    if head.isEmpty || !atBlankOrEnd c.rest then none
    else some (.tagHandle h head, c)
  else none

/-- A directive. -/
def directive? (s : Scanner) : Option Scanner := do
  let s ← s.endBlocks?
  let c := s.cursor.skip
  let name := c.rest.takeWhile isNameChar
  let c := c.skipMany name.length
  if name.isEmpty || !atBlankOrEnd c.rest then none
  let (t, c) ← directiveBody? name c
  let c := skipRemark c
  if !atBreakOrEnd c.rest then none
  else some ({ s with cursor := c.skipBreak.2 }.emit t)

/-- The start or the end of a document. -/
def documentMark? (s : Scanner) (t : Token) : Option Scanner :=
  s.endBlocks?.map fun s => (s.skip 3).emit t

/-- The start of a flow collection. -/
def openFlow? (s : Scanner) (t : Token) : Option Scanner :=
  s.saveKey?.map fun s =>
    ({ s with keys := none :: s.keys, flow := s.flow + 1, keyAllowed := true }.emit t).skip 1

/-- The end of a flow collection. -/
def closeFlow? (s : Scanner) (t : Token) : Option Scanner :=
  s.dropKey?.map fun s =>
    let keys := if s.inFlow then s.keys.drop 1 else s.keys
    ({ s with keys := keys, flow := s.flow - 1, keyAllowed := false }.emit t).skip 1

/-- A comma between the entries of a flow collection. -/
def flowEntry? (s : Scanner) : Option Scanner :=
  s.dropKey?.map fun s => ((s.allowKey true).emit .flowEntry).skip 1

/-- The mark of an entry of a sequence. -/
def blockEntry? (s : Scanner) : Option Scanner :=
  if !s.inFlow && !s.keyAllowed then none
  else
    let s := s.openBlock s.cursor.column s.produced.length .blockSequenceStart
    s.dropKey?.map fun s => ((s.allowKey true).emit .blockEntry).skip 1

/-- The mark of a key. -/
def keyMark? (s : Scanner) : Option Scanner :=
  if !s.inFlow && !s.keyAllowed then none
  else
    let s := s.openBlock s.cursor.column s.produced.length .blockMappingStart
    s.dropKey?.map fun s => ((s.allowKey !s.inFlow).emit .key).skip 1

/-- The mark between a key and its value. -/
def valueMark? (s : Scanner) : Option Scanner :=
  match s.keys with
  | some k :: rest =>
    let s := { s with keys := none :: rest }.emitAt k.place .key
    let s := s.openBlock k.column k.place .blockMappingStart
    some (((s.allowKey false).emit .value).skip 1)
  | _ =>
    if !s.inFlow && !s.keyAllowed then none
    else
      let s := s.openBlock s.cursor.column s.produced.length .blockMappingStart
      some (((s.allowKey !s.inFlow).emit .value).skip 1)

/-- A scalar of whole lines. -/
def blockScalar? (s : Scanner) (folded : Bool) : Option Scanner := do
  let s ← s.dropKey?
  let (text, c) ← block? folded s.columns.head? s.cursor
  some ({ s with cursor := c, keyAllowed := true }.emit (.scalar (String.ofList text) false))

/-- A scalar between quotes. -/
def quotedScalar? (s : Scanner) (quote : Char) : Option Scanner := do
  let s ← s.saveKey?
  let (text, c) ← quoted? quote s.cursor
  some ({ s with cursor := c, keyAllowed := false }.emit (.scalar (String.ofList text) false))

/-- A scalar without quotes. -/
def plainScalar? (s : Scanner) : Option Scanner := do
  let s ← s.saveKey?
  let (text, broken, c) ← plain? s.inFlow (s.columns.head?.elim 0 (· + 1)) s.cursor
  some ({ s with cursor := c, keyAllowed := broken }.emit (.scalar (String.ofList text) true))

/-- Characters that cannot start a plain scalar, those apart that may. -/
def indicators : List Char := "-?:,[]\x7b\x7d#&*!|>'\"%@\x60".toList

/-- Whether a plain scalar can start here. -/
def startsPlain (inFlow : Bool) : List Char → Bool
  | [] => false
  | c :: rest =>
    !(isBlank c || isBreak c || indicators.contains c)
      || (c = '-' && !rest.head?.any isBlank)
      || (!inFlow && (c = '?' || c = ':') && !atBlankOrEnd rest)

/-- The next token, at its first character. -/
def token? (s : Scanner) (c : Char) (rest : List Char) : Option Scanner :=
  if s.cursor.column = 0 ∧ c = '%' then s.directive?
  else if s.cursor.atMark '-' then s.documentMark? .documentStart
  else if s.cursor.atMark '.' then s.documentMark? .documentEnd
  else if c = '[' then s.openFlow? .flowSequenceStart
  else if c = '\x7b' then s.openFlow? .flowMappingStart
  else if c = ']' then s.closeFlow? .flowSequenceEnd
  else if c = '\x7d' then s.closeFlow? .flowMappingEnd
  else if c = ',' then s.flowEntry?
  else if c = '-' ∧ atBlankOrEnd rest then s.blockEntry?
  else if c = '?' ∧ (s.inFlow ∨ atBlankOrEnd rest) then s.keyMark?
  else if c = ':' ∧ (s.inFlow ∨ atBlankOrEnd rest) then s.valueMark?
  else if c = '*' then s.name? .alias
  else if c = '&' then s.name? .anchor
  else if c = '!' then s.tag?
  else if c = '|' ∧ !s.inFlow then s.blockScalar? false
  else if c = '>' ∧ !s.inFlow then s.blockScalar? true
  else if c = '\'' ∨ c = '"' then s.quotedScalar? c
  else if startsPlain s.inFlow (c :: rest) then s.plainScalar?
  else none

/-- All tokens from here on. -/
def finish? : Nat → Scanner → Option (List Token)
  | 0, _ => none
  | n + 1, s => do
    let s := s.skipToToken (s.cursor.rest.length + 1)
    let s ← s.dropStaleKeys?
    match s.cursor.rest with
    | [] => s.endBlocks?.map fun s => (s.emit .streamEnd).produced.reverse
    | c :: rest =>
      let s := s.closeBlocks (some s.cursor.column)
      finish? n (← s.token? c rest)

end Scanner

/-- The tokens of a text. -/
def tokens? (text : String) : Option (List Token) :=
  if text.toList.all isAllowed then
    (Scanner.start text.toList).finish? (text.length + 1)
  else none

end Yaml

end PagePress
