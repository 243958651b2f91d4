import PagePress.Markdown.Piece

/-!
# Inline nodes and emphasis

* `Inline` is a resolved inline node;
* `Part` is what stands in a line after links, code and HTML are resolved: inline nodes, and
  runs of emphasis marks that are still to be paired;
* `resolveEmphasis` pairs the runs.
-/

namespace PagePress

namespace Markdown

/-! ## Nodes -/

/-- A resolved inline node at its place. -/
inductive Inline where
  | leaf (event : Event) (start stop : Nat)
  | node (tag : Tag) (start stop : Nat) (children : List Inline)

mutual

/-- The events of a node. -/
def Inline.events (s : Source) : Inline → List Located
  | .leaf e start stop => [⟨e, s.span start stop⟩]
  | .node tag start stop children =>
    ⟨.open tag, s.span start stop⟩ :: Inline.eventsAll s children
      ++ [⟨.close, s.span start stop⟩]

/-- The events of a list of nodes. -/
def Inline.eventsAll (s : Source) : List Inline → List Located
  | [] => []
  | i :: is => Inline.events s i ++ Inline.eventsAll s is

end

/-- Text as it stands in the source. -/
def Inline.plain (s : Source) (start stop : Nat) : Inline :=
  .leaf (.text (s.text start stop)) start stop

/-! ## Parts of a line -/

/-- A run of emphasis marks: its mark, how many there are, and what it may do. -/
structure Run where
  mark : Char
  count : Nat
  opens : Bool
  closes : Bool
  start : Nat
deriving DecidableEq, Repr

/-- What stands in a line once links, code and HTML are resolved. -/
inductive Part where
  | run (r : Run)
  | hardBreak (backslash : Bool) (start stop : Nat)
  | done (i : Inline)

/-! ## Pairing runs -/

/-- A run that may still be closed, and the nodes after it, in reverse. -/
structure Opener where
  mark : Char
  /-- How many of the marks are left. -/
  left : Nat
  /-- The length of the run it comes from. -/
  length : Nat
  /-- Whether the run could have closed, too. -/
  both : Bool
  start : Nat
  after : List Inline

/-- Which runs a closing run failed to find an opener for. -/
inductive Bottom where
  | thirds (mark : Char) (remainder : Nat)
  | oneWay (mark : Char)
deriving DecidableEq, Repr

/-- The open runs, innermost first; the nodes before all of them, in reverse; and for each kind
of closing run the number of outermost openers that it need not look at again. -/
structure Pairing where
  openers : List Opener
  before : List Inline
  bottoms : List (Bottom × Nat)

namespace Pairing

/-- Nothing is read. -/
def start : Pairing := ⟨[], [], []⟩

/-- Adds a node. -/
def push (p : Pairing) (i : Inline) : Pairing :=
  match p.openers with
  | [] => { p with before := i :: p.before }
  | o :: os => { p with openers := { o with after := i :: o.after } :: os }

/-- Adds nodes, given in reverse. -/
def pushAll (p : Pairing) (is : List Inline) : Pairing :=
  match p.openers with
  | [] => { p with before := is ++ p.before }
  | o :: os => { p with openers := { o with after := is ++ o.after } :: os }

/-- The number of openers that closing runs of a kind need not look at. -/
def bottom (p : Pairing) (b : Bottom) : Nat :=
  match p.bottoms.find? (·.1 == b) with
  | some (_, n) => n
  | none => 0

/-- Records that closing runs of a kind need not look at so many openers. -/
def setBottom (p : Pairing) (b : Bottom) (n : Nat) : Pairing :=
  { p with bottoms := (b, n) :: p.bottoms.filter (·.1 != b) }

/-- The number of openers that a closing run need not look at. -/
def bottomOf (p : Pairing) (mark : Char) (length : Nat) (both : Bool) : Nat :=
  if mark = '~' then p.bottom (.oneWay mark)
  else
    let n := p.bottom (.thirds mark (length % 3))
    if both then n else min n (p.bottom (.oneWay mark))

/-- Records that a closing run found no opener. -/
def noteMiss (p : Pairing) (mark : Char) (length : Nat) (both : Bool) : Pairing :=
  let n := p.openers.length
  if mark = '~' then p.setBottom (.oneWay mark) n
  else if mark = '_' then
    if both then p.setBottom (.thirds mark (length % 3)) n else p.setBottom (.oneWay mark) n
  else
    let p := p.setBottom (.thirds mark (length % 3)) n
    if both then p else p.setBottom (.oneWay mark) n

/-- Whether an opener fits a closing run. -/
def fits (mark : Char) (length : Nat) (both : Bool) (o : Opener) : Bool :=
  o.mark = mark && (mark != '~' || length = o.length)
    && ((!both && !o.both) || (length + o.length) % 3 != 0 || length % 3 = 0)

/-- The innermost opener that fits, with the openers inside it and those around it; only the
first `within` openers are looked at. -/
def findOpener (mark : Char) (length : Nat) (both : Bool) :
    Nat → List Opener → Option (List Opener × Opener × List Opener)
  | 0, _ => none
  | _, [] => none
  | within + 1, o :: os =>
    if fits mark length both o then some ([], o, os)
    else
      (findOpener mark length both within os).map fun (inner, found, outer) =>
        (o :: inner, found, outer)

/-- The marks of an opener as text. -/
def Opener.text (s : Source) (o : Opener) : Inline := .plain s o.start (o.start + o.left)

/-- The nodes of openers that stay text, in reverse. -/
def flatten (s : Source) (os : List Opener) : List Inline :=
  os.flatMap fun o => o.after ++ [Opener.text s o]

/-- Encloses nodes in emphasis by `n` marks on each side, two at a time from the inside out;
`left` and `right` are the edges of the enclosed text. -/
def enclose (mark : Char) : Nat → Nat → Nat → List Inline → List Inline
  | 0, _, _, is => is
  | 1, left, right, is =>
    [.node (if mark = '~' then .delete else .emphasis) (left - 1) (right + 1) is]
  | n + 2, left, right, is =>
    enclose mark n (left - 2) (right + 2)
      [.node (if mark = '~' then .delete else .strong) (left - 2) (right + 2) is]

/-- Lowers the bottoms to the number of openers. -/
def trimBottoms (p : Pairing) (n : Nat) : Pairing :=
  { p with bottoms := p.bottoms.map fun (b, k) => (b, min k n) }

/-- Pairs as many of the `left` marks of a closing run at `place` as there are openers for; the
last result is the number of marks that are left over.  `fuel` bounds the number of openers
used. -/
def closeRun (s : Source) (r : Run) : Nat → Nat → Nat → Pairing → Pairing × Nat
  | 0, _, left, p => (p, left)
  | fuel + 1, place, left, p =>
    let both := r.opens && r.closes
    let bottom := min p.openers.length (p.bottomOf r.mark r.count both)
    match findOpener r.mark r.count both (p.openers.length - bottom) p.openers with
    | none => (p.noteMiss r.mark r.count both, left)
    | some (inner, o, outer) =>
      let n := min left o.left
      let children := (flatten s inner ++ o.after).reverse
      let made := enclose r.mark n (o.start + o.left) place children
      let p := { p with openers := outer }.trimBottoms outer.length
      let p :=
        if n < o.left then
          { p with openers := { o with left := o.left - n, after := made.reverse } :: outer }
        else p.pushAll made.reverse
      if n < left then closeRun s r fuel (place + n) (left - n) p else (p, 0)

/-- Reads a run. -/
def addRun (s : Source) (p : Pairing) (r : Run) : Pairing :=
  let (p, left) :=
    if r.closes then closeRun s r (r.count + 1) r.start r.count p else (p, r.count)
  let start := r.start + (r.count - left)
  if left = 0 then p
  else if r.opens then
    { p with
      openers := ⟨r.mark, left, r.count, r.opens && r.closes, start, []⟩ :: p.openers }
  else p.push (.plain s start (start + left))

/-- Reads a part. -/
def step (s : Source) (p : Pairing) : Part → Pairing
  | .run r => p.addRun s r
  | .hardBreak _ start stop => p.push (.leaf .hardBreak start stop)
  | .done i => p.push i

/-- The nodes, with the runs that are still open as text. -/
def finish (s : Source) (p : Pairing) : List Inline :=
  (flatten s p.openers ++ p.before).reverse

end Pairing

/-! ## Emphasis -/

/-- Whether a part is a run. -/
def Part.isRun : Part → Bool
  | .run _ => true
  | _ => false

/-- A line break with nothing after it: a backslash stands for itself, blanks for a soft
break. -/
def Part.atEnd : Part → Part
  | .hardBreak true start stop => .done (.leaf (.text "\\") start stop)
  | .hardBreak false start stop => .done (.leaf .softBreak start stop)
  | p => p

/-- Changes the last of some parts. -/
def settleLast : List Part → List Part
  | [] => []
  | [p] => [p.atEnd]
  | p :: ps => p :: settleLast ps

/-- Pairs the runs in parts of a line. -/
def resolveEmphasis (s : Source) (parts : List Part) : List Inline :=
  let parts := if parts.any Part.isRun then settleLast parts else parts
  (parts.foldl (Pairing.step s) .start).finish s

end Markdown

end PagePress
