import PagePress.Dict
import PagePress.Yaml.Token

/-!
# Nodes of YAML

* `Node` is a scalar, a sequence or a mapping, each with the tag that it was given;
* `Tokens` is the rest of the tokens, with the nodes that have a name so far;
* `node?` reads a node, and `document?` the only document of a text.

Every function takes a bound on how many of them call each other; a token is read at least once
in three calls.
-/

namespace PagePress

namespace Yaml

/-- A node. -/
inductive Node where
  | scalar (tag : Option String) (text : String) (plain : Bool)
  | sequence (tag : Option String) (items : List Node)
  | mapping (tag : Option String) (pairs : List (Node × Node))
deriving Inhabited

/-- A scalar that is not written. -/
def Node.absent : Node := .scalar none "" true

/-- The rest of the tokens. -/
structure Tokens where
  rest : List Token
  /-- The nodes by name, the latest first; a node that is still open has none. -/
  named : List (String × Option Node)
  /-- What the handles of tags stand for. -/
  handles : List (String × String)

namespace Tokens

/-- The next token. -/
def peek (t : Tokens) : Option Token := t.rest.head?

/-- Goes on by a token. -/
def skip (t : Tokens) : Tokens := { t with rest := t.rest.drop 1 }

/-- Whether the next token is one of those given. -/
def nextIn (t : Tokens) (ts : List Token) : Bool := t.peek.any ts.contains

/-- Gives a node a name. -/
def bind (t : Tokens) (name : String) (n : Option Node) : Tokens :=
  { t with named := (name, n) :: t.named }

end Tokens

/-- What the handles of tags stand for unless they are given. -/
def usualHandles : List (String × String) := [("!", "!"), ("!!", "tag:yaml.org,2002:")]

/-- The tag of a handle and a suffix. -/
def resolveTag? (t : Tokens) (handle suffix : String) : Option String :=
  if handle.isEmpty then some suffix
  else (Entries.get? handle (t.handles ++ usualHandles)).map (· ++ suffix)

/-! ## Nodes -/

/-- The anchor and the tag in front of a node, in any order. -/
def properties? (t : Tokens) : Option (Option String × Option String × Tokens) :=
  match t.rest with
  | .anchor a :: .tag h s :: _ => (resolveTag? t h s).map fun tag => (some a, some tag, t.skip.skip)
  | .tag h s :: .anchor a :: _ => (resolveTag? t h s).map fun tag => (some a, some tag, t.skip.skip)
  | .anchor a :: _ => some (some a, none, t.skip)
  | .tag h s :: _ => (resolveTag? t h s).map fun tag => (none, some tag, t.skip)
  | _ => some (none, none, t)

/-- Where a node stands. -/
inductive Place where
  /-- In a flow collection. -/
  | flow
  /-- In a block. -/
  | block
  /-- In a mapping of a block, where a sequence need not be indented. -/
  | pair
deriving DecidableEq, Repr

mutual

/-- A node. -/
def node? : Nat → Place → Tokens → Option (Node × Tokens)
  | 0, _, _ => none
  | n + 1, place, t =>
    match t.peek with
    | some (.alias a) =>
      match Entries.get? a t.named with
      | some (some node) => some (node, t.skip)
      | _ => none
    | _ => do
      let (anchor, tag, t) ← properties? t
      let t := match anchor with
        | some a => t.bind a none
        | none => t
      let (node, t) ← body? n place (anchor.isSome || tag.isSome) tag t
      match anchor with
      | some a => some (node, t.bind a (some node))
      | none => some (node, t)

/-- A node behind its properties. -/
def body? : Nat → Place → Bool → Option String → Tokens → Option (Node × Tokens)
  | 0, _, _, _, _ => none
  | n + 1, place, hasProperties, tag, t =>
    match t.peek with
    | some (.scalar text plain) => some (.scalar tag text plain, t.skip)
    | some .flowSequenceStart =>
      (flowItems? n true [] t.skip).map fun (x : List Node × Tokens) => (.sequence tag x.1, x.2)
    | some .flowMappingStart =>
      (flowPairs? n true [] t.skip).map fun (x : List (Node × Node) × Tokens) =>
        (.mapping tag x.1, x.2)
    | other =>
      if place = .pair ∧ other = some .blockEntry then
        (looseItems? n [] t).map fun (x : List Node × Tokens) => (.sequence tag x.1, x.2)
      else if place ≠ .flow ∧ other = some .blockSequenceStart then
        (blockItems? n [] t.skip).map fun (x : List Node × Tokens) => (.sequence tag x.1, x.2)
      else if place ≠ .flow ∧ other = some .blockMappingStart then
        (blockPairs? n [] t.skip).map fun (x : List (Node × Node) × Tokens) =>
          (.mapping tag x.1, x.2)
      else if hasProperties then some (.scalar tag "" true, t)
      else none

/-- A node, unless one of the given tokens comes next. -/
def nodeUnless? : Nat → Place → List Token → Tokens → Option (Node × Tokens)
  | 0, _, _, _ => none
  | n + 1, place, stops, t => if t.nextIn stops then some (.absent, t) else node? n place t

/-- The items of a sequence of a block, behind those read so far. -/
def blockItems? : Nat → List Node → Tokens → Option (List Node × Tokens)
  | 0, _, _ => none
  | n + 1, items, t =>
    match t.peek with
    | some .blockEntry => do
      let (x, t) ← nodeUnless? n .block [.blockEntry, .blockEnd] t.skip
      blockItems? n (items ++ [x]) t
    | some .blockEnd => some (items, t.skip)
    | _ => none

/-- The items of a sequence that is not indented. -/
def looseItems? : Nat → List Node → Tokens → Option (List Node × Tokens)
  | 0, _, _ => none
  | n + 1, items, t =>
    match t.peek with
    | some .blockEntry => do
      let (x, t) ← nodeUnless? n .block [.blockEntry, .key, .value, .blockEnd] t.skip
      looseItems? n (items ++ [x]) t
    | _ => some (items, t)

/-- The value of a pair, absent if there is no mark in front of it. -/
def pairValue? : Nat → Place → List Token → Tokens → Option (Node × Tokens)
  | 0, _, _, _ => none
  | n + 1, place, stops, t =>
    if t.peek = some .value then nodeUnless? n place stops t.skip else some (.absent, t)

/-- The pairs of a mapping of a block. -/
def blockPairs? : Nat → List (Node × Node) → Tokens → Option (List (Node × Node) × Tokens)
  | 0, _, _ => none
  | n + 1, pairs, t =>
    match t.peek with
    | some .key => do
      let (k, t) ← nodeUnless? n .pair [.key, .value, .blockEnd] t.skip
      let (v, t) ← pairValue? n .pair [.key, .value, .blockEnd] t
      blockPairs? n (pairs ++ [(k, v)]) t
    | some .blockEnd => some (pairs, t.skip)
    | _ => none

/-- A pair that stands alone in a flow sequence, behind its mark. -/
def lonePair? : Nat → Tokens → Option (Node × Tokens)
  | 0, _ => none
  | n + 1, t => do
    let (k, t) ←
      if t.nextIn [.value, .flowEntry, .flowSequenceEnd] then some (Node.absent, t.skip)
      else node? n .flow t
    let (v, t) ← pairValue? n .flow [.flowEntry, .flowSequenceEnd] t
    some (.mapping none [(k, v)], t)

/-- The items of a flow sequence. -/
def flowItems? : Nat → Bool → List Node → Tokens → Option (List Node × Tokens)
  | 0, _, _, _ => none
  | n + 1, first, items, t =>
    if t.peek = some .flowSequenceEnd then some (items, t.skip)
    else do
      let t ← if first then some t else if t.peek = some .flowEntry then some t.skip else none
      if t.peek = some .flowSequenceEnd then some (items, t.skip)
      else
        let (x, t) ← if t.peek = some .key then lonePair? n t.skip else node? n .flow t
        flowItems? n false (items ++ [x]) t

/-- The pairs of a flow mapping. -/
def flowPairs? : Nat → Bool → List (Node × Node) → Tokens → Option (List (Node × Node) × Tokens)
  | 0, _, _, _ => none
  | n + 1, first, pairs, t =>
    if t.peek = some .flowMappingEnd then some (pairs, t.skip)
    else do
      let t ← if first then some t else if t.peek = some .flowEntry then some t.skip else none
      if t.peek = some .flowMappingEnd then some (pairs, t.skip)
      else if t.peek = some .key then
        let (k, t) ← nodeUnless? n .flow [.value, .flowEntry, .flowMappingEnd] t.skip
        let (v, t) ← pairValue? n .flow [.flowEntry, .flowMappingEnd] t
        flowPairs? n false (pairs ++ [(k, v)]) t
      else
        let (k, t) ← node? n .flow t
        flowPairs? n false (pairs ++ [(k, .absent)]) t

end

/-! ## Documents -/

/-- The directives in front of a document, and whether there are any. -/
def directives? : List Token → List (String × String) → Bool → Option (List Token × List (String × String))
  | .version major minor :: rest, handles, versioned =>
    if versioned || major ≠ 1 || (minor ≠ 1 && minor ≠ 2) then none
    else directives? rest handles true
  | .tagHandle h head :: rest, handles, versioned =>
    if (Entries.get? h handles).isSome then none
    else directives? rest (handles ++ [(h, head)]) versioned
  | rest, handles, _ => some (rest, handles)

/-- Whether a token ends the content of a document. -/
def endsContent : Token → Bool
  | .version _ _ | .tagHandle _ _ | .documentStart | .documentEnd | .streamEnd => true
  | _ => false

/-- The content of the only document of a text; `none` inside if the text has no document. -/
def content? (ts : List Token) : Option (Option Node) := do
  let bound := 4 * ts.length + 4
  let (node, rest) ← match ts with
    | [.streamEnd] => some (none, ts)
    | .version _ _ :: _ | .tagHandle _ _ :: _ | .documentStart :: _ => do
      let (rest, handles) ← directives? ts [] false
      match rest with
      | .documentStart :: rest =>
        if rest.head?.any endsContent then some (some Node.absent, rest)
        else
          (node? bound .block ⟨rest, [], handles⟩).map fun (x : Node × Tokens) =>
            (some x.1, x.2.rest)
      | _ => none
    | _ =>
      (node? bound .block ⟨ts, [], []⟩).map fun (x : Node × Tokens) => (some x.1, x.2.rest)
  if rest.dropWhile (· = .documentEnd) = [.streamEnd] then some node else none

end Yaml

end PagePress
