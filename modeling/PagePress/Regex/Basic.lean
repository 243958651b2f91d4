/-!
# Regular expressions

Expressions are matched by derivatives: after a character, an expression is replaced by what
is still to come.

* `CharSet` is a set of characters, `Regex` an expression over such sets;
* `Regex.nullable` tells whether an expression matches between two characters;
* `Regex.derive` is what is left of an expression after a character;
* `Regex.found` tells whether a text has a part that matches.
-/

namespace PagePress

/-- A set of characters. -/
inductive CharSet where
  | none
  | range (low high : Char)
  | union (a b : CharSet)
  | complement (a : CharSet)
deriving DecidableEq, Repr

namespace CharSet

/-- Whether a set holds a character. -/
def mem (c : Char) : CharSet → Bool
  | none => false
  | range low high => low.val ≤ c.val && c.val ≤ high.val
  | union a b => mem c a || mem c b
  | complement a => !mem c a

/-- A single character. -/
def single (c : Char) : CharSet := range c c

/-- Every character. -/
def any : CharSet := complement none

/-- The union of sets. -/
def unions (ss : List CharSet) : CharSet := ss.foldr union none

/-- Decimal digits. -/
def digits : CharSet := range '0' '9'

/-- Letters, digits and the low line. -/
def word : CharSet := unions [range 'A' 'Z', range 'a' 'z', digits, single '_']

/-- Blanks and line ends. -/
def blanks : CharSet :=
  unions [range '\t' '\r', single ' ', single '\u00a0', single '\u1680',
    range '\u2000' '\u200a', range '\u2028' '\u2029', single '\u202f', single '\u205f',
    single '\u3000', single '\ufeff']

end CharSet

/-- A regular expression. -/
inductive Regex where
  /-- Matches nothing. -/
  | never
  /-- Matches between any two characters. -/
  | empty
  /-- Matches before the first character. -/
  | start
  /-- Matches behind the last character. -/
  | stop
  /-- Matches between a word and what is no word, or else anywhere but there. -/
  | boundary (inside : Bool)
  | chars (s : CharSet)
  | seq (a b : Regex)
  | alt (a b : Regex)
  | star (a : Regex)
deriving DecidableEq, Repr

namespace Regex

/-! ## Matching -/

/-- Whether a neighbour belongs to a word. -/
def isWord (c : Option Char) : Bool := c.any fun c => CharSet.word.mem c

/-- Whether an expression matches between the two given characters. -/
def nullable (before after : Option Char) : Regex → Bool
  | never | chars _ => false
  | empty | star _ => true
  | start => before.isNone
  | stop => after.isNone
  | boundary inside => (isWord before == isWord after) == inside
  | seq a b => nullable before after a && nullable before after b
  | alt a b => nullable before after a || nullable before after b

/-- One expression after another. -/
def thenMatch : Regex → Regex → Regex
  | never, _ => never
  | empty, b => b
  | a, b => seq a b

/-- One expression or another. -/
def orMatch : Regex → Regex → Regex
  | never, b => b
  | a, never => a
  | a, b => if a = b then a else alt a b

/-- What is left of an expression after a character. -/
def derive (before : Option Char) (c : Char) : Regex → Regex
  | never | empty | start | stop | boundary _ => never
  | chars s => if s.mem c then empty else never
  | seq a b =>
    let first := thenMatch (derive before c a) b
    if nullable before (some c) a then orMatch first (derive before c b) else first
  | alt a b => orMatch (derive before c a) (derive before c b)
  | star a => thenMatch (derive before c a) (star a)

/-- Whether one of the expressions matches the start of a text, or `r` a later part. -/
def foundFrom (r : Regex) : Option Char → List Regex → List Char → Bool
  | before, active, [] => (r :: active).any (nullable before none)
  | before, active, c :: cs =>
    (r :: active).any (nullable before (some c))
      || foundFrom r (some c)
        (((r :: active).map (derive before c)).filter (· ≠ never)).eraseDups cs

/-- Whether a text has a part that matches. -/
def found (r : Regex) (s : String) : Bool := foundFrom r none [] s.toList

/-! ## Repetition -/

/-- An expression at least once. -/
def plus (a : Regex) : Regex := seq a (star a)

/-- An expression or nothing. -/
def optional (a : Regex) : Regex := alt a empty

/-- An expression exactly `n` times. -/
def times (a : Regex) : Nat → Regex
  | 0 => empty
  | n + 1 => seq a (times a n)

/-- An expression at most `n` times. -/
def upTo (a : Regex) : Nat → Regex
  | 0 => empty
  | n + 1 => optional (seq a (upTo a n))

/-- Any character but a line feed. -/
def anyButNewline : Regex := chars (.complement (.single '\n'))

end Regex

end PagePress
