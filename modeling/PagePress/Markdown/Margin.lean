import PagePress.Markdown.Source

/-!
# The margin of a line

Indentation is measured in columns, with a tab stop every four columns.  A margin is a place in
the indentation of a line; a tab may be used up in part, and the columns that are left of it
count as pending.
-/

namespace PagePress

namespace Markdown

/-- A place in the indentation of a line. -/
structure Margin where
  /-- The characters from the place on. -/
  rest : List Char
  /-- The place in the text. -/
  ix : Nat
  /-- The number of characters since the last tab stop that is known. -/
  sinceTab : Nat
  /-- The columns that are left of a tab that is used up in part. -/
  pending : Nat

namespace Margin

/-- The start of a line. -/
def start (s : Source) (ix : Nat) : Margin := ⟨s.drop ix, ix, 0, 0⟩

/-- Passes columns in the characters of `rest`; the first result is the number of columns that
are missing. -/
def passChars : Nat → List Char → Nat → Nat → Nat × Margin
  | 0, rest, ix, since => (0, ⟨rest, ix, since, 0⟩)
  | n + 1, ' ' :: rest, ix, since => passChars n rest (ix + 1) (since + 1)
  | n + 1, '\t' :: rest, ix, since =>
    let width := 4 - since % 4
    if n + 1 ≤ width then (0, ⟨rest, ix + 1, 0, width - (n + 1)⟩)
    else passChars (n + 1 - width) rest (ix + 1) 0
  | n + 1, rest, ix, since => (n + 1, ⟨rest, ix, since, 0⟩)

/-- Passes up to `n` columns; the first result is the number of columns that are missing. -/
def pass (n : Nat) (m : Margin) : Nat × Margin :=
  if n ≤ m.pending then (0, { m with pending := m.pending - n })
  else passChars (n - m.pending) m.rest m.ix m.sinceTab

/-- Passes up to `n` columns and tells how many there are. -/
def indent (n : Nat) (m : Margin) : Nat × Margin :=
  let (missing, m) := m.pass n
  (n - missing, m)

/-- Passes all blanks and tabs. -/
def passAll (m : Margin) : Margin :=
  let n := countWhile (fun c => c = ' ' || c = '\t') m.rest
  ⟨m.rest.drop n, m.ix + n, m.sinceTab + n, 0⟩

/-- Passes some characters. -/
def skip (n : Nat) (m : Margin) : Margin :=
  { m with rest := m.rest.drop n, ix := m.ix + n, sinceTab := m.sinceTab + n }

/-- Passes a character if it is next. -/
def passChar? (c : Char) (m : Margin) : Option Margin :=
  match m.rest with
  | d :: _ => if d = c then some (m.skip 1) else none
  | [] => none

/-- Whether the line ends here. -/
def atEnd (m : Margin) : Bool := atLineEnd m.rest

end Margin

end Markdown

end PagePress
