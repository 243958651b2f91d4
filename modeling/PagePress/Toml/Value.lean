import PagePress.Dict

/-!
# TOML values and tables

* `Value` is a value; a table remembers how it came to be, since that decides whether it may
  be extended;
* `store?` puts a value under a dotted key, and `openTable?` and `openItem?` make the table of a
  header; each refuses to define anything twice.
-/

namespace PagePress

namespace Toml

/-- How a table came to be. -/
inductive Origin where
  /-- It has a header of its own. -/
  | written
  /-- It is passed through by the header of another table. -/
  | passed
  /-- It is passed through by a dotted key. -/
  | dotted
  /-- It is written between braces. -/
  | inline
deriving DecidableEq, Repr

/-- A value. -/
inductive Value where
  | text (s : String)
  | integer (n : Int)
  | boolean (b : Bool)
  | float
  | datetime
  | array (items : List Value)
  | table (origin : Origin) (entries : List (String × Value))
  /-- Tables that have headers with two brackets. -/
  | tables (items : List Value)
deriving Inhabited

/-- The entries of a table. -/
abbrev Entries := List (String × Value)

namespace Value

/-- Changes the last item of a list. -/
def mapLast? (f : Value → Option Value) : List Value → Option (List Value)
  | [] => none
  | [x] => (f x).map fun y => [y]
  | x :: xs => (mapLast? f xs).map (x :: ·)

end Value

/-- Stores a value under a dotted key. -/
def store? (v : Value) : List String → Entries → Option Entries
  | [], _ => none
  | [k], es => if (PagePress.Entries.get? k es).isSome then none
    else some (PagePress.Entries.put k v es)
  | k :: next :: rest, es =>
    match PagePress.Entries.get? k es with
    | none =>
      (store? v (next :: rest) []).map fun inner =>
        PagePress.Entries.put k (.table .dotted inner) es
    | some (.table origin inner) =>
      if origin = .dotted ∨ (origin = .passed ∧ rest ≠ []) then
        (store? v (next :: rest) inner).map fun inner =>
          PagePress.Entries.put k (.table origin inner) es
      else none
    | some (.tables items) =>
      if rest = [] then none
      else
        let last : Entries := match items.getLast? with
          | some (.table _ inner) => inner
          | _ => []
        (store? v (next :: rest) last).map fun inner =>
          PagePress.Entries.put k (.tables (items.dropLast ++ [.table .written inner])) es
    | some _ => none

/-- Changes what a header leads to, and makes the tables that it passes through.  In a list of
tables it leads to the last one. -/
def descend? (change : Option Value → Option Value) : List String → Entries → Option Entries
  | [], _ => none
  | [k], es =>
    (change (PagePress.Entries.get? k es)).map fun v => PagePress.Entries.put k v es
  | k :: next :: rest, es =>
    match PagePress.Entries.get? k es with
    | none =>
      (descend? change (next :: rest) []).map fun inner =>
        PagePress.Entries.put k (.table .passed inner) es
    | some (.table origin inner) =>
      if origin = .inline then none
      else
        (descend? change (next :: rest) inner).map fun inner =>
          PagePress.Entries.put k (.table origin inner) es
    | some (.tables items) =>
      let last : Entries := match items.getLast? with
        | some (.table _ inner) => inner
        | _ => []
      (descend? change (next :: rest) last).map fun inner =>
        PagePress.Entries.put k (.tables (items.dropLast ++ [.table .written inner])) es
    | some _ => none

/-- Makes the table of a header. -/
def openTable? (path : List String) (root : Entries) : Option Entries :=
  descend?
    (fun v => match v with
      | none => some (.table .written [])
      | some (.table .passed inner) => some (.table .written inner)
      | _ => none)
    path root

/-- Makes another table of a list of tables. -/
def openItem? (path : List String) (root : Entries) : Option Entries :=
  descend?
    (fun v => match v with
      | none => some (.tables [.table .written []])
      | some (.tables items) => some (.tables (items ++ [.table .written []]))
      | _ => none)
    path root

/-- Stores a value in the table of a header; without a header that is the whole document. -/
def storeIn? (header key : List String) (v : Value) (root : Entries) : Option Entries :=
  if header.isEmpty then store? v key root
  else
    let inside : Value → Option Value
      | .table origin inner => (store? v key inner).map (.table origin)
      | _ => none
    descend?
      (fun old => match old with
        | some (.tables items) => (Value.mapLast? inside items).map .tables
        | some t => inside t
        | none => none)
      header root

end Toml

end PagePress
