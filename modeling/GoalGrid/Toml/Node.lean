/-!
# TOML — tables and what may be added to them

A document is a table of named nodes. It is written in pieces that may
come in any order, and the rules about which pieces go together depend on
how a table came about: under a header of its own, on the way to the
header of a table inside it, by a dotted name, or in braces.
-/

namespace GoalGrid.Toml

/-- A value without parts. -/
inductive Scalar where
  | text (s : String)
  | integer (n : Int)
  | float
  | boolean (b : Bool)
  | moment
deriving DecidableEq, Repr

/-- How a table came about. -/
inductive Origin where
  /-- It has a header. -/
  | header
  /-- It lies on the way to a table with a header. -/
  | implied
  /-- A dotted name runs through it. -/
  | dotted
  /-- It is written in braces. -/
  | inline
deriving DecidableEq, Repr

/-- What a name stands for. -/
inductive Node where
  | scalar (value : Scalar)
  /-- Values in brackets. -/
  | array (elements : List Node)
  | table (origin : Origin) (entries : List (String × Node))
  /-- Tables under the same doubled header. -/
  | tables (elements : List (List (String × Node)))
deriving Repr

/-- Names and what they stand for, in the order of the document. -/
abbrev Entries : Type :=
  List (String × Node)

namespace Entries

/-- The entries with the node under a name exchanged. -/
def replace (entries : Entries) (key : String) (node : Node) : Entries :=
  entries.map fun entry => if entry.1 = key then (key, node) else entry

/-- Changes the entries of the table at the end of a path, making the tables
that are missing on the way. A path does not lead into a value or a table
in braces; one that is part of a dotted name does not lead into a table
with a header either, and a table on the way to a header that it leads
through counts as dotted from then on. Of tables under a doubled header a
path leads into the last one. -/
def within (isDotted : Bool) (change : Origin → Entries → Option Entries) :
    List String → Origin → Entries → Option Entries
  | [], origin, entries => change origin entries
  | key :: path, _, entries =>
    match entries.lookup key with
    | none => do
      let origin := if isDotted then Origin.dotted else .implied
      let inner ← within isDotted change path origin []
      return entries ++ [(key, .table origin inner)]
    | some (.table .inline _) => none
    | some (.table origin inner) => do
      if isDotted ∧ origin = .header then none
      let origin := if isDotted then Origin.dotted else origin
      let inner ← within isDotted change path origin inner
      return replace entries key (.table origin inner)
    | some (.tables elements) => do
      let inner ← within isDotted change path .header (← elements.getLast?)
      return replace entries key (.tables (elements.dropLast ++ [inner]))
    | some _ => none

/-- Adds a value under a dotted name to a table. The name must be new, and a
dotted name adds only to tables that dotted names run through. -/
def add (path : List String) (key : String) (node : Node) (origin : Origin)
    (entries : Entries) : Option Entries :=
  within true (fun origin entries =>
    if !path.isEmpty && origin ≠ .dotted then none
    else if (entries.lookup key).isSome then none
    else some (entries ++ [(key, node)])) path origin entries

/-- Opens the table of a header. A table that has been on the way to another
header so far may still get its own. -/
def openTable (path : List String) (key : String) (entries : Entries) : Option Entries :=
  within false (fun _ entries =>
    match entries.lookup key with
    | none => some (entries ++ [(key, .table .header [])])
    | some (.table .implied inner) => some (replace entries key (.table .header inner))
    | some _ => none) path .header entries

/-- Opens one more table of a doubled header. -/
def openElement (path : List String) (key : String) (entries : Entries) : Option Entries :=
  within false (fun _ entries =>
    match entries.lookup key with
    | none => some (entries ++ [(key, .tables [[]])])
    | some (.tables elements) => some (replace entries key (.tables (elements ++ [[]])))
    | some _ => none) path .header entries

/-- Adds a value under a dotted name to the table of the current header. -/
def addUnder (header path : List String) (key : String) (node : Node) (entries : Entries) :
    Option Entries :=
  within false (add path key node) header .header entries

end Entries

end GoalGrid.Toml
