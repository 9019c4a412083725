/-
What a TOML document says: a tree of tables, and the rules by which a document
may add to it.

A table comes into being in one of four ways, and how it did decides what may
still be added. A header opens its table once. The tables on the way to it are
implied, and each may still get a header of its own. A dotted key makes tables
that only dotted keys go on filling. A table written in braces is complete.

* `TableKind` keeps the way with the table. It is what the rules ask for and no
  part of what the document says.
* `descend` goes down a path and changes the table at its end; headers and
  dotted keys share it and differ in which tables they may pass through.
* `assign`, `openTable` and `openElement` are the three ways to add something.
  Each has no result if a rule is broken.

Entries are lists in the order of the document. A key is looked for from the
front, and since no key can be added twice the order makes no difference to what
is found.
-/

namespace RemediationLedger.Toml

inductive TableKind where
  /-- It is the root, has a header, or is an element of a list of tables. -/
  | header
  /-- It lies on the way to a table with a header. -/
  | implied
  /-- It lies on the way of a dotted key. -/
  | dotted
  /-- It is written in braces. -/
  | inline
  deriving DecidableEq, Repr

/-- A value or a table. Of numbers with a fraction and of dates only the kind is kept. -/
inductive Node where
  | text (s : String)
  | integer (i : Int)
  | boolean (b : Bool)
  | real
  | moment
  | list (elements : List Node)
  | table (kind : TableKind) (entries : List (String × Node))
  /-- A list whose elements are tables with headers. -/
  | tables (elements : List (List (String × Node)))
  deriving Repr, Inhabited

def Node.text? : Node → Option String
  | .text s => some s
  | _ => none

abbrev Entries := List (String × Node)

/-- Replaces the entry under a key, or adds one at the end. -/
def alter (k : String) (f : Option Node → Option Node) : Entries → Option Entries
  | [] => (f none).map fun n => [(k, n)]
  | (k', n) :: rest =>
    if k' = k then (f (some n)).map fun n' => (k, n') :: rest
    else (alter k f rest).map fun rest' => (k', n) :: rest'

/-- Changes the table at the end of a path that starts at a table of the given kind. Tables that are
missing on the way are made; of a list of tables the last one counts. A path of dotted keys must
not lead through a table that has a header. -/
def descend (dotted : Bool) (f : TableKind → Entries → Option Entries) :
    (path : List String) → TableKind → Entries → Option Entries
  | [], kind, entries => f kind entries
  | k :: path, _, entries =>
    alter k (fun
      | none =>
        let kind := if dotted then TableKind.dotted else .implied
        (descend dotted f path kind []).map (Node.table kind)
      | some (.table kind inner) =>
        if kind = .inline ∨ (dotted ∧ kind = .header) then none
        else (descend dotted f path kind inner).map (Node.table kind)
      | some (.tables elements) =>
        match elements.getLast? with
        | none => none
        | some inner =>
          (descend dotted f path .header inner).map fun inner' =>
            .tables (elements.dropLast ++ [inner'])
      | some _ => none) entries

def addNew (k : String) (n : Node) (entries : Entries) : Option Entries :=
  alter k (fun
    | none => some n
    | some _ => none) entries

/-- Adds a value under a dotted key, here the path to its table and the last key. The table at the
end of a path must be one that dotted keys made, and a key without a path must not add to one. -/
def assign (path : List String) (k : String) (n : Node) (kind : TableKind) (entries : Entries) :
    Option Entries :=
  descend true (fun kind entries =>
    if (kind == .dotted) == path.isEmpty then none else addNew k n entries) path kind entries

/-- Opens the table under a header. It must be new or implied. -/
def openTable (path : List String) (k : String) (root : Entries) : Option Entries :=
  descend false (fun _ entries =>
    alter k (fun
      | none => some (.table .header [])
      | some (.table .implied inner) => some (.table .header inner)
      | some _ => none) entries) path .header root

/-- Adds a table to the list of tables under a header. -/
def openElement (path : List String) (k : String) (root : Entries) : Option Entries :=
  descend false (fun _ entries =>
    alter k (fun
      | none => some (.tables [[]])
      | some (.tables elements) => some (.tables (elements ++ [[]]))
      | some _ => none) entries) path .header root

end RemediationLedger.Toml
