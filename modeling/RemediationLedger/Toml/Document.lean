/-
TOML documents.

A document is read line by line: a header says which table the following lines
add to. It is accepted as a whole or not at all.

* `value` reads a value in which lists and tables in braces nest, with the depth
  as the measure of its recursion. A document that nests deeper than
  `depthLimit` is not accepted.
* `Draft` is a document under way: the root table, and the path to the table
  that lines add to. The rules of what may be added where are those of
  `Toml.Node`; a line that breaks one ends the reading.
* `document` reads lines up to the end of the text. Each takes at least one
  character, so the length of the text bounds their number.

No reason is given for a document that is not accepted, because nothing but the
fact is told of it. That leaves the readers free to try one form of a value
after another.
-/
import RemediationLedger.Toml.Scalar

namespace RemediationLedger.Toml

/-! ## Values -/

/-- Reads the elements of a list, up to its end. There may be a comma behind the last one; `limit`
bounds the number of elements. -/
def listItems (item : Scan Node) : (limit : Nat) → Scan (List Node)
  | 0, _ => none
  | limit + 1, cs =>
    match dropLayout cs with
    | ']' :: rest => some ([], rest)
    | start => do
      let (n, rest) ← item start
      match dropLayout rest with
      | ']' :: rest => return ([n], rest)
      | ',' :: rest => do
        let (more, rest) ← listItems item limit rest
        return (n :: more, rest)
      | _ => none

def keyValue (item : Scan Node) (cs : List Char) :
    Option ((List String × String × Node) × List Char) := do
  let ((path, k), rest) ← key cs
  let rest ← expect? '=' rest
  let (n, rest) ← item (dropSpaces rest)
  return ((path, k, n), dropSpaces rest)

/-- Reads the entries of a table in braces, up to its end, and adds them to `entries`. There is no
comma behind the last one; `limit` bounds the number of entries. -/
def inlineEntries (item : Scan Node) : (limit : Nat) → Entries → Scan Entries
  | 0, _, _ => none
  | limit + 1, entries, cs => do
    let ((path, k, n), rest) ← keyValue item cs
    let entries ← assign path k n .header entries
    match rest with
    | '}' :: rest => return (entries, rest)
    | ',' :: rest => inlineEntries item limit entries rest
    | _ => none

/-- Reads a value within which lists and tables in braces nest up to `depth` deep. -/
def value : (depth : Nat) → Scan Node
  | 0, cs => scalar cs
  | depth + 1, cs =>
    match cs with
    | '[' :: rest => do
      let (elements, after) ← listItems (value depth) rest.length rest
      return (.list elements, after)
    | '{' :: rest =>
      match dropSpaces rest with
      | '}' :: after => some (.table .inline [], after)
      | _ => do
        let (entries, after) ← inlineEntries (value depth) rest.length [] rest
        return (.table .inline entries, after)
    | _ => scalar cs

/-! ## Lines -/

structure Draft where
  root : Entries := []
  current : List String := []

def Draft.add (d : Draft) (path : List String) (k : String) (n : Node) : Option Draft := do
  let root ← descend false (assign path k n) d.current .header d.root
  return { d with root }

def line (d : Draft) (cs : List Char) : Option (Draft × List Char) :=
  match cs with
  | '[' :: '[' :: rest => do
    let ((path, k), rest) ← key rest
    let rest ← expect? ']' (← expect? ']' rest)
    return (⟨← openElement path k d.root, path ++ [k]⟩, ← endLine? rest)
  | '[' :: rest => do
    let ((path, k), rest) ← key rest
    let rest ← expect? ']' rest
    return (⟨← openTable path k d.root, path ++ [k]⟩, ← endLine? rest)
  | _ => do
    let ((path, k, n), rest) ← keyValue (value (depthLimit - 1)) cs
    return (← d.add path k n, ← endLine? rest)

/-- Reads lines up to the end of the document; `limit` bounds their number. -/
def lines : (limit : Nat) → Draft → List Char → Option Entries
  | 0, _, _ => none
  | limit + 1, d, cs =>
    match dropLayout cs with
    | [] => some d.root
    | start => do
      let (d, rest) ← line d start
      lines limit d rest

/-- Reads a document, before which there may be a byte order mark. -/
def document (text : String) : Option Entries :=
  let cs := match text.toList with
    | '\uFEFF' :: rest => rest
    | cs => cs
  lines (cs.length + 1) {} cs

end RemediationLedger.Toml
