/-!
# TOML documents

A document is a list of entries, which are keys with nodes.  Tables can be opened by
a header, come into being on the way to one, be made by dotted keys, or be written
inline, and only some of these may be extended later (`openTable`, `assign`).
-/

namespace Ndef.Toml

/-- How a table came into being. -/
inductive Origin where
  /-- On the way to the table of a header. -/
  | implied
  /-- By a header. -/
  | header
  /-- By a dotted key. -/
  | dotted
  /-- As a value. -/
  | inline
deriving DecidableEq

/-- A part of a document.  Of arrays only the empty one is represented. -/
inductive Node where
  | string (text : String)
  | emptyArray
  | table (origin : Origin) (entries : List (String × Node))

/-- The entries of a table, in the order in which they were made. -/
abbrev Entries := List (String × Node)

namespace Entries

/-- The node with the given key. -/
def get? (entries : Entries) (key : String) : Option Node :=
  List.lookup key entries

/-- The entries with the node of the key made or replaced. -/
def set (entries : Entries) (key : String) (node : Node) : Entries :=
  if (entries.get? key).isSome then
    entries.map fun entry => if entry.1 = key then (key, node) else entry
  else entries ++ [(key, node)]

/-- Opens the table at the path for its header.  A table can be opened once, and not if
it was made in another way than by headers. -/
def openTable : (path : List String) → Entries → Option Entries
  | [], _ => none
  | [key], entries =>
    match entries.get? key with
    | none => some (entries.set key (.table .header []))
    | some (.table .implied inner) => some (entries.set key (.table .header inner))
    | some _ => none
  | key :: path, entries =>
    match entries.get? key with
    | none => (openTable path []).map fun inner => entries.set key (.table .implied inner)
    | some (.table origin inner) =>
      if origin = .inline then none
      else (openTable path inner).map fun inner => entries.set key (.table origin inner)
    | some _ => none

/-- Makes the node at a dotted key.  Tables on the way may not have been opened by a
header, and the last of them has to be made by dotted keys only. -/
def assign (node : Node) : (path : List String) → Entries → Option Entries
  | [], _ => none
  | [key], entries =>
    match entries.get? key with
    | none => some (entries.set key node)
    | some _ => none
  | key :: path, entries =>
    match entries.get? key with
    | none => (assign node path []).map fun inner => entries.set key (.table .dotted inner)
    | some (.table origin inner) =>
      if origin = .dotted ∨ origin = .implied ∧ path.length ≠ 1 then
        (assign node path inner).map fun inner => entries.set key (.table origin inner)
      else none
    | some _ => none

/-- Makes the node at a dotted key in the table that was opened last. -/
def assignIn (node : Node) (path : List String) : (table : List String) → Entries → Option Entries
  | [], entries => assign node path entries
  | key :: table, entries =>
    match entries.get? key with
    | some (.table origin inner) =>
      (assignIn node path table inner).map fun inner => entries.set key (.table origin inner)
    | _ => none

end Entries

/-- A line of a document that says something. -/
inductive Statement where
  /-- The header of a table. -/
  | header (path : List String)
  /-- A key with its value. -/
  | assignment (path : List String) (node : Node)

/-- The entries after the statements, where `table` is the table opened last. -/
def apply (table : List String) (entries : Entries) : List Statement → Option Entries
  | [] => some entries
  | .header path :: rest =>
    match entries.openTable path with
    | some entries => apply path entries rest
    | none => none
  | .assignment path node :: rest =>
    match entries.assignIn node path table with
    | some entries => apply table entries rest
    | none => none

end Ndef.Toml
