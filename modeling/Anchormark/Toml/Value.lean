/-!
# Tables and Values

A TOML document is a table: keys with values, some of which are tables again. The notation can
write one table piece by piece, in several places, and what may still be added to a table depends on
how it came about. Therefore a table remembers its origin:

* a table that a header only passes through is *implied*, and may get a header of its own later;
* a table that a dotted key passes through can be extended by further dotted keys, but can have no
  header of its own;
* a table with a header is not opened again, neither by a header nor by a dotted key;
* a table between braces is complete.

Every change of a document below either finds its place or fails.

## Main definitions

* `Value`, `Entries`: a value, and the keys and values of a table.
* `Entries.alter`: changes the value under one key.
* `Entries.insert`: adds a value under a dotted key.
* `Entries.follow`: changes the table that a header names.
* `Entries.define`, `append`, `insertUnder`: what headers and lines below them do.
-/

namespace Anchormark.Toml

/-- How a table came about. -/
inductive Origin
  /-- A header passes through it. -/
  | implied
  /-- A dotted key passes through it. -/
  | dotted
  /-- A header names it. -/
  | header
  /-- It was written between braces. -/
  | inline
  deriving DecidableEq, Repr

/-- A value. Numbers and moments have to be well formed, but no setting asks which ones they are. -/
inductive Value
  | string (value : String)
  | boolean (value : Bool)
  | number
  | moment
  | array (items : List Value)
  | table (origin : Origin) (entries : List (String × Value))
  /-- An array whose tables have a header each. -/
  | tables (items : List (List (String × Value)))
  deriving Repr

/-- The keys of a table with their values, in the order in which they first occur. -/
abbrev Entries := List (String × Value)

namespace Value

/-- An array or table without anything in it. -/
def isEmpty : Value → Bool
  | array items => items.isEmpty
  | table _ entries => entries.isEmpty
  | _ => false

/-- Changes the table that a header passes through, which need not exist yet. In an array of
    tables, that is the last one. -/
def through (change : Entries → Option Entries) : Option Value → Option Value
  | none => (change []).map (.table .implied)
  | some (.table .inline _) => none
  | some (.table origin entries) => (change entries).map (.table origin)
  | some (.tables items) => do
    let last ← items.getLast?
    return .tables (items.dropLast ++ [← change last])
  | some _ => none

/-- The table that a header names. -/
def define : Option Value → Option Value
  | none => some (.table .header [])
  | some (.table .implied entries) => some (.table .header entries)
  | some _ => none

/-- The array that a header adds an empty table to. -/
def append : Option Value → Option Value
  | none => some (.tables [[]])
  | some (.tables items) => some (.tables (items ++ [[]]))
  | some _ => none

end Value

namespace Entries

/-- Changes the value under a key. A new key goes to the end. -/
def alter (key : String) (change : Option Value → Option Value) : Entries → Option Entries
  | [] => (change none).map fun v => [(key, v)]
  | (k, v) :: rest =>
    if k = key then (change (some v)).map fun v => (k, v) :: rest
    else (alter key change rest).map ((k, v) :: ·)

/-- Adds a value under a dotted key, which must be new. The tables on the way are made by dotted
    keys; one that is implied by a header may only be passed through to a table below it. -/
def insert (value : Value) : (key : List String) → Entries → Option Entries
  | [], _ => none
  | [key], entries =>
    entries.alter key fun
      | none => some value
      | some _ => none
  | key :: next :: path, entries =>
    let below := insert value (next :: path)
    entries.alter key fun
      | none => (below []).map (.table .dotted)
      | some (.table .dotted entries) => (below entries).map (.table .dotted)
      | some (.table .implied entries) =>
        if path.isEmpty then none else (below entries).map (.table .implied)
      | some _ => none

/-- Changes what stands under the key that a header names. -/
def follow (change : Option Value → Option Value) : (path : List String) → Entries → Option Entries
  | [], _ => none
  | [key], entries => entries.alter key change
  | key :: next :: path, entries => entries.alter key (Value.through (follow change (next :: path)))

/-- The header of a table. -/
def define (path : List String) : Entries → Option Entries :=
  follow Value.define path

/-- The header of a table in an array of tables. -/
def append (path : List String) : Entries → Option Entries :=
  follow Value.append path

/-- Adds a value under a dotted key to the table of the last header. No header yet is the document
    itself. -/
def insertUnder (path key : List String) (value : Value) (entries : Entries) : Option Entries :=
  if path.isEmpty then entries.insert value key
  else entries.follow (Value.through (insert value key)) path

end Entries

end Anchormark.Toml
