import Anchormark.Settings.Basic
import Anchormark.Toml.Document

/-!
# Settings as a Document

Settings are kept as a TOML document with the sections `parse` and `stringify`. Every section and
every key may be missing, and keys that mean nothing are passed over, but a key that does mean
something must have a value of its type. Instead of a table, a section may be an array with the
values in their usual order, or a moment, which sets nothing.

Writing puts down every key, so what is read back does not depend on the defaults.

## Main definitions

* `Settings.ofEntries?`, `Settings.read?`: the settings in a table and in a text.
* `Settings.write`: the text of settings.
-/

namespace Anchormark

namespace ListIndent

/-- The name of an indent. -/
def name : ListIndent → String
  | tab => "tab"
  | one => "one"
  | mixed => "mixed"

/-- The indent of a name. -/
def ofName? (s : String) : Option ListIndent :=
  [tab, one, mixed].find? fun indent => indent.name = s

end ListIndent

namespace Settings

open Toml (Value Entries)

/-- A truth value. -/
def boolean? : Value → Option Bool
  | .boolean b => some b
  | _ => none

/-- A string with exactly one character. -/
def marker? : Value → Option Char
  | .string s =>
    match s.toList with
    | [c] => some c
    | _ => none
  | _ => none

/-- The name of an indent, as a string or as the only key of a table with nothing in it. -/
def indent? : Value → Option ListIndent
  | .string s => ListIndent.ofName? s
  | .table _ [(key, v)] => if v.isEmpty then ListIndent.ofName? key else none
  | _ => none

/-- The value of a key, or the default if there is none. -/
def valueOr {α : Type} (read : Value → Option α) (default : α) (key : String)
    (entries : Entries) : Option α :=
  match entries.lookup key with
  | some v => read v
  | none => some default

/-- A section as a table with the given keys. A moment is a table without any of them. -/
def entriesOf? (keys : List String) : Value → Option Entries
  | .table _ entries => some entries
  | .array items => some (keys.zip items)
  | .tables items => some (keys.zip (items.map (.table .header)))
  | .moment => some []
  | _ => none

/-- The section about reading. -/
def parseOptions? (v : Value) : Option ParseOptions := do
  let entries ← entriesOf? ["tables", "strikethrough", "tasklists"] v
  return {
    tables := ← entries |> valueOr boolean? true "tables"
    strikethrough := ← entries |> valueOr boolean? true "strikethrough"
    tasklists := ← entries |> valueOr boolean? true "tasklists" }

/-- The section about writing. -/
def renderOptions? (v : Value) : Option RenderOptions := do
  let entries ← entriesOf? ["bullet", "emphasis", "list_item_indent"] v
  return {
    bullet := ← entries |> valueOr marker? '-' "bullet"
    emphasis := ← entries |> valueOr marker? '*' "emphasis"
    listIndent := ← entries |> valueOr indent? .tab "list_item_indent" }

/-- The settings in a table. -/
def ofEntries? (entries : Entries) : Option Settings := do
  return {
    parse := ← entries |> valueOr parseOptions? {} "parse"
    render := ← entries |> valueOr renderOptions? {} "stringify" }

/-- The settings in a text. -/
def read? (text : String) : Option Settings :=
  (Toml.readDocument? text.toList).bind ofEntries?

/-- A key with its value, on a line of its own. -/
def writeLine (key : String) (value : List Char) : List Char :=
  key.toList ++ [' ', '=', ' '] ++ value ++ ['\n']

/-- A truth value. -/
def writeBoolean (b : Bool) : List Char :=
  if b then ['t', 'r', 'u', 'e'] else ['f', 'a', 'l', 's', 'e']

/-- The characters of the document with these settings. -/
def toChars (s : Settings) : List Char :=
  "[parse]\n".toList ++
  writeLine "tables" (writeBoolean s.parse.tables) ++
  writeLine "strikethrough" (writeBoolean s.parse.strikethrough) ++
  writeLine "tasklists" (writeBoolean s.parse.tasklists) ++
  "\n[stringify]\n".toList ++
  writeLine "bullet" (Toml.quoteChar s.render.bullet) ++
  writeLine "emphasis" (Toml.quoteChar s.render.emphasis) ++
  writeLine "list_item_indent" (['"'] ++ s.render.listIndent.name.toList ++ ['"'])

/-- The document with these settings. -/
def write (s : Settings) : String :=
  String.ofList s.toChars

end Settings

end Anchormark
