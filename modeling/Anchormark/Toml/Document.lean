import Anchormark.Toml.Quoted

/-!
# Documents

A document is a sequence of lines: headers, and keys with a value. What may stand where is the
notation of TOML 1.1. Reading either gives the whole table or nothing; there is no partial result.

Values nest. A reader for the values inside brackets or braces is the reader for one level less,
which bounds the nesting; each loop over what stands side by side is bounded by the number of
characters, because every round takes at least one.

## Main definitions

* `readKey?`, `readValue?`: a dotted key, and a value.
* `readDocument?`: the table that a text describes.
-/

namespace Anchormark.Toml

/-- Takes a value from the front of the characters. -/
abbrev Reader (α : Type) : Type :=
  List Char → Option (α × List Char)

/-- What follows spaces and tabs. -/
def skipBlanks (cs : List Char) : List Char :=
  cs.dropWhile fun c => c = ' ' || c = '\t'

/-- What follows the line, if nothing is left of it but blanks and a comment. -/
def nextLine? (cs : List Char) : Option (List Char) :=
  let cs := skipBlanks cs
  let cs := match cs with
    | '#' :: comment => comment.dropWhile isPlain
    | _ => cs
  match cs with
  | [] => some []
  | '\n' :: rest | '\r' :: '\n' :: rest => some rest
  | _ => none

/-- What follows blanks, line endings and comments. -/
def skipGap? : (inComment : Bool) → List Char → Option (List Char)
  | _, [] => some []
  | _, '\r' :: '\n' :: rest => skipGap? false rest
  | inComment, c :: rest =>
    if c = '\n' then skipGap? false rest
    else if inComment then if isPlain c then skipGap? true rest else none
    else if c = ' ' || c = '\t' then skipGap? false rest
    else if c = '#' then skipGap? true rest
    else some (c :: rest)

/-- A character of a key without quotes. -/
def isKeyChar (c : Char) : Bool :=
  c.isAlphanum || c = '_' || c = '-'

/-- One part of a key: a word, or a string on one line. -/
def readKeyPart? : Reader String
  | '"' :: rest => (readBasic? 0 rest).map fun (s, rest) => (String.ofList s, rest)
  | '\'' :: rest => (readLiteral? rest).map fun (s, rest) => (String.ofList s, rest)
  | cs =>
    let word := cs.takeWhile isKeyChar
    if word.isEmpty then none else some (String.ofList word, cs.drop word.length)

/-- The parts of a dotted key, with the blanks around it. -/
def readKeyWithin? : (limit : Nat) → Reader (List String)
  | 0, _ => none
  | limit + 1, cs => do
    let (part, cs) ← readKeyPart? (skipBlanks cs)
    match skipBlanks cs with
    | '.' :: rest =>
      let (parts, rest) ← readKeyWithin? limit rest
      return (part :: parts, rest)
    | rest => return ([part], rest)

/-- The parts of a dotted key, with the blanks around it. -/
def readKey? : Reader (List String) := fun cs =>
  readKeyWithin? (cs.length + 1) cs

/-- A dotted key and its value. What may stand on either side of the equals sign is for `gap?` to
    skip. -/
def readPair? (gap? : List Char → Option (List Char)) (value : Reader Value) :
    Reader (List String × Value) := fun cs => do
  let (key, cs) ← readKey? cs
  match ← gap? cs with
  | '=' :: rest =>
    let (v, rest) ← value (← gap? rest)
    return ((key, v), rest)
  | _ => none

/-- The values of an array, up to its closing bracket. -/
def readItems? (value : Reader Value) : (limit : Nat) → Reader (List Value)
  | 0, _ => none
  | limit + 1, cs => do
    match ← skipGap? false cs with
    | ']' :: rest => return ([], rest)
    | cs =>
      let (v, cs) ← value cs
      match ← skipGap? false cs with
      | ']' :: rest => return ([v], rest)
      | ',' :: rest =>
        let (vs, rest) ← readItems? value limit rest
        return (v :: vs, rest)
      | _ => none

/-- The entries of a table between braces, up to its closing brace, added to those before them. -/
def readEntries? (value : Reader Value) : (limit : Nat) → Entries → Reader Entries
  | 0, _, _ => none
  | limit + 1, entries, cs => do
    match ← skipGap? false cs with
    | '}' :: rest => return (entries, rest)
    | cs =>
      let ((key, v), cs) ← readPair? (skipGap? false) value cs
      let entries ← entries.insert v key
      match ← skipGap? false cs with
      | '}' :: rest => return (entries, rest)
      | ',' :: rest => readEntries? value limit entries rest
      | _ => none

/-- A value that holds no other. -/
def readPlain? : Reader Value := fun cs =>
  match readString? cs with
  | some (s, rest) => some (.string (String.ofList s), rest)
  | none => readScalar? cs

/-- A value with at most `depth` arrays and tables inside each other. -/
def readValue? : (depth : Nat) → Reader Value
  | depth + 1, '[' :: rest =>
    (readItems? (readValue? depth) (rest.length + 1) rest).map fun (vs, rest) => (.array vs, rest)
  | depth + 1, '{' :: rest =>
    (readEntries? (readValue? depth) (rest.length + 1) [] rest).map fun (entries, rest) =>
      (.table .inline entries, rest)
  | _, cs => readPlain? cs

/-- How deep values may nest. -/
def maxDepth : Nat := 80

/-- The lines of a document, added to the entries of the lines before. `path` is the last header. -/
def readLines? : (limit : Nat) → (path : List String) → Entries → List Char → Option Entries
  | 0, _, _, _ => none
  | limit + 1, path, entries, cs =>
    match skipBlanks cs with
    | [] => some entries
    | '[' :: '[' :: rest => do
      let (path, rest) ← readKey? rest
      match rest with
      | ']' :: ']' :: rest => readLines? limit path (← entries.append path) (← nextLine? rest)
      | _ => none
    | '[' :: rest => do
      let (path, rest) ← readKey? rest
      match rest with
      | ']' :: rest => readLines? limit path (← entries.define path) (← nextLine? rest)
      | _ => none
    -- A blank line, a comment, or an entry under the last header.
    | cs =>
      match nextLine? cs with
      | some rest => readLines? limit path entries rest
      | none => do
        let ((key, v), rest) ← readPair? (some ∘ skipBlanks) (readValue? maxDepth) cs
        readLines? limit path (← entries.insertUnder path key v) (← nextLine? rest)

/-- The table that a text describes. A byte order mark at its front does not count. -/
def readDocument? (text : List Char) : Option Entries :=
  let text := if text.head? = some '\ufeff' then text.tail else text
  readLines? (text.length + 1) [] [] text

end Anchormark.Toml
