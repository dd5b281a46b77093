import Anchormark.Text.Alphanumeric
import Anchormark.Settings.Basic

/-!
# Where Settings Are Kept

A path may mention variables, as `$NAME`, `${NAME}` or `${NAME:-value}`, where the value stands in
for a variable that is not set, and it may begin with a tilde for the home folder. A dollar sign is
written twice, but one that begins no variable also stands for itself.

Variables come first. A tilde that only comes out of a variable means nothing; one that stood in the
path does, also if what follows it came out of a variable.

The variables of a path are known before any of them is looked up.

## Main definitions

* `PathPart`, `pathParts`: the text and the variables of a path.
* `pathVariables`: the names of the variables that a path depends on.
* `expandPath?`: a path with everything filled in.
* `Settings.defaultPath`: where settings are kept unless the user says otherwise.
-/

namespace Anchormark

/-- A part of a path. -/
inductive PathPart
  | text (value : Char)
  /-- A variable, and what stands in for it if it is not set. -/
  | reference (name : String) (fallback : Option String)
  deriving DecidableEq, Repr

/-- A character that may stand in the name of a variable without braces. -/
def isNameChar (c : Char) : Bool :=
  Text.isAlphanumeric c || c = '_'

/-- The characters before the first `:-` and those behind it. -/
def splitFallback : List Char → List Char × Option (List Char)
  | [] => ([], none)
  | ':' :: '-' :: rest => ([], some rest)
  | c :: rest =>
    let (name, fallback) := splitFallback rest
    (c :: name, fallback)

/-- The variable that is written between braces. Without a name, there is no fallback either. -/
def PathPart.ofBraces (inner : List Char) : PathPart :=
  match splitFallback inner with
  | ([], _) => .reference (String.ofList inner) none
  | (name, fallback) => .reference (String.ofList name) (fallback.map String.ofList)

/-- The part that a dollar sign begins, and its length behind the dollar sign. -/
def dollarPart (rest : List Char) : List PathPart × Nat :=
  match rest with
  | '$' :: _ => ([.text '$'], 1)
  | '{' :: rest =>
    let inner := rest.takeWhile (· ≠ '}')
    if inner.length < rest.length then ([.ofBraces inner], inner.length + 2)
    else ([.text '$', .text '{'], 1)
  | _ =>
    let name := rest.takeWhile isNameChar
    if name.isEmpty then ([.text '$'], 0)
    else ([.reference (String.ofList name) none], name.length)

/-- The parts of a path. `skip` characters belong to a part that has been read. -/
def pathParts : (skip : Nat) → List Char → List PathPart
  | _, [] => []
  | skip + 1, _ :: rest => pathParts skip rest
  | 0, c :: rest =>
    if c = '$' then
      let (parts, length) := dollarPart rest
      parts ++ pathParts length rest
    else .text c :: pathParts 0 rest

/-- The variable that holds the home folder. -/
def homeVariable : String := "HOME"

/-- The variables that a path depends on. -/
def pathVariables (path : String) : List String :=
  homeVariable :: (pathParts 0 path.toList).filterMap fun
    | .text _ => none
    | .reference name _ => some name

/-- The home folder, if there is one. -/
def homeFolder? (environment : String → Option String) : Option String :=
  (environment homeVariable).filter (!·.isEmpty)

/-- The text of a part. A variable without value or fallback has none. -/
def PathPart.fill? (environment : String → Option String) : PathPart → Option (List Char)
  | text c => some [c]
  | reference name fallback => ((environment name).or fallback).map String.toList

/-- The path with its leading tilde replaced by the home folder. -/
def expandTilde (home? : Option String) (path : List Char) : List Char :=
  match path, home? with
  | ['~'], some home => home.toList
  | '~' :: '/' :: rest, some home => home.toList ++ '/' :: rest
  | _, _ => path

/-- The path with everything filled in; `none` if a variable without fallback is not set. -/
def expandPath? (environment : String → Option String) (path : String) : Option String := do
  let filled ← (pathParts 0 path.toList).mapM (PathPart.fill? environment)
  let filled := filled.flatten
  let tilde := path.toList.head? = some '~' || !path.toList.contains '$'
  return String.ofList (if tilde then expandTilde (homeFolder? environment) filled else filled)

/-- Where settings are kept unless the user says otherwise. -/
def Settings.defaultPath (environment : String → Option String) : String :=
  String.ofList
    (expandTilde (homeFolder? environment) "~/.config/markdown-anchor/config.toml".toList)

end Anchormark
