/-!
# Command Line Arguments

The words behind the name of the command are read from left to right. A word that begins with a dash
holds options, except a lone dash, which is a file name; after the word `--` all words are file names.

A long option has its value behind an equals sign or in the next word. Short options can share a
word; one that takes a value takes the rest of the word, if there is any, and otherwise the next
word. A value in a word of its own must not look like an option, and no value or file name is empty.

The first thing that is wrong ends the reading. So does an option that asks for information: what
stands behind it is not looked at.

## Main definitions

* `Invocation`: what the command is asked to do.
* `Request`: an invocation, or a request for information.
* `UsageError`: why the arguments make no sense.
* `Request.ofArguments`: reads the arguments.
-/

namespace Anchormark

/-- What the command is asked to do. -/
structure Invocation where
  /-- The file to read; none stands for the input. -/
  input : Option String := none
  /-- The file to write; none stands for the output. -/
  output : Option String := none
  /-- The file with the settings. -/
  settings : Option String := none
  /-- Only see whether the text would change. -/
  check : Bool := false
  /-- Show the tree instead of the text. -/
  tree : Bool := false
  /-- Say more about what happens. -/
  verbose : Bool := false
  deriving DecidableEq, Repr, Inhabited

/-- What the arguments ask for. -/
inductive Request
  | run (invocation : Invocation)
  | help
  | version
  deriving DecidableEq, Repr

/-- Why the arguments make no sense. -/
inductive UsageError
  | unknownOption (word : String)
  | unexpectedWord (word : String)
  | unexpectedValue (option : String)
  | missingValue (option : String)
  | emptyValue (name : String)
  | repeated (option : String)
  | conflict (one other : String)
  deriving DecidableEq, Repr

/-- The wording of an error. -/
def UsageError.message : UsageError → String
  | unknownOption word => "Unknown option " ++ word
  | unexpectedWord word => "Unexpected argument " ++ word
  | unexpectedValue option => "The option " ++ option ++ " takes no value"
  | missingValue option => "The option " ++ option ++ " needs a value"
  | emptyValue name => "The value of " ++ name ++ " is empty"
  | repeated option => "The option " ++ option ++ " is given twice"
  | conflict one other => "The options " ++ one ++ " and " ++ other ++ " exclude each other"

/-- An option with a value. -/
inductive ValueOption
  | output
  | settings
  deriving DecidableEq, Repr

/-- An option without a value. -/
inductive Flag
  | check
  | tree
  | verbose
  deriving DecidableEq, Repr

/-- The long form of an option. -/
def ValueOption.name : ValueOption → String
  | output => "--output"
  | settings => "--config"

/-- The long form of an option. -/
def Flag.name : Flag → String
  | check => "--check"
  | tree => "--tree"
  | verbose => "--verbose"

/-- How the reading of a word with options ends. -/
inductive WordEnd
  /-- With everything said. -/
  | complete (invocation : Invocation)
  /-- With an option whose value is the next word. -/
  | open (option : ValueOption) (invocation : Invocation)
  /-- With a request for information. -/
  | information (request : Request)

namespace Invocation

/-- Takes an option without a value. -/
def setFlag (i : Invocation) (flag : Flag) : Except UsageError Invocation :=
  match flag with
  | .check => if i.check then .error (.repeated flag.name) else .ok { i with check := true }
  | .tree => if i.tree then .error (.repeated flag.name) else .ok { i with tree := true }
  | .verbose => if i.verbose then .error (.repeated flag.name) else .ok { i with verbose := true }

/-- Takes an option with its value. -/
def setValue (i : Invocation) (option : ValueOption) (value : String) :
    Except UsageError Invocation :=
  if value.isEmpty then .error (.emptyValue option.name)
  else
    match option with
    | .output =>
      if i.output.isSome then .error (.repeated option.name) else .ok { i with output := some value }
    | .settings =>
      if i.settings.isSome then .error (.repeated option.name)
      else .ok { i with settings := some value }

/-- Takes a file name. -/
def setInput (i : Invocation) (word : String) : Except UsageError Invocation :=
  if i.input.isSome then .error (.unexpectedWord word)
  else if word.isEmpty then .error (.emptyValue "the input")
  else .ok { i with input := some word }

/-- Takes the short options of a word. -/
def shortOptions (i : Invocation) : List Char → Except UsageError WordEnd
  | [] => .ok (.complete i)
  | c :: rest =>
    -- The rest of the word is the value, behind an equals sign or not.
    let valued (option : ValueOption) : Except UsageError WordEnd :=
      match rest with
      | [] => .ok (.open option i)
      | '=' :: value => (i.setValue option (String.ofList value)).map .complete
      | value => (i.setValue option (String.ofList value)).map .complete
    match c with
    | 'o' => valued .output
    | 'c' => valued .settings
    | 'v' => (i.setFlag .verbose).bind (shortOptions · rest)
    | 'h' => .ok (.information .help)
    | 'V' => .ok (.information .version)
    | _ => .error (.unknownOption (String.ofList ['-', c]))

/-- Takes a long option, given its name and what follows an equals sign. -/
def longOption (i : Invocation) (name : String) (value : Option String) :
    Except UsageError WordEnd :=
  let bare (result : Except UsageError WordEnd) : Except UsageError WordEnd :=
    if value.isSome then .error (.unexpectedValue name) else result
  let valued (option : ValueOption) : Except UsageError WordEnd :=
    match value with
    | none => .ok (.open option i)
    | some value => (i.setValue option value).map .complete
  let flag (flag : Flag) : Except UsageError WordEnd := bare ((i.setFlag flag).map .complete)
  match name with
  | "--output" => valued .output
  | "--config" => valued .settings
  | "--check" => flag .check
  | "--tree" => flag .tree
  | "--verbose" => flag .verbose
  | "--help" => bare (.ok (.information .help))
  | "--version" => bare (.ok (.information .version))
  | _ => .error (.unknownOption name)

/-- Takes the options of a word that begins with a dash. -/
def options (i : Invocation) (word : List Char) : Except UsageError WordEnd :=
  match word with
  | '-' :: '-' :: _ =>
    -- The value of a long option may be empty, which is not the same as none.
    let name := word.takeWhile (· ≠ '=')
    let value := (word.drop name.length).tail?
    i.longOption (String.ofList name) (value.map String.ofList)
  | _ => i.shortOptions word.tail

/-- Options that were given do not exclude each other. -/
def validate (i : Invocation) : Except UsageError Invocation :=
  if i.check && i.output.isSome then .error (.conflict Flag.check.name ValueOption.output.name)
  else if i.check && i.tree then .error (.conflict Flag.check.name Flag.tree.name)
  else .ok i

/-- Takes all words for file names. -/
def inputs (i : Invocation) : List String → Except UsageError Request
  | [] => i.validate.map .run
  | word :: rest => (i.setInput word).bind (inputs · rest)

/-- A word that holds options. -/
def looksLikeOption (word : String) : Bool :=
  match word.toList with
  | '-' :: _ :: _ => true
  | _ => false

/-- Reads the words. `waiting` is an option whose value is the next one. -/
def arguments (i : Invocation) (waiting : Option ValueOption) :
    List String → Except UsageError Request
  | [] =>
    match waiting with
    | some option => .error (.missingValue option.name)
    | none => i.validate.map .run
  | word :: rest =>
    match waiting with
    | some option =>
      -- A value that looks like an option has to be written behind an equals sign.
      if looksLikeOption word then .error (.missingValue option.name)
      else (i.setValue option word).bind (arguments · none rest)
    | none =>
      if word = "--" then i.inputs rest
      else if looksLikeOption word then
        match i.options word.toList with
        | .error e => .error e
        | .ok (.complete i) => arguments i none rest
        | .ok (.open option i) => arguments i (some option) rest
        | .ok (.information request) => .ok request
      else (i.setInput word).bind (arguments · none rest)

end Invocation

/-- What the arguments ask for. -/
def Request.ofArguments (words : List String) : Except UsageError Request :=
  Invocation.arguments {} none words

end Anchormark
