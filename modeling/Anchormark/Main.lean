import Anchormark.Command.Run

/-!
# The Program

The command, run by the operating system. The outcome becomes the exit code, and what there is to
say about it goes to the error stream.
-/

namespace Anchormark

/-- Why the operating system gave no content. A path through something that is no folder, which is
    code 20, leads nowhere. -/
def ReadFailure.ofError : IO.Error → ReadFailure
  | .noFileOrDirectory .. => .missing
  | .inappropriateType _ code _ => if code = 20 then .missing else .unreadable
  | _ => .unreadable

/-- The part of a path before its last slash. -/
def parentPath? (path : String) : Option String :=
  match path.toList.reverse.dropWhile (· ≠ '/') with
  | [] => none
  | _ :: parent => some (String.ofList parent.reverse)

/-- The operating system. -/
def systemHost : Host IO where
  environment names := do
    let values ← names.mapM fun name => return (name, ← IO.getEnv name)
    return fun name => (values.lookup name).join
  readFile path := do
    match ← (IO.FS.readBinFile path).toBaseIO with
    | .ok content => return .ok content
    | .error e => return .error (ReadFailure.ofError e)
  readInput := do (← IO.getStdin).readBinToEnd
  writeFile making path text := do
    let write : IO Unit := do
      if making then
        if let some parent := parentPath? path then IO.FS.createDirAll parent
      IO.FS.writeFile path text
    match ← write.toBaseIO with
    | .ok () => return true
    | .error _ => return false
  print text := do
    let out ← IO.getStdout
    out.putStr text
    out.flush

/-- What there is to say about an outcome. -/
def Outcome.report? : Outcome → Option String
  | success => none
  | differs path => some (path.getD "stdin" ++ " would be rewritten")
  | failure e => some ("Error: " ++ e.message)
  | usage e => some ("error: " ++ e.message)

end Anchormark

/-- Runs the command. -/
def main (arguments : List String) : IO UInt32 := do
  let outcome ← Anchormark.runCommand Anchormark.systemHost arguments
  if let some text := outcome.report? then (← IO.getStderr).putStrLn text
  return UInt32.ofNat outcome.code
