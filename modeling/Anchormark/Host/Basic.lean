/-!
# Hosts

What a program run needs from the world around it: variables, files, an input and an output. A host
offers these as actions of some monad. Code that is written for any host can be run by the operating
system and can be studied on a model of it.

## Main definitions

* `ReadFailure`: why a file has no content.
* `Host`: the actions.
-/

namespace Anchormark

/-- Why a file has no content. -/
inductive ReadFailure
  /-- Nothing has that path. -/
  | missing
  /-- Something has that path, but it is no file that can be read. -/
  | unreadable
  deriving DecidableEq, Repr

/-- The world around a program. -/
structure Host (m : Type → Type) where
  /-- The values of these variables, for those that are set. -/
  environment : List String → m (String → Option String)
  /-- The content of a file. -/
  readFile : String → m (Except ReadFailure ByteArray)
  /-- All of the input. -/
  readInput : m ByteArray
  /-- Gives a file this content, if that is possible. The flag asks for missing folders on the way to
      be made. -/
  writeFile : Bool → String → String → m Bool
  /-- Adds to the output. -/
  print : String → m Unit

end Anchormark
