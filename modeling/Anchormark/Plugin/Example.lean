import Anchormark.Node.Outline
import Anchormark.Plugin.Basic
import Anchormark.Text.LetterCase
import Anchormark.Text.Offset

/-!
# Example Handlers and Plugins

Small handlers and plugins that show what the interface allows: rendering the children of a node
and changing the result, rendering nothing and describing the node instead, using the options, and
rewriting a tree by its source.

## Main definitions

* `Example.shout`, `Example.describe`, `Example.countChildren`: handlers.
* `Example.shoutPlugin`: renders strong text in upper case.
* `Example.markPlugin`: notes the length of the source at the end of the document.
-/

namespace Anchormark.Example

/-- Renders the children back to back, in upper case. -/
def shout : Handler := fun _ _ parts => do
  let content ← Rendering.inline parts
  return Text.upper content

/-- Gives the outline of the node. -/
def describe : Handler := fun _ n _ =>
  return n.outline

/-- Gives the type of the node and the number of its children, with the bullet in use. An error
    among the children is an error here. -/
def countChildren : Handler := fun o n parts => do
  let outputs ← Rendering.outputs parts
  return "<" ++ n.type.label ++ ":" ++ toString outputs.length ++ String.ofList [o.bullet] ++ ">"

/-- Renders strong text in upper case. -/
def shoutPlugin : Plugin where
  name := "shout"
  attach h := h.register .strong shout
  transform n _ := n

/-- Appends a paragraph with the length of the source in bytes. -/
def markPlugin : Plugin where
  name := "mark"
  transform n source :=
    let note := Node.paragraph [Node.text ("len " ++ toString (Text.size source))]
    { n with children := n.children ++ [note] }

end Anchormark.Example
