import Anchormark.Node.Basic
import Anchormark.Text.Quoted

/-!
# Rendering Options and Errors

The style of the Markdown that is written, and what can go wrong when it is written.

## Main definitions

* `ListIndent`: how far the content of a list item stands from its marker.
* `RenderOptions`: the markers and the indent in use.
* `RenderError`: why a tree could not be rendered.
* `RenderOptions.validate`: the first marker that Markdown does not have.
-/

namespace Anchormark

/-- How far the content of a list item is indented. -/
inductive ListIndent
  /-- To the next column that is a multiple of four. -/
  | tab
  /-- One space behind the marker. -/
  | one
  /-- One space for tight items, the tab stop for spread ones. -/
  | mixed
  deriving DecidableEq, Repr, Inhabited

/-- The style of written Markdown. -/
structure RenderOptions where
  bullet : Char := '-'
  emphasis : Char := '*'
  listIndent : ListIndent := .tab
  deriving DecidableEq, Repr, Inhabited

/-- Why a tree could not be rendered, or options not be used. -/
inductive RenderError
  /-- No renderer is registered for a type that has none built in. -/
  | missingHandler (type : NodeType)
  /-- A renderer was given a node of a type that it is not for. -/
  | unexpectedNode (expected found : NodeType)
  /-- An option names a marker that Markdown does not have. -/
  | invalidOption (name : String) (value : Char)
  deriving DecidableEq, Repr

/-- The wording of an error. -/
def RenderError.message : RenderError → String
  | missingHandler type => "No renderer registered for `" ++ type.label ++ "` nodes"
  | unexpectedNode expected found =>
    "Renderer for `" ++ expected.label ++ "` nodes was given a `" ++ found.label ++ "` node"
  | invalidOption name value => "Invalid " ++ name ++ " marker " ++ Text.quotedChar value

/-- Checks the bullet, then the emphasis marker. -/
def RenderOptions.validate (o : RenderOptions) : Except RenderError Unit :=
  if o.bullet ∉ ['-', '*', '+'] then .error (.invalidOption "bullet" o.bullet)
  else if o.emphasis ∉ ['*', '_'] then .error (.invalidOption "emphasis" o.emphasis)
  else .ok ()

end Anchormark
