import Anchormark.Node.Basic
import Anchormark.Text.Quoted

/-!
# Outlines

An outline shows the shape of a tree: one line per node, two spaces deeper for each level, with
the data of the node, its identifier and its span behind the name of its type. Strings are
quoted, so that a line break inside a value never breaks the line of its node.

## Main definitions

* `Node.outline`: the outline of a tree.
-/

namespace Anchormark

namespace Kind

/-- What a line of the outline shows of a kind, behind the name of the type. -/
def outlineData : Kind → String
  | heading depth => " depth=" ++ toString depth
  | list ordered _ spread => " ordered=" ++ toString ordered ++ " spread=" ++ toString spread
  | listItem _ (some checked) => " checked=" ++ toString checked
  | text value | inlineCode value | html value | code _ value => " " ++ Text.quoted value
  | link url title | image url title _ =>
    " url=" ++ Text.quoted url ++ (title.map fun t => " title=" ++ Text.quoted t).getD ""
  | anchor a => " " ++ Text.quoted a.id
  | _ => ""

end Kind

namespace Node

/-- The line of a node at the given depth. -/
def outlineLine (depth : Nat) (n : Node) : String :=
  String.ofList (List.replicate (2 * depth) ' ') ++ n.type.label ++ n.kind.outlineData ++
    (n.hint.map fun id => " \x7b#" ++ id ++ "\x7d").getD "" ++
    (n.span.map fun s => "@" ++ toString s.start ++ ".." ++ toString s.stop).getD "" ++ "\n"

mutual

/-- The outline of a tree whose root stands at the given depth. -/
def outlineAt (depth : Nat) : Node → String
  | ⟨kind, children, span, hint⟩ =>
    outlineLine depth ⟨kind, children, span, hint⟩ ++ outlinesAt (depth + 1) children

/-- The outlines of several trees at the same depth. -/
def outlinesAt (depth : Nat) : List Node → String
  | [] => ""
  | n :: rest => outlineAt depth n ++ outlinesAt depth rest

end

/-- One line per node, children indented by two spaces. -/
def outline (n : Node) : String :=
  outlineAt 0 n

end Node

end Anchormark
