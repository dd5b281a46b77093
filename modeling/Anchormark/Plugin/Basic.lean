import Anchormark.Render.Handler

/-!
# Plugins

A plugin rewrites the tree of a document before it is rendered, and may bring along renderers for
the nodes it puts there. Its name identifies it: a pipeline takes each name once.

## Main definitions

* `Plugin`: a name, the renderers to register, and the rewriting.
-/

namespace Anchormark

/-- A rewriting of trees, with the renderers that its results need. -/
structure Plugin where
  name : String
  /-- Registers renderers. -/
  attach : Handlers → Handlers := id
  /-- Rewrites a tree that was read from the given source. -/
  transform : Node → String → Node

end Anchormark
