/-!
# Syntax Extensions

Three extensions of Markdown can be switched on and off. Everything else is always read the same
way.

## Main definitions

* `ParseOptions`: which extensions are on.
-/

namespace Anchormark

/-- The extensions of Markdown that are read. All are on unless switched off. -/
structure ParseOptions where
  tables : Bool := true
  strikethrough : Bool := true
  tasklists : Bool := true
  deriving DecidableEq, Repr, Inhabited

end Anchormark
