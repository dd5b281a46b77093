import Anchormark.Pipeline
import Anchormark.Proofs.Anchor.Placeholders
import Anchormark.Proofs.Render.Total

/-!
# Processing

The standard plugins resolve attribute blocks and then put anchors in the place of empty links, so
what a run does to a tree can be said without plugins. Every tree can be written then: the one
renderer that is not built in is the one for anchors, and the standard plugins bring it along.

## Theorems

* `run_installStandard`: What the standard plugins do to a tree.
* `anchorIds_run`: The anchors of a run are the placeholders of the source.
* `stringify_ok`, `process_ok`: Processing does not fail.
-/

namespace Anchormark

namespace Pipeline

/-- The standard plugins bring along the renderer for anchors and no other. -/
theorem handlers_installStandard (options : PipelineOptions) :
    (installStandard { options }).handlers = anchorHandlers := rfl

/-- A run of the standard plugins resolves blocks and then places anchors. -/
theorem run_installStandard (options : PipelineOptions) (n : Node) (source : String) :
    (installStandard { options }).run n source = (n.resolve source).1.placeAnchors.1 := rfl

/-- The anchors of a run are the placeholders of the source. -/
theorem anchorIds_run (options : PipelineOptions) (source : String) :
    let p := installStandard { options }
    (p.run (p.parse source) source).anchorIds = (p.parse source).placeholders source.toList := by
  intro p
  rw [run_installStandard]
  exact Node.anchorIds_placeAnchors (isFresh_ofEvents source _) source

/-- Every tree can be written. -/
theorem stringify_ok (options : PipelineOptions) (n : Node) :
    ∃ out, (installStandard { options }).stringify n = .ok out := by
  set p := installStandard { options } with hp
  have hhandlers : p.handlers = anchorHandlers := handlers_installStandard options
  rcases Node.toMarkdown_ok p.options.render n with ⟨out, hout⟩
  exact ⟨out, by rw [stringify, hhandlers, hout]⟩

/-- Processing does not fail. -/
theorem process_ok (options : PipelineOptions) (source : String) :
    ∃ out, (installStandard { options }).process source = .ok out :=
  stringify_ok options _

end Pipeline

end Anchormark
