import Anchormark.Pipeline

/-!
# Settings

Settings are what a user writes down once instead of saying it in every call: the options of the
pipeline, in two sections. A setting that is not written down has its default.

## Main definitions

* `Settings`: both sections.
* `Settings.pipelineOptions`, `Settings.ofPipelineOptions`: the options that they stand for, and
  back.
-/

namespace Anchormark

/-- What is read, and how it is written. -/
structure Settings where
  parse : ParseOptions := {}
  render : RenderOptions := {}
  deriving DecidableEq, Repr, Inhabited

namespace Settings

/-- The options of a pipeline with these settings. -/
def pipelineOptions (s : Settings) : PipelineOptions :=
  { parse := s.parse, render := s.render }

/-- The settings of a pipeline with these options. -/
def ofPipelineOptions (o : PipelineOptions) : Settings :=
  { parse := o.parse, render := o.render }

end Settings

end Anchormark
