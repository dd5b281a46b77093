import Anchormark.Markdown.Events
import Anchormark.Plugin.Standard
import Anchormark.Render.Builtin

/-!
# Pipelines

A pipeline reads Markdown, rewrites the tree, and writes Markdown again. It owns one table of
render handlers and an ordered list of plugins.

Installing a plugin registers its renderers at once and puts it at the end of the order. A plugin
whose name is installed already is ignored. A run applies the rewritings in that order.

## Main definitions

* `PipelineOptions`, `Pipeline`: what a pipeline is made of.
* `Pipeline.new?`, `Pipeline.standard`: pipelines without and with the standard plugins.
* `Pipeline.install`: takes a plugin.
* `Pipeline.parse`, `run`, `stringify`, `process`: the stages, and all of them.
-/

namespace Anchormark

/-- The options of all stages. -/
structure PipelineOptions where
  parse : ParseOptions := {}
  render : RenderOptions := {}
  deriving DecidableEq, Repr, Inhabited

/-- Why a pipeline could not be made, or a document not be written. -/
inductive PipelineError
  | render (error : RenderError)
  deriving DecidableEq, Repr

/-- The wording of an error. -/
def PipelineError.message : PipelineError → String
  | render error => "Failed to stringify document: " ++ error.message

/-- The stages of processing a document. -/
structure Pipeline where
  options : PipelineOptions
  handlers : Handlers := .empty
  /-- The installed plugins, in order. -/
  plugins : List Plugin := []

namespace Pipeline

/-- A pipeline without plugins. The render options have to be valid. -/
def new? (options : PipelineOptions) : Except PipelineError Pipeline :=
  match options.render.validate with
  | .ok () => .ok { options }
  | .error e => .error (.render e)

/-- The names of the installed plugins, in order. -/
def pluginNames (p : Pipeline) : List String :=
  p.plugins.map Plugin.name

/-- Installs a plugin, unless its name is installed already. -/
def install (p : Pipeline) (plugin : Plugin) : Pipeline :=
  if plugin.name ∈ p.pluginNames then p
  else { p with handlers := plugin.attach p.handlers, plugins := p.plugins ++ [plugin] }

/-- Installs the standard plugins. -/
def installStandard (p : Pipeline) : Pipeline :=
  standardPlugins.foldl install p

/-- The pipeline with default options and the standard plugins. -/
def standard : Pipeline :=
  installStandard { options := {} }

/-- The tree of a Markdown text. -/
def parse (p : Pipeline) (source : String) : Node :=
  Node.ofMarkdown p.options.parse source

/-- Rewrites a tree that was read from `source` by each plugin in order. -/
def run (p : Pipeline) (n : Node) (source : String) : Node :=
  p.plugins.foldl (fun n plugin => plugin.transform n source) n

/-- Writes a tree as Markdown. -/
def stringify (p : Pipeline) (n : Node) : Except PipelineError String :=
  match n.toMarkdown p.handlers p.options.render with
  | .ok text => .ok text
  | .error e => .error (.render e)

/-- Reads a text, rewrites its tree, and writes that. -/
def process (p : Pipeline) (source : String) : Except PipelineError String :=
  p.stringify (p.run (p.parse source) source)

end Pipeline

end Anchormark
