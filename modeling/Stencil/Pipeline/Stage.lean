import Stencil.Block.Parser
import Stencil.Pipeline.Failure
import Stencil.Renderer
import Stencil.Settings.Basic
import Stencil.Template.Basic

/-!
# Stages

From a codeblock to a filled template, one stage after the other.

A job holds what it starts from and what the stages have found so far. Each
stage reads what it needs and adds one thing: the properties of the source, the
path of the template, its text, its tokens, the rendered values, and the
output. The stages are meant to run in this order, but each can run on any job
and then works with what is there.

## Main definitions

* `Job`: What a job starts from and what was found.
* `Stage`: The stages, in order.
* `Stage.run`: What a stage makes of a job.
* `Job.runAll`: What several stages make of a job.
-/

namespace Stencil

/-- What a job starts from and what was found. -/
structure Job where
  source : String
  loader : Files.Loader
  /-- Applied to values; without one they stay as they are. -/
  renderer : Option Renderer := none
  settings : Settings := {}
  /-- How many messages are shown, and whether changes of phase are among them. -/
  verbosity : Int := 1
  /-- Whether a template that uses a name in two ways is refused. -/
  strict : Bool := false
  properties : List Block.Property := []
  templateName : String := ""
  templatePath : String := ""
  templateSource : String := ""
  tokens : List Template.Token := []
  rendered : List Block.Property := []
  output : Option String := none

/-- The stages, in order. -/
inductive Stage where
  | parseBlock | findTemplate | loadTemplate | readTemplate | renderValues | fillTemplate
deriving DecidableEq, Repr

namespace Job

/-- The job for a source before its first stage. -/
def start (source : String) (loader : Files.Loader) (renderer : Option Renderer)
    (settings : Settings) : Job :=
  { source, loader, renderer, settings, verbosity := settings.verbosity,
    strict := settings.strict }

/-- Find the properties of the source. -/
def parseBlock (job : Job) : Trace Failure Job := do
  Logged.say 1 "Parsing codeblock..."
  let properties ← (Block.parse job.source (3 ≤ job.verbosity)).mapError .block
  Logged.say 2 ("Keys: " ++ ", ".intercalate (properties.map Block.Property.key))
  return { job with properties }

/-- Find the path of the template that the first property of the template key
    names. -/
def findTemplate (job : Job) : Trace Failure Job := do
  let key := job.settings.templateKey
  let property? := job.properties.find? (·.key = key)
  let name := property?.elim "" fun p => Text.strip p.value
  if name.isEmpty then throw (.unnamed key)
  let path := job.settings.templatePath name
  Logged.say 2 ("Template: " ++ path)
  return { job with templateName := name, templatePath := path }

/-- Load the text of the template. -/
def loadTemplate (job : Job) : Trace Failure Job := do
  Logged.say 1 "Loading template..."
  let text ← (job.loader.load job.templatePath).mapError .load
  Logged.say 2 ("Read " ++ toString text.length ++ " characters from " ++ job.templatePath)
  return { job with templateSource := text }

/-- Find the tokens of the template; in a strict job, refuse a template that uses
    a name in two ways. -/
def readTemplate (job : Job) : Trace Failure Job := do
  Logged.say 1 "Tokenizing template..."
  let template ← (Template.ofText .standard job.templateSource).mapError .template
  if job.strict then
    let placeholders ← (Trace.ofExcept template.placeholders).mapError .template
    Logged.say 2 ("Placeholders: " ++
      ", ".intercalate (placeholders.map Template.Placeholder.source))
  return { job with tokens := template.tokens }

/-- Render the values of the properties. -/
def renderValues (job : Job) : Trace Failure Job := do
  match job.renderer with
  | none => return { job with rendered := job.properties }
  | some renderer =>
    Logged.say 1 "Rendering property values..."
    return { job with rendered := renderer.properties job.properties }

/-- Fill the template with the rendered values. -/
def fillTemplate (job : Job) : Trace Failure Job := do
  Logged.say 1 "Compiling template..."
  let output ← (Template.fill job.tokens (.ofProperties job.rendered)).mapError .template
  Logged.say 2 ("Compiled " ++ toString output.length ++ " characters")
  return { job with output := some output }

end Job

namespace Stage

/-- All stages, in order. -/
def all : List Stage :=
  [parseBlock, findTemplate, loadTemplate, readTemplate, renderValues, fillTemplate]

/-- What a stage makes of a job. -/
def run : Stage → Job → Trace Failure Job
  | parseBlock => Job.parseBlock
  | findTemplate => Job.findTemplate
  | loadTemplate => Job.loadTemplate
  | readTemplate => Job.readTemplate
  | renderValues => Job.renderValues
  | fillTemplate => Job.fillTemplate

end Stage

/-- What stages, one after the other, make of a job. -/
def Job.runAll (stages : List Stage) (job : Job) : Trace Failure Job :=
  stages.foldlM (fun job stage => stage.run job) job

end Stencil
