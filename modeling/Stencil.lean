import Stencil.Block.Run
import Stencil.Highlight.Usual
import Stencil.Pipeline.Forge
import Stencil.Settings.Usual
import Stencil.Template.Index
import Stencil.Proofs.Template.Filling
import Stencil.Proofs.Template.Normalized
import Stencil.Proofs.Template.Index
import Stencil.Proofs.Block.Classified
import Stencil.Proofs.Block.Declaration
import Stencil.Proofs.Text.Trim
import Stencil.Proofs.Block.Outline
import Stencil.Proofs.Block.Following
import Stencil.Proofs.Block.InStep
import Stencil.Proofs.Block.Outcome
import Stencil.Proofs.Block.Written
import Stencil.Proofs.Block.RoundTrip
import Stencil.Proofs.Pattern.Covers
import Stencil.Proofs.Template.Written
import Stencil.Proofs.Template.Found
import Stencil.Proofs.Template.Canonical
import Stencil.Proofs.Pipeline.Outcome
import Stencil.Proofs.Pipeline.Markup
import Stencil.Proofs.Files.Leads
import Stencil.Proofs.Files.Within
import Stencil.Proofs.Block.Joined
import Stencil.Proofs.Block.Blanks
import Stencil.Proofs.Block.Fenced
import Stencil.Proofs.Template.Filled
import Stencil.Proofs.Pipeline.Order
import Stencil.Proofs.Pipeline.Strict
import Stencil.Proofs.Files.Reported
import Stencil.Proofs.Pipeline.Answered
import Stencil.Proofs.Pipeline.Callout
import Stencil.Proofs.Highlight.Formatter
import Stencil.Proofs.Log.Levels
import Stencil.Proofs.Block.Traced
import Stencil.Proofs.Pipeline.Verbosity
import Stencil.Proofs.Pipeline.Session
import Stencil.Proofs.Pattern.Pieces
import Stencil.Proofs.Template.Holes
import Stencil.Proofs.Highlight.Placeholders
import Stencil.Proofs.Highlight.Fences
import Stencil.Proofs.Highlight.FenceRule
import Stencil.Proofs.Highlight.Keys
import Stencil.Proofs.Pattern.Search
import Stencil.Proofs.Pattern.Rows
import Stencil.Proofs.Highlight.Closing
import Stencil.Proofs.Highlight.Grammar
import Stencil.Proofs.Highlight.FenceForm
import Stencil.Proofs.Highlight.BlockGrammar
import Stencil.Proofs.Highlight.TemplateGrammar
import Stencil.Proofs.Highlight.Lossless
import Stencil.Proofs.Highlight.ClosedFences
import Stencil.Proofs.Pipeline.Announced
import Stencil.Proofs.Block.Reuse
import Stencil.Proofs.Template.Together
import Stencil.Proofs.Template.Places
import Stencil.Proofs.Template.Extended
import Stencil.Proofs.Files.Texts
import Stencil.Proofs.Pipeline.Interchange
import Stencil.Proofs.Pattern.Elsewhere
import Stencil.Proofs.Pattern.Taken
import Stencil.Proofs.Pattern.Amid
import Stencil.Proofs.Pattern.Placed
import Stencil.Proofs.Pattern.InPlace
import Stencil.Proofs.Pattern.Named
import Stencil.Proofs.Template.Combined
import Stencil.Proofs.Template.Rematched
