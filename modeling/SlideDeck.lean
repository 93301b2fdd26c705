import SlideDeck.Theme.Brand
import SlideDeck.Catalogue.Directory
import SlideDeck.Assembly.Assemble
import SlideDeck.Content.Proposal
import SlideDeck.Library.Core
import SlideDeck.Render.Page
import SlideDeck.Version
import SlideDeck.Schema.Validation
import SlideDeck.Json.Parser
import SlideDeck.Digest.RenderKey
import SlideDeck.Text.Blank
import SlideDeck.Text.Digit
import SlideDeck.Text.Word
import SlideDeck.Pdf.File
import SlideDeck.Document.Composing
import SlideDeck.Build.Generate
import SlideDeck.CommandLine.Run
import SlideDeck.Artifact.Depot
import SlideDeck.Files.Tree
import SlideDeck.Main
import SlideDeck.Proofs.Render.Limits
import SlideDeck.Proofs.Render.BuiltValues
import SlideDeck.Proofs.Render.DataAccess
import SlideDeck.Proofs.Render.Scopes.Reachable
import SlideDeck.Proofs.Assembly.Conformance
import SlideDeck.Proofs.Assembly.Unordered
import SlideDeck.Proofs.Assembly.Mention
import SlideDeck.Proofs.Assembly.Adoption
import SlideDeck.Proofs.Assembly.Settling
import SlideDeck.Proofs.Assembly.Restoring
import SlideDeck.Proofs.Assembly.Reconciliation
import SlideDeck.Proofs.Assembly.Fallback
import SlideDeck.Proofs.Assembly.Fixpoint
import SlideDeck.Proofs.Catalogue.NaturalKeys
import SlideDeck.Proofs.Document.Composition
import SlideDeck.Proofs.Document.Logo
import SlideDeck.Proofs.Document.Outcome
import SlideDeck.Proofs.Document.Isolation
import SlideDeck.Proofs.Assembly.Candidates
import SlideDeck.Proofs.Assembly.RuleDeck
import SlideDeck.Proofs.Assembly.Repetition
import SlideDeck.Proofs.Numeric.Binary64
import SlideDeck.Proofs.Digest.RenderKeys
import SlideDeck.Proofs.Schema.Matching
import SlideDeck.Proofs.Assembly.Preconditions
import SlideDeck.Proofs.Render.Drawable
import SlideDeck.Proofs.Render.Recording.Limits
import SlideDeck.Proofs.Build.Delivery
import SlideDeck.Proofs.Build.Cancellation
import SlideDeck.Proofs.Build.Degradation
import SlideDeck.Proofs.Blueprint.Storage
import SlideDeck.Proofs.Digest.PageKeys
import SlideDeck.Proofs.Render.Safety.Library
import SlideDeck.Proofs.Blueprint.Moving
import SlideDeck.Proofs.Document.Appending
import SlideDeck.Proofs.Assembly.Selection
import SlideDeck.Proofs.Assembly.Repair
import SlideDeck.Proofs.Binding.Provenance
import SlideDeck.Proofs.Binding.Labels
import SlideDeck.Proofs.Assembly.Retirement
import SlideDeck.Proofs.Assembly.Locating
import SlideDeck.Proofs.Pdf.Wrapping
import SlideDeck.Proofs.Pdf.Pages
import SlideDeck.Proofs.Content.Replies
import SlideDeck.Proofs.Content.Outlines
import SlideDeck.Proofs.Pdf.Paths
import SlideDeck.Proofs.Content.Trends
import SlideDeck.Proofs.Binding.Charts
import SlideDeck.Proofs.Artifact.Keeping
import SlideDeck.Proofs.Assembly.TextSlides
