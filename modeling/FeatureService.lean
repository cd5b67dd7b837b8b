import FeatureService.Catalog.Document
import FeatureService.Command.Run
import FeatureService.Log.Filter
import FeatureService.Main
import FeatureService.Operation.Document
import FeatureService.Proofs.Negotiation.NamedFormat
import FeatureService.Service.Document
import FeatureService.Service.Error
import FeatureService.Proofs.Registry.Advertising
import FeatureService.Proofs.Catalog.Contract
import FeatureService.Proofs.Directory.Positions
import FeatureService.Proofs.Encoder.Derivation
import FeatureService.Proofs.List.FirstFailure
import FeatureService.Proofs.Registry.Registration
import FeatureService.Proofs.Registry.Publication
import FeatureService.Proofs.Registry.Reports
import FeatureService.Proofs.Service.Startup
import FeatureService.Proofs.Negotiation.Choice
import FeatureService.Proofs.Registry.Reordering
import FeatureService.Proofs.Service.Extension
import FeatureService.Proofs.Encoder.Grammar
import FeatureService.Proofs.Registry.Names
import FeatureService.Proofs.Command.Capabilities
import FeatureService.Proofs.Negotiation.Dependence
import FeatureService.Proofs.Negotiation.LetterCase
import FeatureService.Proofs.Service.Relevance
import FeatureService.Proofs.Catalog.History
import FeatureService.Proofs.Encoder.Candidates
import FeatureService.Proofs.Directory.Questions
import FeatureService.Proofs.Json.Quotation
import FeatureService.Proofs.Json.Value
import FeatureService.Proofs.Json.Layout
import FeatureService.Proofs.Document.Exchange
import FeatureService.Proofs.Service.Omission
import FeatureService.Proofs.Catalog.Loading
import FeatureService.Proofs.Negotiation.Outcome
import FeatureService.Proofs.Registry.Listings
import FeatureService.Proofs.Command.Parameters
import FeatureService.Proofs.Negotiation.FeatureTypes
import FeatureService.Proofs.Json.Compact
import FeatureService.Proofs.Negotiation.FormatText
import FeatureService.Proofs.Encoder.NamePattern
import FeatureService.Proofs.Encoder.NameProduction
import FeatureService.Proofs.Text.Trimming
import FeatureService.Proofs.Encoder.LastSegment
import FeatureService.Proofs.Operation.ResultTypes
import FeatureService.Proofs.Text.SmallLetters
import FeatureService.Proofs.Encoder.Labels
import FeatureService.Proofs.Resource.Merging
