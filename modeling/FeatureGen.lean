import FeatureGen.Main
import FeatureGen.Proofs.Config.Stored
import FeatureGen.Proofs.Generation.Batch
import FeatureGen.Proofs.Schema.Compile
import FeatureGen.Proofs.Schema.Isolation
import FeatureGen.Proofs.Feature.Naming
import FeatureGen.Proofs.Schema.Account
import FeatureGen.Proofs.Feature.Reading
import FeatureGen.Proofs.Feature.Members
import FeatureGen.Proofs.Feature.Connections
import FeatureGen.Proofs.Generation.Imports
import FeatureGen.Proofs.Feature.Origin
import FeatureGen.Proofs.Feature.Scope
import FeatureGen.Proofs.Schema.Comment
import FeatureGen.Proofs.Schema.Listing
import FeatureGen.Proofs.Schema.Settled
import FeatureGen.Proofs.Schema.Annotation
import FeatureGen.Proofs.Analysis.Features
import FeatureGen.Proofs.Schema.Decoding
import FeatureGen.Proofs.Schema.Relation
import FeatureGen.Proofs.Schema.Header
import FeatureGen.Proofs.Schema.Fault
import FeatureGen.Proofs.Schema.Content
import FeatureGen.Proofs.Schema.Agreement
import FeatureGen.Proofs.Schema.Balance
import FeatureGen.Proofs.Feature.Spelling
import FeatureGen.Proofs.Feature.Input
import FeatureGen.Proofs.Analysis.Size
import FeatureGen.Proofs.Schema.TrailingComment
