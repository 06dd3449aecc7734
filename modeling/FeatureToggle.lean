import FeatureToggle.Manager
import FeatureToggle.State.Json
import FeatureToggle.Storage.Assembly
import FeatureToggle.Proofs.Actions
import FeatureToggle.Proofs.Delegates
import FeatureToggle.Proofs.Trees
import FeatureToggle.Proofs.Answers
import FeatureToggle.Proofs.Listeners
import FeatureToggle.Proofs.Footprints
import FeatureToggle.Proofs.Coherence
import FeatureToggle.Proofs.Delivery
import FeatureToggle.Proofs.Decisions
import FeatureToggle.Proofs.WriteBack
import FeatureToggle.Proofs.CacheErasure
import FeatureToggle.Proofs.Staleness
import FeatureToggle.Proofs.Scans
import FeatureToggle.Proofs.Reachability
import FeatureToggle.Proofs.Agreement
import FeatureToggle.Proofs.Attribution
import FeatureToggle.Proofs.Isolation
import FeatureToggle.Proofs.Resolution
import FeatureToggle.Proofs.AuditTrail
import FeatureToggle.Proofs.JsonText
import FeatureToggle.Proofs.Persistence
import FeatureToggle.Proofs.CacheEconomy
import FeatureToggle.Proofs.Visibility
import FeatureToggle.Proofs.Rosters
import FeatureToggle.Proofs.CallDepth
import FeatureToggle.Proofs.Notifications
import FeatureToggle.Proofs.Pieces
import FeatureToggle.Proofs.Entries
import FeatureToggle.Proofs.TokenDecisions
import FeatureToggle.Proofs.Disjunction
import FeatureToggle.Proofs.UserLists
import FeatureToggle.Proofs.Numerals
import FeatureToggle.Proofs.Rollouts
import FeatureToggle.Proofs.Matching
import FeatureToggle.Proofs.Percentages
import FeatureToggle.Proofs.Instants
import FeatureToggle.Proofs.Releases
import FeatureToggle.Proofs.AddressNotation
import FeatureToggle.Proofs.ServerAddresses
import FeatureToggle.Proofs.ProfileDecisions
import FeatureToggle.Proofs.Members
import FeatureToggle.Proofs.StateSchema
import FeatureToggle.Proofs.Declarations
import FeatureToggle.Proofs.AttributeDecoding
import FeatureToggle.Proofs.LoadedUsers
import FeatureToggle.Proofs.NearestDoubles
import FeatureToggle.Proofs.Templates
import FeatureToggle.Proofs.AttributeConversion
import FeatureToggle.Proofs.Prolongation
import FeatureToggle.Proofs.ReloadedUsers
import FeatureToggle.Proofs.ProlongedPatterns
import FeatureToggle.Proofs.AnchoredPatterns
import FeatureToggle.Proofs.Buckets
import FeatureToggle.Proofs.StableRosters
import FeatureToggle.Proofs.Catalogues
import FeatureToggle.Proofs.Registries
