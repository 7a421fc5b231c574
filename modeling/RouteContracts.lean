import RouteContracts.Inbound.Head
import RouteContracts.Main
import RouteContracts.Proofs.Schema.Locality
import RouteContracts.Request.Endpoint
import RouteContracts.Request.Client
import RouteContracts.Request.Transport
import RouteContracts.Proofs.Schema.WireValues
import RouteContracts.Proofs.Schema.Outline
import RouteContracts.Proofs.Source.Meaning
import RouteContracts.Proofs.Analysis.RuntimeContract
import RouteContracts.Proofs.Descriptor.Equality
import RouteContracts.Proofs.Layout.Reading
import RouteContracts.Proofs.Source.Words
import RouteContracts.Proofs.Text.Quoted
import RouteContracts.Proofs.Artifact.Reading
import RouteContracts.Proofs.Artifact.Drafting
import RouteContracts.Proofs.Registry.Order
import RouteContracts.Proofs.Artifact.Staleness
import RouteContracts.Proofs.Path.Components
import RouteContracts.Proofs.Analysis.DistinctNames
import RouteContracts.Proofs.Project.Discovery
import RouteContracts.Proofs.Controller.Session
import RouteContracts.Proofs.Controller.Rescan
import RouteContracts.Proofs.Controller.Emission
import RouteContracts.Proofs.Schema.Parts
import RouteContracts.Proofs.Schema.Outputs
import RouteContracts.Proofs.Schema.Absence
import RouteContracts.Proofs.Schema.Stability
import RouteContracts.Proofs.Schema.Walk
import RouteContracts.Proofs.Schema.Locations
import RouteContracts.Proofs.Source.Quoting
import RouteContracts.Proofs.Source.Tokens
import RouteContracts.Proofs.Artifact.ModulePaths
import RouteContracts.Proofs.Artifact.CodeNames
import RouteContracts.Proofs.Inbound.Agreement
import RouteContracts.Proofs.Artifact.Claiming
import RouteContracts.Proofs.Artifact.Capture
import RouteContracts.Proofs.Artifact.Identifiers
import RouteContracts.Proofs.Artifact.Scoping
import RouteContracts.Proofs.Request.PathShape
import RouteContracts.Proofs.Inbound.Independence
import RouteContracts.Proofs.Controller.Scan
import RouteContracts.Proofs.Artifact.Table
import RouteContracts.Proofs.Controller.Entries
import RouteContracts.Proofs.Program.UpToDate
import RouteContracts.Proofs.Controller.Misses
import RouteContracts.Proofs.Controller.Deletions
import RouteContracts.Proofs.Descriptor.RoundTrip
import RouteContracts.Proofs.Inbound.DeclaredQuery
import RouteContracts.Proofs.Schema.Pruning
import RouteContracts.Proofs.Request.Refusals
import RouteContracts.Proofs.Inbound.QueryReading
import RouteContracts.Proofs.Inbound.Integers
import RouteContracts.Proofs.Request.Headers
import RouteContracts.Proofs.Request.WholeSegments
import RouteContracts.Proofs.Inbound.MissingUrl
import RouteContracts.Proofs.Analysis.TopLevel
import RouteContracts.Proofs.Analysis.Reordering
import RouteContracts.Proofs.Source.Objects
import RouteContracts.Proofs.Path.Spelling
import RouteContracts.Proofs.Project.Convention
import RouteContracts.Proofs.Files.Resolving
import RouteContracts.Proofs.Project.Resolved
import RouteContracts.Proofs.Registry.Changes
import RouteContracts.Proofs.Controller.Effects
import RouteContracts.Proofs.Controller.QuietPeriods
import RouteContracts.Proofs.Artifact.AllOrNothing
import RouteContracts.Proofs.Companion.RouteId
import RouteContracts.Proofs.Schema.Gaps
import RouteContracts.Proofs.Artifact.Legality
import RouteContracts.Proofs.Analysis.SchemaNames
