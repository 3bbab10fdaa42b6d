import ConfigResolver.Json.Write
import ConfigResolver.Main
import ConfigResolver.Placeholder.Scanner
import ConfigResolver.Resolver.Inspect
import ConfigResolver.Ssm.ClientCache
import ConfigResolver.Ssm.Service
import ConfigResolver.Store.Memory
import ConfigResolver.Proofs.Text.Search
import ConfigResolver.Proofs.Placeholder.Grammar
import ConfigResolver.Proofs.Placeholder.Scanning
import ConfigResolver.Proofs.Placeholder.Literal
import ConfigResolver.Proofs.Placeholder.Offsets
import ConfigResolver.Proofs.Loading
import ConfigResolver.Proofs.Resolver.Relation
import ConfigResolver.Proofs.Resolver.Lookup
import ConfigResolver.Proofs.Resolver.Listing
import ConfigResolver.Proofs.Resolver.PageChain
import ConfigResolver.Proofs.Resolver.Operation
import ConfigResolver.Proofs.Resolver.Outage
import ConfigResolver.Proofs.Resolver.Substitution
import ConfigResolver.Proofs.Resolver.Literal
import ConfigResolver.Proofs.Resolver.Document
import ConfigResolver.Proofs.Resolver.Settled
import ConfigResolver.Proofs.Resolver.Default
import ConfigResolver.Proofs.Resolver.Scope
import ConfigResolver.Proofs.Resolver.Offline
import ConfigResolver.Proofs.Resolver.Reports
import ConfigResolver.Proofs.Ssm.Lookup
import ConfigResolver.Proofs.Ssm.Sharing
import ConfigResolver.Proofs.Resolver.Qualified
import ConfigResolver.Proofs.Store.Listing
import ConfigResolver.Proofs.Placeholder.Canonical
import ConfigResolver.Proofs.Resolver.Compound
import ConfigResolver.Proofs.Value.Position
import ConfigResolver.Proofs.Resolver.Failure
import ConfigResolver.Proofs.Value.Reordering
import ConfigResolver.Proofs.Resolver.Reordering
import ConfigResolver.Proofs.Resolver.Shrinking
import ConfigResolver.Proofs.Store.Paging
import ConfigResolver.Proofs.Options.RootList
import ConfigResolver.Proofs.Options.History
import ConfigResolver.Proofs.Value.WellKeyed
import ConfigResolver.Proofs.Loading.Empty
import ConfigResolver.Proofs.CommandLine.Outcome
import ConfigResolver.Proofs.Json.RoundTrip
import ConfigResolver.Proofs.Ssm.Listing
import ConfigResolver.Proofs.CommandLine.Overriding
