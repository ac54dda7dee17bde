import EventSourcing.Derive.Expansion
import EventSourcing.Main
import EventSourcing.Proofs.Aggregate.Rehydration
import EventSourcing.Proofs.Clients.Authoring
import EventSourcing.Proofs.Clients.Expiry
import EventSourcing.Proofs.Clients.Failures
import EventSourcing.Proofs.Clients.Intervals
import EventSourcing.Proofs.Clients.OneAggregate
import EventSourcing.Proofs.Clients.Saved
import EventSourcing.Proofs.Clients.Words
import EventSourcing.Proofs.Derive.Outcomes
import EventSourcing.Proofs.Derive.Routing
import EventSourcing.Proofs.Repository.AnySnapshot
import EventSourcing.Proofs.Repository.Conflicts
import EventSourcing.Proofs.Repository.Consistency
import EventSourcing.Proofs.Repository.EarlierVersions
import EventSourcing.Proofs.Repository.Independence
import EventSourcing.Proofs.Repository.Overlap
import EventSourcing.Proofs.Repository.Untouched
import EventSourcing.Proofs.Repository.Windows
import EventSourcing.Proofs.Sample.Restored
import EventSourcing.Proofs.Snapshot.Boundaries
import EventSourcing.Proofs.Snapshot.Order
import EventSourcing.Proofs.Store.History
import EventSourcing.Proofs.Testing.Overtaken
import EventSourcing.Proofs.Testing.Scenario
import EventSourcing.Sample.Catalog
import EventSourcing.Sample.Money
import EventSourcing.Testing.Scenario
import EventSourcing.Testing.Session.Run
import EventSourcing.Text.Line
