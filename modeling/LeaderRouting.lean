import LeaderRouting.Simulation.Loopback
import LeaderRouting.Simulation.PoolScenario
import LeaderRouting.ShutdownSignal
import LeaderRouting.Proofs.Gateway.Calls
import LeaderRouting.Proofs.Gateway.Steps
import LeaderRouting.Proofs.Tracker.Serial
import LeaderRouting.Proofs.Gateway.Discipline
import LeaderRouting.Proofs.Tracker.Atomicity
import LeaderRouting.Proofs.Tracker.Release
import LeaderRouting.Proofs.Submission.Dealings
import LeaderRouting.Proofs.Submission.Execution
import LeaderRouting.Proofs.Tracker.Chronology
import LeaderRouting.Proofs.Tracker.Coherence
import LeaderRouting.Proofs.Tracker.Deeds
import LeaderRouting.Proofs.Tracker.HighestTerm
import LeaderRouting.Proofs.Tracker.Turnover
import LeaderRouting.Proofs.Submission.Routing
import LeaderRouting.Proofs.Submission.Flight
import LeaderRouting.Proofs.Waiting.Rousing
import LeaderRouting.Proofs.Waiting.Vigil
import LeaderRouting.Proofs.Waiting.Outcome
import LeaderRouting.Proofs.Tracker.Shutdown
import LeaderRouting.Proofs.Gateway.Alike
import LeaderRouting.Proofs.Gateway.Pairing
import LeaderRouting.Proofs.Gateway.Mirroring
import LeaderRouting.Proofs.Submission.Independence
import LeaderRouting.Proofs.Submission.Records
import LeaderRouting.Proofs.Submission.Superseding
import LeaderRouting.Proofs.Submission.Cancellation
import LeaderRouting.Proofs.Submission.Landing
import LeaderRouting.Proofs.Submission.HandingOver
import LeaderRouting.Proofs.Wire.Payload
import LeaderRouting.Proofs.Wire.Merging
import LeaderRouting.Proofs.Wire.Fields
import LeaderRouting.Proofs.Wire.Entries
import LeaderRouting.Proofs.Wire.Schemas
import LeaderRouting.Proofs.Message.RoundTrip
import LeaderRouting.Proofs.Tracker.Notices
import LeaderRouting.Proofs.Tracker.Retelling
import LeaderRouting.Proofs.Tracker.Sequence
import LeaderRouting.Proofs.Tracker.Futility
import LeaderRouting.Proofs.Tracker.Omission
import LeaderRouting.Proofs.Store.Specification
import LeaderRouting.Proofs.Store.Transparency
import LeaderRouting.Proofs.Store.Tables
import LeaderRouting.Proofs.Net.Address
import LeaderRouting.Proofs.Net.Endpoint
import LeaderRouting.Proofs.Message.Announcement
import LeaderRouting.Proofs.Message.Submission
import LeaderRouting.Proofs.Tracker.Ascent
import LeaderRouting.Proofs.Tracker.Renewal
import LeaderRouting.Proofs.Tracker.Scope
import LeaderRouting.Proofs.Wire.Grammar
import LeaderRouting.Proofs.Wire.Boundaries
import LeaderRouting.Proofs.Gateway.LaterPeers
import LeaderRouting.Proofs.Connection.Closing
