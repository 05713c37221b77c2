import Cthuwu.Lib.Fallible
import Cthuwu.Lib.Outcome
import Cthuwu.Lib.Maps
import Cthuwu.Lib.Window
import Cthuwu.Lib.Replay
import Cthuwu.Lib.Runs
import Cthuwu.Lib.HashChain
import Cthuwu.Branding.Evm
import Cthuwu.Branding.Contract
import Cthuwu.Branding.Effects
import Cthuwu.Branding.World
import Cthuwu.Branding.Invariant
import Cthuwu.Branding.Ownership
import Cthuwu.Branding.Settlement
import Cthuwu.Council.Text
import Cthuwu.Propagation.Types
import Cthuwu.Propagation.Engine
import Cthuwu.Propagation.Reload
import Cthuwu.Propagation.Checks
import Cthuwu.Propagation.Effects
import Cthuwu.Propagation.World
import Cthuwu.Propagation.Loadable
import Cthuwu.Propagation.Extension
import Cthuwu.Propagation.Invariant
import Cthuwu.Propagation.Credits
import Cthuwu.Propagation.Forest
import Cthuwu.Propagation.Awards
import Cthuwu.Propagation.Reloadable
import Cthuwu.Governance.Types
import Cthuwu.Governance.Engine
import Cthuwu.Governance.Checks
import Cthuwu.Governance.Effects
import Cthuwu.Governance.World
import Cthuwu.Governance.Reloadable
import Cthuwu.Governance.Lineage
import Cthuwu.Governance.Electorate
import Cthuwu.Governance.Heads
import Cthuwu.Routing.Types
import Cthuwu.Routing.Engine
import Cthuwu.Leases.Manager
import Cthuwu.Leases.Moves
import Cthuwu.Leases.World
import Cthuwu.Leases.Fencing
import Cthuwu.Leases.Reloadable
import Cthuwu.Lib.Moves
import Cthuwu.Lib.Selection
import Cthuwu.Lib.Batch
import Cthuwu.Hermes.Text
import Cthuwu.Hermes.Knowledge
import Cthuwu.Hermes.Node
import Cthuwu.Hermes.Moves
import Cthuwu.Hermes.Effects
import Cthuwu.Hermes.Json
import Cthuwu.Hermes.World
import Cthuwu.Hermes.Records
import Cthuwu.Hermes.Convergence
import Cthuwu.Hermes.Exchange
import Cthuwu.Hermes.Atomicity
import Cthuwu.Hermes.Reloadable
import Cthuwu.Hermes.Relay
import Cthuwu.Protocol.Tentacle
import Cthuwu.Protocol.Messages
import Cthuwu.Protocol.Envelope
import Cthuwu.Liveness.Tracker
import Cthuwu.Lib.Storage
import Cthuwu.Protocol.ReplayGuard
import Cthuwu.Transport.Delivery
import Cthuwu.Registry.Local
import Cthuwu.Registry.Integrity
import Cthuwu.Evolution.Actions
import Cthuwu.Evolution.Lifecycle
import Cthuwu.Evolution.Operations
import Cthuwu.Evolution.Moves
import Cthuwu.Evolution.Linked
import Cthuwu.Evolution.Effects
import Cthuwu.Evolution.Storable
import Cthuwu.Evolution.Rescue
import Cthuwu.Evolution.Atomicity
import Cthuwu.Lib.Utf8
import Cthuwu.Lib.Update
import Cthuwu.TokenEye.Address
import Cthuwu.Growth.Snapshot
import Cthuwu.Growth.Writes
import Cthuwu.Growth.Runtime
import Cthuwu.Growth.Valid
import Cthuwu.Growth.Records
import Cthuwu.Growth.Deliveries
import Cthuwu.Growth.World
import Cthuwu.Growth.Moves
import Cthuwu.Growth.Lifecycle
import Cthuwu.Growth.Atomicity
import Cthuwu.Growth.Identity
import Cthuwu.Growth.Payout
import Cthuwu.Offers.Snapshot
import Cthuwu.Offers.Gateway
import Cthuwu.Offers.Runtime
import Cthuwu.Offers.Valid
import Cthuwu.Offers.Changes
import Cthuwu.Offers.Queue
import Cthuwu.Offers.Maintenance
import Cthuwu.Offers.Durable
import Cthuwu.Offers.Consent
import Cthuwu.Awakening.Action
import Cthuwu.Awakening.Log
import Cthuwu.Awakening.Ritual
import Cthuwu.Awakening.Agreement
import Cthuwu.Awakening.Recovery
import Cthuwu.Lib.Lines
import Cthuwu.Lib.Decimal
import Cthuwu.ChatControl.Gate
import Cthuwu.ChatControl.Windows
import Cthuwu.ChatControl.World
import Cthuwu.ChatControl.Limits
import Cthuwu.ChatControl.Admission
import Cthuwu.ChatControl.Service
import Cthuwu.ChatControl.Membership
import Cthuwu.ChatControl.Sweep
import Cthuwu.Operators.Store
import Cthuwu.Operators.Records
import Cthuwu.Operators.Requests
import Cthuwu.Operators.World
import Cthuwu.Operators.Authority
import Cthuwu.Lib.Json
import Cthuwu.Discovery.Incremental
import Cthuwu.Discovery.Agreement
import Cthuwu.Profile.Agreement
import Cthuwu.Tasks.Updates
import Cthuwu.Tasks.Reopening
import Cthuwu.Mind.Forgetting
import Cthuwu.Offers.Bytes
import Cthuwu.Routing.Order
import Cthuwu.Ballots.Tally
import Cthuwu.Lib.Turns
import Cthuwu.Offers.Fair
import Cthuwu.Evolution.Reloadable
import Cthuwu.Minting.Completion
import Cthuwu.Lib.Apportion
import Cthuwu.Scales.Economics
import Cthuwu.Scales.Metrics
import Cthuwu.Scales.Counters
import Cthuwu.Scales.Judgment
import Cthuwu.Scales.Integrity
import Cthuwu.Scales.History
import Cthuwu.Scales.Survival
import Cthuwu.Scales.Monotone
import Cthuwu.Inference.Router
import Cthuwu.Inference.Commands
import Cthuwu.Inference.Effects
import Cthuwu.Inference.Provisioning
import Cthuwu.Inference.Without
import Cthuwu.Inference.Harmless
import Cthuwu.TokenEye.Codecs
import Cthuwu.Registry.AgentIds
import Cthuwu.Offers.Decimals
import Cthuwu.Evolution.Amounts
import Cthuwu.Growth.Amounts
import Cthuwu.Governance.Votes
import Cthuwu.Sidecar.Frames
import Cthuwu.Awakening.Inheritance
import Cthuwu.Routing.Choice
import Cthuwu.Branding.Returndata
import Cthuwu.Awakening.Tampering
import Cthuwu.Governance.Tampering
import Cthuwu.Leases.Rendezvous
import Cthuwu.Scales.Staging
