import MultiSigner.Automation
import MultiSigner.Command.Address
import MultiSigner.Command.Basic
import MultiSigner.Command.Parser
import MultiSigner.Command.Run
import MultiSigner.CommandLine
import MultiSigner.Config
import MultiSigner.Controller
import MultiSigner.Dialogue
import MultiSigner.Digest.Block
import MultiSigner.Digest.Hmac
import MultiSigner.Digest.Sha1
import MultiSigner.Digest.Sha2
import MultiSigner.DomainName.Basic
import MultiSigner.DomainName.Parser
import MultiSigner.DomainName.Printer
import MultiSigner.Error
import MultiSigner.Evaluation
import MultiSigner.Event
import MultiSigner.Idna.Direction
import MultiSigner.Idna.Mapping
import MultiSigner.Idna.MappingTable
import MultiSigner.Idna.Processing
import MultiSigner.Idna.Punycode
import MultiSigner.Json.Decode
import MultiSigner.Json.Draft
import MultiSigner.Json.Printer
import MultiSigner.Json.Token
import MultiSigner.Json.Value
import MultiSigner.Main
import MultiSigner.Net.Endpoint
import MultiSigner.Net.Ip
import MultiSigner.Net.Socket
import MultiSigner.Operation.Basic
import MultiSigner.Operation.Hold
import MultiSigner.Operation.Observe
import MultiSigner.Operation.Push
import MultiSigner.Operation.Status
import MultiSigner.OrderedMap
import MultiSigner.Proofs.Agreement
import MultiSigner.Proofs.Commands
import MultiSigner.Proofs.Completion
import MultiSigner.Proofs.Convergence.Keys
import MultiSigner.Proofs.Convergence.Names
import MultiSigner.Proofs.Convergence.References
import MultiSigner.Proofs.Deadlines
import MultiSigner.Proofs.Deployment
import MultiSigner.Proofs.Findings
import MultiSigner.Proofs.Gates
import MultiSigner.Proofs.Integrity.Edits
import MultiSigner.Proofs.Integrity.Reachable
import MultiSigner.Proofs.Journey
import MultiSigner.Proofs.Membership
import MultiSigner.Proofs.Observation
import MultiSigner.Proofs.Planning
import MultiSigner.Proofs.Progress
import MultiSigner.Proofs.Push
import MultiSigner.Proofs.Questions
import MultiSigner.Proofs.Records
import MultiSigner.Proofs.Rehearsal
import MultiSigner.Proofs.Run
import MultiSigner.Proofs.Safety
import MultiSigner.Proofs.Saving.Failures
import MultiSigner.Proofs.Serving
import MultiSigner.Proofs.Signing
import MultiSigner.Proofs.Step
import MultiSigner.Proofs.Syncing
import MultiSigner.Proofs.Truthful
import MultiSigner.Record.Csync
import MultiSigner.Record.Data
import MultiSigner.Record.Dnskey
import MultiSigner.Record.Ds
import MultiSigner.Record.Type
import MultiSigner.Rehearsal.Network
import MultiSigner.Rehearsal.Process
import MultiSigner.Rehearsal.Script
import MultiSigner.Report
import MultiSigner.Rpc.Client
import MultiSigner.Rpc.Http
import MultiSigner.Rpc.MediaType
import MultiSigner.Rpc.Message
import MultiSigner.Rpc.Observer
import MultiSigner.Rpc.Router
import MultiSigner.Rpc.Status
import MultiSigner.Rpc.WebSocket
import MultiSigner.Scheduler
import MultiSigner.Stage
import MultiSigner.State.Basic
import MultiSigner.State.Document
import MultiSigner.State.Entries
import MultiSigner.State.File
import MultiSigner.State.Same
import MultiSigner.State.SyncFlags
import MultiSigner.Sync.DelegationRequest
import MultiSigner.Sync.Dnskeys
import MultiSigner.Sync.KeyReferences
import MultiSigner.Sync.Nameservers
import MultiSigner.Text.Base64
import MultiSigner.Text.Decimal
import MultiSigner.Text.Hex
import MultiSigner.Time.Calendar
import MultiSigner.Time.Timestamp
import MultiSigner.Transcript
import MultiSigner.Unicode.BidiClass
import MultiSigner.Unicode.Category
import MultiSigner.Unicode.Composition
import MultiSigner.Unicode.EquivalenceTables
import MultiSigner.Unicode.PackedTable
import MultiSigner.Update.Change
import MultiSigner.Update.Message
import MultiSigner.Update.Signed
import MultiSigner.UpdaterKind
import MultiSigner.View
import MultiSigner.Wire.Input
import MultiSigner.Wire.Message
import MultiSigner.Wire.Output
import MultiSigner.Wire.Signature
import MultiSigner.Proofs.Transitions
import MultiSigner.Proofs.ErrorStage
import MultiSigner.Proofs.Lockstep
import MultiSigner.Proofs.Independence
import MultiSigner.Proofs.Convergence.Interruption
import MultiSigner.Proofs.Convergence.Recovery
import MultiSigner.Proofs.Targets
import MultiSigner.Proofs.Origins
import MultiSigner.Proofs.Misconfigured
import MultiSigner.Proofs.Confinement
import MultiSigner.Proofs.Secrecy.Documents
import MultiSigner.Proofs.Secrecy.Operations
import MultiSigner.Proofs.Secrecy.Runs
import MultiSigner.Proofs.Outcomes
import MultiSigner.Proofs.Refusals
import MultiSigner.Proofs.Daemon.History
import MultiSigner.Proofs.Daemon.Tasks
import MultiSigner.Proofs.Daemon.Sights
import MultiSigner.Proofs.Daemon.Orphans
import MultiSigner.Proofs.Daemon.Observers
import MultiSigner.Proofs.Rearrangement
import MultiSigner.Proofs.Provenance
import MultiSigner.Proofs.Remote
import MultiSigner.Proofs.Waiting
import MultiSigner.Proofs.Sending
import MultiSigner.Proofs.Additions
import MultiSigner.Proofs.Convergence.Requests
import MultiSigner.Proofs.Flags
import MultiSigner.Proofs.Entries
import MultiSigner.Proofs.Messages
import MultiSigner.Proofs.Saving.Rereading
import MultiSigner.Proofs.Addresses.Internet
import MultiSigner.Proofs.Addresses.Servers
import MultiSigner.Proofs.Fingerprints
