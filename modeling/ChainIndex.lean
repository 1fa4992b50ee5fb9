import ChainIndex.Abort
import ChainIndex.Account
import ChainIndex.Address
import ChainIndex.Assembly
import ChainIndex.Attempt
import ChainIndex.Chain.Account
import ChainIndex.Chain.Argument
import ChainIndex.Chain.Block
import ChainIndex.Chain.Node
import ChainIndex.Chain.Snapshot
import ChainIndex.Chain.Transaction
import ChainIndex.Command
import ChainIndex.Command.Disk
import ChainIndex.Command.Help
import ChainIndex.Command.Location
import ChainIndex.Command.Log
import ChainIndex.Command.Options
import ChainIndex.Config
import ChainIndex.Decimal
import ChainIndex.Double
import ChainIndex.Double.Shortest
import ChainIndex.Effect
import ChainIndex.Error
import ChainIndex.HeightRange
import ChainIndex.Index
import ChainIndex.Index.Document
import ChainIndex.Indexed.Id
import ChainIndex.Indexed.OfChain
import ChainIndex.Indexed.Record
import ChainIndex.Indexer
import ChainIndex.Json
import ChainIndex.Json.Parser
import ChainIndex.Json.Printer
import ChainIndex.Json.Record
import ChainIndex.Main
import ChainIndex.Meaning
import ChainIndex.Pattern
import ChainIndex.Pattern.CharSet
import ChainIndex.Pattern.Parser
import ChainIndex.Pattern.Property
import ChainIndex.Proofs.Attempt
import ChainIndex.Proofs.Calls
import ChainIndex.Proofs.Frame
import ChainIndex.PublicKey
import ChainIndex.Reconcile
import ChainIndex.Recording
import ChainIndex.Replay
import ChainIndex.Script.Signature
import ChainIndex.StorageScan
import ChainIndex.Store
import ChainIndex.Table
import ChainIndex.Text.Blank
import ChainIndex.Text.CaseFold
import ChainIndex.Text.Category
import ChainIndex.Text.Ranges
import ChainIndex.Text.Runs
import ChainIndex.Text.Word
import ChainIndex.Text.WritingSystem
import ChainIndex.Tick
import ChainIndex.Time.Date
import ChainIndex.Time.Timestamp
import ChainIndex.Watch
import ChainIndex.WellKnown
import ChainIndex.World
import ChainIndex.Proofs.Node
import ChainIndex.Proofs.Climb
import ChainIndex.Proofs.Gapless
import ChainIndex.Proofs.Diff
import ChainIndex.Proofs.Edits
import ChainIndex.Proofs.KeySync
import ChainIndex.Proofs.KeyConvergence
import ChainIndex.Proofs.Watching
import ChainIndex.Proofs.Statuses
import ChainIndex.Proofs.Touch
import ChainIndex.Proofs.Reports
import ChainIndex.Proofs.Reruns
import ChainIndex.Proofs.Settling
import ChainIndex.Proofs.Schedule
import ChainIndex.Proofs.TickCalls
import ChainIndex.Proofs.Canonical
import ChainIndex.Proofs.Additions
import ChainIndex.Proofs.Records
import ChainIndex.Proofs.Effects
import ChainIndex.Proofs.Isolation
import ChainIndex.Proofs.Decimals
import ChainIndex.Proofs.Scalars
import ChainIndex.Proofs.JsonText
import ChainIndex.Proofs.Timestamps
import ChainIndex.Proofs.Forms
import ChainIndex.Proofs.Documents
import ChainIndex.Proofs.History
import ChainIndex.Proofs.Slots
import ChainIndex.Proofs.Subscriptions
import ChainIndex.Proofs.KeyAgreement
import ChainIndex.Proofs.Renewals
import ChainIndex.Proofs.Turns
import ChainIndex.Proofs.Confluence
import ChainIndex.Proofs.KeptKeys
import ChainIndex.Proofs.Bootstrapping
import ChainIndex.Proofs.Standstill
import ChainIndex.Proofs.Observation
import ChainIndex.Proofs.Belongings
import ChainIndex.Proofs.Recovery
import ChainIndex.Proofs.Repetition
import ChainIndex.Proofs.Secrets
import ChainIndex.Proofs.KeyWrites
import ChainIndex.Proofs.Wholeness
import ChainIndex.Proofs.Neighbours
import ChainIndex.Proofs.Reconciliation
import ChainIndex.Proofs.Operations
import ChainIndex.Proofs.Assembling
import ChainIndex.Proofs.Streams
import ChainIndex.Proofs.Following
import ChainIndex.Proofs.Signatures
import ChainIndex.Proofs.Annotations
import ChainIndex.Proofs.RemovedKeys
import ChainIndex.Proofs.Separators
import ChainIndex.Proofs.StorageScans
import ChainIndex.Proofs.CurrentStorage
import ChainIndex.Proofs.Matching
import ChainIndex.Proofs.Classification
import ChainIndex.Proofs.Replays
import ChainIndex.Proofs.ChainForms
import ChainIndex.Proofs.Splitting
import ChainIndex.Proofs.HeightRanges
