import CloudProvider.Dispatch
import CloudProvider.Gzip.Member
import CloudProvider.Call.Sizes
import CloudProvider.ControlPlane.Inventory
import CloudProvider.Effect
import CloudProvider.Settings.Parse
import CloudProvider.Url.Parser
import CloudProvider.Url.Host
import CloudProvider.Url.Basic
import CloudProvider.Settings.Basic
import CloudProvider.Settings.Expansion
import CloudProvider.Text.LowerCase
import CloudProvider.Text.Blank
import CloudProvider.Text.EditDistance
import CloudProvider.Text.Base64
import CloudProvider.Envelope
import CloudProvider.ControlPlane.Codec
import CloudProvider.Agent.Environment
import CloudProvider.Http.Message
import CloudProvider.Http.StatusText
import CloudProvider.ControlPlane.Client
import CloudProvider.PathName
import CloudProvider.Tool.Capture
import CloudProvider.Workspace
import CloudProvider.DryRun
import CloudProvider.Text.Similarity
import CloudProvider.CommandLine
import CloudProvider.Log.Timestamp
import CloudProvider.Startup
import CloudProvider.Process
import CloudProvider.Main
import CloudProvider.Text.Hex
import CloudProvider.ControlPlane.Identifier
import CloudProvider.Proofs.Program
import CloudProvider.Proofs.SortedMap
import CloudProvider.Proofs.World
import CloudProvider.Proofs.Inventory
import CloudProvider.Proofs.Effects
import CloudProvider.Proofs.RetryFlag
import CloudProvider.Proofs.Footprint
import CloudProvider.Proofs.Coherence
import CloudProvider.Proofs.Json.Numeral
import CloudProvider.Proofs.Json.Grammar
import CloudProvider.Proofs.Json.Reader
import CloudProvider.Proofs.Json.Decode
import CloudProvider.Proofs.Environment
import CloudProvider.Proofs.Media
import CloudProvider.Proofs.Convergence
import CloudProvider.Proofs.Documents
import CloudProvider.Proofs.Records
import CloudProvider.Proofs.Agreement
import CloudProvider.Proofs.RoundTrip
import CloudProvider.Proofs.Record
import CloudProvider.Proofs.Synchronization
import CloudProvider.Proofs.Conversation
import CloudProvider.Proofs.Waiting
import CloudProvider.Proofs.LogIsolation
import CloudProvider.Proofs.Arguments
import CloudProvider.Proofs.Positions
import CloudProvider.Proofs.ResponseLine
import CloudProvider.Proofs.Creation
import CloudProvider.Proofs.Views
import CloudProvider.Proofs.Alike
import CloudProvider.Proofs.Interleaving
import CloudProvider.Proofs.Expansion
import CloudProvider.Proofs.Substitution
import CloudProvider.Proofs.Codec
import CloudProvider.Proofs.Url.Percent
import CloudProvider.Proofs.Url.Authority
import CloudProvider.Proofs.Url.Reference
import CloudProvider.Proofs.Url.Onward
import CloudProvider.Proofs.Url.Names
import CloudProvider.Proofs.Url.Slash
import CloudProvider.Proofs.Addresses
import CloudProvider.Proofs.Process
import CloudProvider.Proofs.Results
import CloudProvider.Proofs.Journal
import CloudProvider.Proofs.Detaching
import CloudProvider.Proofs.Wired
import CloudProvider.Proofs.Authentication
import CloudProvider.Proofs.Targets
import CloudProvider.Proofs.Replay
import CloudProvider.Proofs.Deletion
import CloudProvider.Proofs.Pages
import CloudProvider.Proofs.PageDocuments
import CloudProvider.Proofs.Listing
import CloudProvider.Proofs.PersistentDisks
import CloudProvider.Proofs.Attachment
import CloudProvider.Proofs.Existence
import CloudProvider.Proofs.Faults
import CloudProvider.Proofs.Text.Utf8
import CloudProvider.Proofs.Text.EditDistance
import CloudProvider.Proofs.Url.Origin
import CloudProvider.Proofs.Destinations
import CloudProvider.Proofs.Suggestion
import CloudProvider.Proofs.Decimal.Quotient
import CloudProvider.Proofs.Sizes
import CloudProvider.Proofs.Gzip.Local
import CloudProvider.Proofs.Gzip.Inflate
import CloudProvider.Proofs.Gzip.Member
import CloudProvider.Proofs.Files
import CloudProvider.Proofs.Stemcells
import CloudProvider.Proofs.Tool.Capture
import CloudProvider.Proofs.Entities
import CloudProvider.Proofs.Housekeeping
import CloudProvider.Proofs.Temporaries
import CloudProvider.Proofs.Removals
import CloudProvider.Proofs.Json.Leeway
import CloudProvider.Proofs.Json.Recognition
import CloudProvider.Proofs.Tolerance
