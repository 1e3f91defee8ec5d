import Depot.Text.Blank
import Depot.Digest.Bytes
import Depot.Digest.Sha1
import Depot.Digest.Sha256
import Depot.Digest.Md5
import Depot.Path
import Depot.Number.Decimal
import Depot.Number.Binary64
import Depot.Unicode.Ranges
import Depot.Unicode.Unprintable
import Depot.Unicode.Lowercase
import Depot.Text.Quoted
import Depot.Text.Utf8
import Depot.Assoc
import Depot.Dict
import Depot.Json.Value
import Depot.Json.Printer
import Depot.Json.Token
import Depot.Json.Reader
import Depot.Schedule
import Depot.Files.Store
import Depot.Files.Memory
import Depot.Files.Disk
import Depot.Url.Percent
import Depot.Url.Punycode
import Depot.Unicode.Composed
import Depot.Unicode.Joining
import Depot.Unicode.Direction
import Depot.Unicode.DomainTable
import Depot.Url.Address
import Depot.Url.Domain
import Depot.Url.Host
import Depot.Url.Basic
import Depot.Url.Reader
import Depot.ObjectStore.HostShape
import Depot.ObjectStore.Location
import Depot.Package.Version
import Depot.Package.Fault
import Depot.Package.Manifest
import Depot.Package.Component
import Depot.Package.HostPlatform
import Depot.Fetch.Fault
import Depot.Fetch.Retry
import Depot.Fetch.Checksum
import Depot.Fetch.EntityTag
import Depot.Fetch.Transport
import Depot.Fetch.Download
import Depot.Fetch.Rehearsal
import Depot.Lock
import Depot.Settings.Basic
import Depot.Settings.Reader
import Depot.Settings.Load
import Depot.Http.Message
import Depot.Http.Client
import Depot.Http.Scripted
import Depot.CommandLine.Option
import Depot.CommandLine.Help
import Depot.CommandLine.Scan
import Depot.CommandLine.Invocation
import Depot.Program.Fault
import Depot.Program.Command
import Depot.Program.Machine
import Depot.Main
import Depot.Proofs.Path
import Depot.Proofs.CommandLine
import Depot.Proofs.Files
import Depot.Proofs.Fetch.World
import Depot.Proofs.Fetch.Attempt
import Depot.Proofs.Fetch.Session
import Depot.Proofs.Fetch.Integrity
import Depot.Proofs.Fetch.Coherence
import Depot.Proofs.Fetch.Footprint
import Depot.Proofs.Fetch.Failure
import Depot.Proofs.Fetch.Outcome
import Depot.Proofs.Fetch.Faultless
import Depot.Proofs.Fetch.Recovery
import Depot.Proofs.Fetch.Calls
import Depot.Proofs.Fetch.Served
import Depot.Proofs.Enforcement
import Depot.Proofs.Lock
import Depot.Proofs.Lock.History
import Depot.Proofs.Schedule
import Depot.Proofs.Schedule.Elapsed
import Depot.Proofs.Schedule.Excess
import Depot.Proofs.Fetch.Retry
import Depot.Proofs.Fetch.Scheduled
import Depot.Proofs.Fetch.Cutoff
import Depot.Proofs.Fetch.Verdict
import Depot.Proofs.Fetch.Tags
import Depot.Proofs.Settings
import Depot.Proofs.Settings.Layout
import Depot.Proofs.Program
import Depot.Proofs.Text
import Depot.Proofs.Text.Blank
import Depot.Proofs.Number
import Depot.Proofs.Package.Version
import Depot.Proofs.Package.Latest
import Depot.Proofs.Package.Selection
import Depot.Proofs.Package.Component
import Depot.Proofs.Package.HostPlatform
import Depot.Proofs.Dict
import Depot.Proofs.Except
import Depot.Proofs.Json.Spelling
import Depot.Proofs.Json.Taken
import Depot.Proofs.Json.Record
import Depot.Proofs.Json.Lexing
import Depot.Proofs.Json.Written
import Depot.Proofs.Package.Manifest
import Depot.Proofs.Package.Survival
import Depot.Proofs.Url.Percent
import Depot.Proofs.Text.ByteOrder
import Depot.Proofs.Url.Reader
import Depot.Proofs.Url.Plain
import Depot.Proofs.Url.Dots
import Depot.Proofs.Url.Escapes
import Depot.Proofs.Url.Segments
import Depot.Proofs.ObjectStore.HostShape
import Depot.Proofs.ObjectStore.Service
import Depot.Proofs.ObjectStore.Recognition
import Depot.Proofs.Url.Host
import Depot.Proofs.ObjectStore.Addressing
import Depot.Proofs.ObjectStore.Rewriting
import Depot.Proofs.Unicode.Composed
import Depot.Proofs.Http.Requests
import Depot.Proofs.ObjectStore.Destination
import Depot.Proofs.ObjectStore.Readdressing
import Depot.Proofs.ObjectStore.Partition
