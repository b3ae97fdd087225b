import CdnPublish.CommandLine.Argument
import CdnPublish.CommandLine.Invocation
import CdnPublish.CommandLine.Notice
import CdnPublish.CommandLine.Reading
import CdnPublish.CommandLine.Run
import CdnPublish.ConfigFile
import CdnPublish.ContentKey
import CdnPublish.Deadline
import CdnPublish.Decimal.Shortest
import CdnPublish.Dest
import CdnPublish.Digest
import CdnPublish.FileTree
import CdnPublish.Flush
import CdnPublish.Gateway
import CdnPublish.Http.Connection
import CdnPublish.Http.Exchange
import CdnPublish.Http.Pem
import CdnPublish.Item
import CdnPublish.Json.Basic
import CdnPublish.Json.Numeral
import CdnPublish.Json.Printer
import CdnPublish.Json.Token
import CdnPublish.Json.Tree
import CdnPublish.LocalFault
import CdnPublish.LocalPath
import CdnPublish.Log
import CdnPublish.Main
import CdnPublish.MediaType
import CdnPublish.Narrated
import CdnPublish.OsFault
import CdnPublish.Poll
import CdnPublish.Program
import CdnPublish.Session
import CdnPublish.Settings
import CdnPublish.Sha256
import CdnPublish.Sync.Plan
import CdnPublish.Sync.Run
import CdnPublish.SyncFault
import CdnPublish.Task
import CdnPublish.Text.Blank
import CdnPublish.Text.Hidden
import CdnPublish.Text.Natural
import CdnPublish.Text.Quoted
import CdnPublish.Text.Split
import CdnPublish.Text.Utf8
import CdnPublish.Upload
import CdnPublish.Url.Basic
import CdnPublish.Url.Domain
import CdnPublish.Url.Fault
import CdnPublish.Url.Host
import CdnPublish.Url.Parser
import CdnPublish.Url.Percent
import CdnPublish.Url.Punycode
import CdnPublish.Walk
import CdnPublish.Wire
import CdnPublish.Yaml.Node
import CdnPublish.Yaml.Scalar
import CdnPublish.Yaml.Tag
import CdnPublish.Yaml.Token
import CdnPublish.Yaml.Token.Lexer
import CdnPublish.Proofs.Narrated.Sequences
import CdnPublish.Proofs.Text.Split
import CdnPublish.Proofs.Text.Utf8
import CdnPublish.Proofs.LocalPath.Names
import CdnPublish.Proofs.LocalPath.Spellings
import CdnPublish.Proofs.Dest.Canonical
import CdnPublish.Proofs.Dest.Joining
import CdnPublish.Proofs.FileTree.Entries
import CdnPublish.Proofs.FileTree.Resolving
import CdnPublish.Proofs.FileTree.WellFormed
import CdnPublish.Proofs.Walk.Findings
import CdnPublish.Proofs.Walk.Visits
import CdnPublish.Proofs.Walk.Destinations
import CdnPublish.Proofs.Walk.Collisions
import CdnPublish.Proofs.Program.Runs
import CdnPublish.Proofs.Program.Fallible
import CdnPublish.Proofs.Program.Questions
import CdnPublish.Proofs.Program.Answered
import CdnPublish.Proofs.Poll.Rounds
import CdnPublish.Proofs.Session.Steps
import CdnPublish.Proofs.Session.History
import CdnPublish.Proofs.Gateway.Kinds
import CdnPublish.Proofs.Upload.Blobs
import CdnPublish.Proofs.Upload.Phase
import CdnPublish.Proofs.Upload.Store
import CdnPublish.Proofs.Sync.Planning
import CdnPublish.Proofs.Sync.Course
import CdnPublish.Proofs.Sync.Commit
import CdnPublish.Proofs.Sync.Refusal
import CdnPublish.Proofs.Sync.Failure
import CdnPublish.Proofs.Http.Answers
import CdnPublish.Proofs.Http.Acceptance
import CdnPublish.Proofs.Poll.Resumption
import CdnPublish.Proofs.Sync.Preview
import CdnPublish.Proofs.Program.Lockstep
import CdnPublish.Proofs.Http.Anonymity
import CdnPublish.Proofs.Http.Independence
import CdnPublish.Proofs.Http.Addresses
import CdnPublish.Proofs.Http.Tasks
import CdnPublish.Proofs.CommandLine.Jobs
import CdnPublish.Proofs.CommandLine.ExitStatus
import CdnPublish.Proofs.Dest.Retraction
import CdnPublish.Proofs.Text.Following
import CdnPublish.Proofs.Walk.Targets
import CdnPublish.Proofs.Json.Tokens
import CdnPublish.Proofs.Json.Reading
import CdnPublish.Proofs.Wire.Fields
import CdnPublish.Proofs.Wire.RoundTrip
import CdnPublish.Proofs.FileTree.Leading
import CdnPublish.Proofs.FileTree.Listing
import CdnPublish.Proofs.Walk.Reaching
import CdnPublish.Proofs.Walk.Depth
import CdnPublish.Proofs.Walk.Enumeration
import CdnPublish.Proofs.Walk.Completeness
import CdnPublish.Proofs.Sha256.Streaming
import CdnPublish.Proofs.Digest.Schedules
import CdnPublish.Proofs.MediaType.Grammar
import CdnPublish.Proofs.LocalPath.Relative
import CdnPublish.Proofs.Dest.Textual
import CdnPublish.Proofs.Sync.Items
import CdnPublish.Proofs.Poll.Links
import CdnPublish.Proofs.Flush.Requests
import CdnPublish.Proofs.Upload.Calls
import CdnPublish.Proofs.Settings.Resolution
import CdnPublish.Proofs.Session.Atomicity
import CdnPublish.Proofs.Sync.Origins
import CdnPublish.Proofs.CommandLine.Reports
import CdnPublish.Proofs.Item.Records
import CdnPublish.Proofs.Json.Texts
import CdnPublish.Proofs.Json.Grammar
import CdnPublish.Proofs.Poll.Unknown
import CdnPublish.Proofs.Wire.Compatibility
import CdnPublish.Proofs.Text.Leading
import CdnPublish.Proofs.Deadline.Spelling
import CdnPublish.Proofs.Deadline.Reading
import CdnPublish.Proofs.Deadline.Timestamp
import CdnPublish.Proofs.CommandLine.Values
import CdnPublish.Proofs.Text.Encoding
import CdnPublish.Proofs.Url.Form
import CdnPublish.Proofs.CommandLine.Deadlines
import CdnPublish.Proofs.Url.Plain
import CdnPublish.Proofs.Url.Site
import CdnPublish.Proofs.Url.Joining
import CdnPublish.Proofs.Http.Resolving
