import CommitHistory.Change
import CommitHistory.Change.Json
import CommitHistory.Change.Memory
import CommitHistory.Change.NameStatus
import CommitHistory.Change.Recall
import CommitHistory.CommandLine.Options
import CommitHistory.CommandLine.Parameter
import CommitHistory.CommandLine.Program
import CommitHistory.Commit
import CommitHistory.Commit.Json
import CommitHistory.Decimal
import CommitHistory.Decimal.Binary
import CommitHistory.Fault
import CommitHistory.Fault.Json
import CommitHistory.Files.Directory
import CommitHistory.Files.Path
import CommitHistory.Git.Dialogue
import CommitHistory.Git.History
import CommitHistory.Git.Launch
import CommitHistory.Git.Recorded
import CommitHistory.Git.Source
import CommitHistory.Git.Transcript
import CommitHistory.Graph
import CommitHistory.Graph.Json
import CommitHistory.Json.Reader
import CommitHistory.Json.Value
import CommitHistory.Json.Writer
import CommitHistory.Lineage
import CommitHistory.Lineage.Json
import CommitHistory.Log.Decoration
import CommitHistory.Log.Record
import CommitHistory.Log.Shortstat
import CommitHistory.Main
import CommitHistory.Palette
import CommitHistory.RecencyCache
import CommitHistory.Rehearsal.ScriptedSource
import CommitHistory.Rehearsal.Stage
import CommitHistory.Report
import CommitHistory.Report.Json
import CommitHistory.Report.Text
import CommitHistory.Scope
import CommitHistory.Session.Activity
import CommitHistory.Session.Ancestor
import CommitHistory.Session.Children
import CommitHistory.Session.Edit
import CommitHistory.Session.Fetch
import CommitHistory.Session.Follow
import CommitHistory.Session.LoadMore
import CommitHistory.Session.MoreLines
import CommitHistory.Session.Notice
import CommitHistory.Session.Opening
import CommitHistory.Session.Refresh
import CommitHistory.Session.Repository
import CommitHistory.Session.Solo
import CommitHistory.Session.Store
import CommitHistory.Session.Turnstile
import CommitHistory.Session.World
import CommitHistory.Settings
import CommitHistory.Settings.Document
import CommitHistory.Settings.Dotenv
import CommitHistory.Settings.Format
import CommitHistory.Settings.Json
import CommitHistory.Settings.LogFilter
import CommitHistory.Settings.LogFilter.Directive
import CommitHistory.Settings.LogFilter.FieldValue
import CommitHistory.Settings.LogLevel
import CommitHistory.Settings.Outline
import CommitHistory.Settings.Source
import CommitHistory.Settings.Toml
import CommitHistory.Settings.Yaml
import CommitHistory.Table
import CommitHistory.Text.Alphanumeric
import CommitHistory.Text.Blank
import CommitHistory.Text.Digit
import CommitHistory.Text.Hidden
import CommitHistory.Text.Lines
import CommitHistory.Text.Numeral
import CommitHistory.Text.Pattern
import CommitHistory.Text.Quoted
import CommitHistory.Text.Ranges
import CommitHistory.Text.Utf8
import CommitHistory.Timestamp
import CommitHistory.Toml.Reader
import CommitHistory.Toml.Scalar
import CommitHistory.Toml.Value
import CommitHistory.Toml.Writer
import CommitHistory.Tree
import CommitHistory.Yaml.Block
import CommitHistory.Yaml.Document
import CommitHistory.Yaml.Node
import CommitHistory.Yaml.Place
import CommitHistory.Yaml.Plain
import CommitHistory.Yaml.Quoted
import CommitHistory.Yaml.Scalar
import CommitHistory.Yaml.Tag
import CommitHistory.Yaml.Token
import CommitHistory.Yaml.Token.Lexer
import CommitHistory.Yaml.Writer
import CommitHistory.Proofs.Session.Fetch
import CommitHistory.Proofs.Session.Step
import CommitHistory.Proofs.Session.Store
import CommitHistory.Proofs.Session.History
import CommitHistory.Proofs.Session.Move
import CommitHistory.Proofs.Graph.Pages
import CommitHistory.Proofs.Graph.Paging
import CommitHistory.Proofs.Graph.OpenLanes
import CommitHistory.Proofs.Session.Provenance
import CommitHistory.Proofs.Session.Queue
import CommitHistory.Proofs.Session.SingleFlight
import CommitHistory.Proofs.Session.Progress
import CommitHistory.Proofs.Session.Overlap
import CommitHistory.Proofs.Session.Growth
import CommitHistory.Proofs.Session.Lines
import CommitHistory.Proofs.Session.Display
import CommitHistory.Proofs.Session.Refresh
import CommitHistory.Proofs.Session.Throttle
import CommitHistory.Proofs.Session.Duty
import CommitHistory.Proofs.Session.Service
import CommitHistory.Proofs.Session.Tally
import CommitHistory.Proofs.Session.Choice
import CommitHistory.Proofs.Session.Showing
import CommitHistory.Proofs.Session.Current
import CommitHistory.Proofs.Session.News
import CommitHistory.Proofs.Session.CatchUp
import CommitHistory.Proofs.Text.Cutting
import CommitHistory.Proofs.Text.Numeral
import CommitHistory.Proofs.Log.Decoration
import CommitHistory.Proofs.Log.SizeGrammar
import CommitHistory.Proofs.Log.SizeLine
import CommitHistory.Proofs.Log.Page
import CommitHistory.Proofs.Log.Message
import CommitHistory.Proofs.Settings.Setting
import CommitHistory.Proofs.Settings.Priority
import CommitHistory.Proofs.Session.Alone
import CommitHistory.Proofs.Graph.Complete
import CommitHistory.Proofs.Session.Reach
import CommitHistory.Proofs.Session.Request
import CommitHistory.Proofs.Session.Outstanding
import CommitHistory.Proofs.Session.Course
import CommitHistory.Proofs.Session.Refusal
import CommitHistory.Proofs.Change.NameStatus
import CommitHistory.Proofs.Change.Recall
import CommitHistory.Proofs.Change.Recency
import CommitHistory.Proofs.Git.Report
import CommitHistory.Proofs.Session.Killed
import CommitHistory.Proofs.Timestamp.Calendar
import CommitHistory.Proofs.Timestamp.Rendering
import CommitHistory.Proofs.Json.Reading
import CommitHistory.Proofs.Text.Utf8
import CommitHistory.Proofs.Report.Escapes
import CommitHistory.Proofs.Report.Json
import CommitHistory.Proofs.Report.Text
import CommitHistory.Proofs.Files.Directory
import CommitHistory.Proofs.Settings.Saved
import CommitHistory.Proofs.Session.Publication
import CommitHistory.Proofs.Session.Mirror
import CommitHistory.Proofs.Session.Sequence
import CommitHistory.Proofs.Session.Told
import CommitHistory.Proofs.Session.Omission
import CommitHistory.Proofs.Session.Apart
import CommitHistory.Proofs.Session.Ownership
import CommitHistory.Proofs.Session.Interference
import CommitHistory.Proofs.Graph.Geometry
import CommitHistory.Proofs.Graph.Rotation
import CommitHistory.Proofs.Session.View
import CommitHistory.Proofs.Session.Guard
import CommitHistory.Proofs.Session.Cause
import CommitHistory.Proofs.Settings.Mention
import CommitHistory.Proofs.Settings.Held
import CommitHistory.Proofs.Session.Errand
import CommitHistory.Proofs.Session.Obedience
import CommitHistory.Proofs.Session.TurnedAway
