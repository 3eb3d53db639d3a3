import DeliveryCheck.Command.Arguments
import DeliveryCheck.Command.Effective
import DeliveryCheck.Command.Environment
import DeliveryCheck.Command.Help
import DeliveryCheck.Command.Host
import DeliveryCheck.Command.Machine
import DeliveryCheck.Command.Options
import DeliveryCheck.Command.Session
import DeliveryCheck.Config.Basic
import DeliveryCheck.Config.Document
import DeliveryCheck.Error
import DeliveryCheck.Files.Path
import DeliveryCheck.Files.Tree
import DeliveryCheck.Main
import DeliveryCheck.Poll.Basic
import DeliveryCheck.Procedure.Alone
import DeliveryCheck.Procedure.Basic
import DeliveryCheck.Procedure.Task
import DeliveryCheck.Procedure.Together
import DeliveryCheck.Proofs.Command.Layers
import DeliveryCheck.Proofs.Config.TableName
import DeliveryCheck.Proofs.Poll.Account
import DeliveryCheck.Proofs.Poll.Countable
import DeliveryCheck.Proofs.Poll.Schedule
import DeliveryCheck.Proofs.Poll.Trail
import DeliveryCheck.Proofs.Procedure.Course
import DeliveryCheck.Proofs.Procedure.Interleaving
import DeliveryCheck.Proofs.Procedure.Prompt
import DeliveryCheck.Proofs.Procedure.Single
import DeliveryCheck.Proofs.Procedure.Timely
import DeliveryCheck.Proofs.Procedure.Together
import DeliveryCheck.Proofs.Report.Agreement
import DeliveryCheck.Proofs.Report.Diagnostic
import DeliveryCheck.Proofs.Report.OneLine
import DeliveryCheck.Proofs.Run.Budget
import DeliveryCheck.Proofs.Run.Checked
import DeliveryCheck.Proofs.Run.Console
import DeliveryCheck.Proofs.Run.Limit
import DeliveryCheck.Proofs.Run.Moves
import DeliveryCheck.Proofs.Run.Order
import DeliveryCheck.Proofs.Run.Release
import DeliveryCheck.Proofs.Run.Reports
import DeliveryCheck.Proofs.Run.Story
import DeliveryCheck.Proofs.Run.Timeout
import DeliveryCheck.Proofs.Run.Total
import DeliveryCheck.Proofs.Run.Verdict
import DeliveryCheck.Proofs.Run.World
import DeliveryCheck.Proofs.Scenario.Anatomy
import DeliveryCheck.Proofs.Scenario.Budget
import DeliveryCheck.Proofs.Scenario.Calls
import DeliveryCheck.Proofs.Scenario.Confirmation
import DeliveryCheck.Proofs.Scenario.Delivery
import DeliveryCheck.Proofs.Scenario.Discipline
import DeliveryCheck.Proofs.Scenario.Evidence
import DeliveryCheck.Proofs.Scenario.Faults
import DeliveryCheck.Proofs.Scenario.Phases
import DeliveryCheck.Proofs.Scenario.Punctual
import DeliveryCheck.Proofs.Scenario.Selection
import DeliveryCheck.Proofs.Scenario.Timing
import DeliveryCheck.Proofs.Scenario.Verdict
import DeliveryCheck.Proofs.Sql.Column
import DeliveryCheck.Proofs.Sql.Insertion
import DeliveryCheck.Proofs.Sql.Listing
import DeliveryCheck.Proofs.Sql.Statement
import DeliveryCheck.Proofs.Text.Json
import DeliveryCheck.Proofs.Text.LetterCase
import DeliveryCheck.Proofs.Text.Quoted
import DeliveryCheck.Proofs.Time.Moment
import DeliveryCheck.Proofs.Time.Parts
import DeliveryCheck.Proofs.Worker.Accounts
import DeliveryCheck.Proofs.Worker.Accusation
import DeliveryCheck.Proofs.Worker.Answers
import DeliveryCheck.Proofs.Worker.Bookkeeping
import DeliveryCheck.Proofs.Worker.Entries
import DeliveryCheck.Proofs.Worker.Exposed
import DeliveryCheck.Proofs.Worker.Honest
import DeliveryCheck.Proofs.Worker.Isolation
import DeliveryCheck.Proofs.Worker.Journal
import DeliveryCheck.Proofs.Worker.Leads
import DeliveryCheck.Proofs.Worker.Shared
import DeliveryCheck.Proofs.Worker.Shows
import DeliveryCheck.Proofs.Worker.Told
import DeliveryCheck.Proofs.Worker.Uniform
import DeliveryCheck.Record.Basic
import DeliveryCheck.Record.Uuid
import DeliveryCheck.Report.Line
import DeliveryCheck.Report.Result
import DeliveryCheck.Report.Summary
import DeliveryCheck.Run.All
import DeliveryCheck.Run.Execution
import DeliveryCheck.Run.World
import DeliveryCheck.Scenario.Basic
import DeliveryCheck.Scenario.Check
import DeliveryCheck.Scenario.Listing
import DeliveryCheck.Scenario.Spec
import DeliveryCheck.Sql.Fault
import DeliveryCheck.Sql.Statement
import DeliveryCheck.Sql.Store
import DeliveryCheck.Store.Basic
import DeliveryCheck.Store.Playback
import DeliveryCheck.Store.Worker
import DeliveryCheck.Text.CharacterRange
import DeliveryCheck.Text.Colour
import DeliveryCheck.Text.Decimal
import DeliveryCheck.Text.Hexadecimal
import DeliveryCheck.Text.Json
import DeliveryCheck.Text.Quoted
import DeliveryCheck.Text.Reader
import DeliveryCheck.Text.Tenths
import DeliveryCheck.Time.Calendar
import DeliveryCheck.Time.Clock
import DeliveryCheck.Time.Duration
import DeliveryCheck.Time.Rfc3339
import DeliveryCheck.Time.Timestamp
import DeliveryCheck.Toml.Document
import DeliveryCheck.Toml.Inline
import DeliveryCheck.Toml.Number
import DeliveryCheck.Toml.Section
import DeliveryCheck.Toml.Table
import DeliveryCheck.Toml.Text
import DeliveryCheck.Toml.Value
import DeliveryCheck.Yaml.Block
import DeliveryCheck.Yaml.Cursor
import DeliveryCheck.Yaml.Decode
import DeliveryCheck.Yaml.Document
import DeliveryCheck.Yaml.Fold
import DeliveryCheck.Yaml.Layout
import DeliveryCheck.Yaml.Node
import DeliveryCheck.Yaml.Plain
import DeliveryCheck.Yaml.Quoted
import DeliveryCheck.Yaml.Tag
import DeliveryCheck.Yaml.Token
