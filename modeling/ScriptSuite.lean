import ScriptSuite.Cli.Arguments
import ScriptSuite.Cli.Basic
import ScriptSuite.Cli.Report
import ScriptSuite.Cli.Request
import ScriptSuite.Command.Basic
import ScriptSuite.Command.Builtin
import ScriptSuite.Command.Files
import ScriptSuite.Command.Matching
import ScriptSuite.Command.Programs
import ScriptSuite.Command.Samples
import ScriptSuite.Command.StandIn
import ScriptSuite.Command.Variables
import ScriptSuite.Diff.Compact
import ScriptSuite.Diff.Edit
import ScriptSuite.Diff.Shortest
import ScriptSuite.Diff.Unified
import ScriptSuite.Host.Basic
import ScriptSuite.Host.Behaviour
import ScriptSuite.Host.Clock
import ScriptSuite.Host.Fault
import ScriptSuite.Host.FileTree
import ScriptSuite.Host.Files
import ScriptSuite.Host.Image
import ScriptSuite.Host.Processes
import ScriptSuite.Host.Signal
import ScriptSuite.Job.Basic
import ScriptSuite.Job.Child
import ScriptSuite.Job.Error
import ScriptSuite.Job.Output
import ScriptSuite.Json.Basic
import ScriptSuite.Machine.Basic
import ScriptSuite.Main
import ScriptSuite.Path.Basic
import ScriptSuite.Path.Location
import ScriptSuite.Path.Name
import ScriptSuite.Proofs.Cli.Junit
import ScriptSuite.Proofs.Command.Comparing
import ScriptSuite.Proofs.Command.Copying
import ScriptSuite.Proofs.Command.Jobs
import ScriptSuite.Proofs.Command.Killing
import ScriptSuite.Proofs.Command.Orderly
import ScriptSuite.Proofs.Command.Streams
import ScriptSuite.Proofs.Command.Unquoting
import ScriptSuite.Proofs.Host.Confining
import ScriptSuite.Proofs.Host.Copying
import ScriptSuite.Proofs.Host.Ending
import ScriptSuite.Proofs.Host.Faults
import ScriptSuite.Proofs.Host.Growth
import ScriptSuite.Proofs.Host.Lapse
import ScriptSuite.Proofs.Host.Passing
import ScriptSuite.Proofs.Host.Places
import ScriptSuite.Proofs.Host.Pouring
import ScriptSuite.Proofs.Host.Reaping
import ScriptSuite.Proofs.Host.Searching
import ScriptSuite.Proofs.Host.Storing
import ScriptSuite.Proofs.Host.Undisturbed
import ScriptSuite.Proofs.Host.Waiting
import ScriptSuite.Proofs.Job.History
import ScriptSuite.Proofs.Job.SoFar
import ScriptSuite.Proofs.Path.Below
import ScriptSuite.Proofs.Path.Cleaning
import ScriptSuite.Proofs.Path.Joining
import ScriptSuite.Proofs.Path.Name
import ScriptSuite.Proofs.Path.Naming
import ScriptSuite.Proofs.Path.Order
import ScriptSuite.Proofs.Path.Parent
import ScriptSuite.Proofs.Script.Comparison
import ScriptSuite.Proofs.Script.Convergence
import ScriptSuite.Proofs.Script.Grammar
import ScriptSuite.Proofs.Script.Instruction
import ScriptSuite.Proofs.Script.Parts
import ScriptSuite.Proofs.Script.Replacement
import ScriptSuite.Proofs.Script.Revision
import ScriptSuite.Proofs.Script.Separator
import ScriptSuite.Proofs.Script.Shape
import ScriptSuite.Proofs.Script.Splitting
import ScriptSuite.Proofs.Script.Stopping
import ScriptSuite.Proofs.Script.Verdict
import ScriptSuite.Proofs.Script.Word
import ScriptSuite.Proofs.Script.Writing
import ScriptSuite.Proofs.Session.Change
import ScriptSuite.Proofs.Session.Containment
import ScriptSuite.Proofs.Session.Filling
import ScriptSuite.Proofs.Session.Resolving
import ScriptSuite.Proofs.Session.Sandbox
import ScriptSuite.Proofs.Session.Teardown
import ScriptSuite.Proofs.Session.Updating
import ScriptSuite.Proofs.Suite.Accounting
import ScriptSuite.Proofs.Suite.Aftermath
import ScriptSuite.Proofs.Suite.Conditions
import ScriptSuite.Proofs.Suite.Containment
import ScriptSuite.Proofs.Suite.Course
import ScriptSuite.Proofs.Suite.Deadlines
import ScriptSuite.Proofs.Suite.Discovery
import ScriptSuite.Proofs.Suite.Finding
import ScriptSuite.Proofs.Suite.Finish
import ScriptSuite.Proofs.Suite.Folder
import ScriptSuite.Proofs.Suite.Gathering
import ScriptSuite.Proofs.Suite.Golden
import ScriptSuite.Proofs.Suite.Hiding
import ScriptSuite.Proofs.Suite.Judging
import ScriptSuite.Proofs.Suite.Launching
import ScriptSuite.Proofs.Suite.Misuse
import ScriptSuite.Proofs.Suite.Outcome
import ScriptSuite.Proofs.Suite.Preparation
import ScriptSuite.Proofs.Suite.Protection
import ScriptSuite.Proofs.Suite.Rewrite
import ScriptSuite.Proofs.Suite.Step
import ScriptSuite.Proofs.Suite.Streams
import ScriptSuite.Proofs.Suite.Together
import ScriptSuite.Proofs.Text.ByteLines
import ScriptSuite.Proofs.Text.Cutting
import ScriptSuite.Proofs.Text.Entities
import ScriptSuite.Proofs.Text.Lines
import ScriptSuite.Proofs.Text.Trimming
import ScriptSuite.Proofs.Text.Utf8
import ScriptSuite.Proofs.Variable.Grammar
import ScriptSuite.Proofs.Xml.Escaping
import ScriptSuite.Proofs.Xml.Grammar
import ScriptSuite.Proofs.Xml.Reading
import ScriptSuite.Regex.Automaton
import ScriptSuite.Regex.Bracket
import ScriptSuite.Regex.Escape
import ScriptSuite.Regex.Flags
import ScriptSuite.Regex.Flaw
import ScriptSuite.Regex.Language
import ScriptSuite.Regex.Matching
import ScriptSuite.Regex.Parser
import ScriptSuite.Regex.Property.Category
import ScriptSuite.Regex.Property.Named
import ScriptSuite.Regex.Property.Trait
import ScriptSuite.Regex.Property.Writing
import ScriptSuite.Regex.Syntax
import ScriptSuite.Regex.Weight
import ScriptSuite.Script.Basic
import ScriptSuite.Script.Comparison
import ScriptSuite.Script.Parser
import ScriptSuite.Script.Separator
import ScriptSuite.Script.Source
import ScriptSuite.Script.Word
import ScriptSuite.Session.Basic
import ScriptSuite.Session.Error
import ScriptSuite.Shell.Arithmetic
import ScriptSuite.Shell.Expansion
import ScriptSuite.Shell.Lexer
import ScriptSuite.Shell.Machine
import ScriptSuite.Shell.Parser
import ScriptSuite.Shell.Pattern
import ScriptSuite.Shell.State
import ScriptSuite.Shell.Syntax
import ScriptSuite.Suite.Basic
import ScriptSuite.Suite.Conditions
import ScriptSuite.Suite.Config
import ScriptSuite.Suite.ConfigText
import ScriptSuite.Suite.Discovery
import ScriptSuite.Suite.Engine
import ScriptSuite.Suite.Error
import ScriptSuite.Suite.Gathering
import ScriptSuite.Suite.Params
import ScriptSuite.Suite.Result
import ScriptSuite.Suite.Schema
import ScriptSuite.Text.Blank
import ScriptSuite.Text.CaseFolding
import ScriptSuite.Text.Entities
import ScriptSuite.Text.Line
import ScriptSuite.Text.Number
import ScriptSuite.Text.Quoted
import ScriptSuite.Text.Ranges
import ScriptSuite.Text.Unprintable
import ScriptSuite.Text.Utf8
import ScriptSuite.Time.Calendar
import ScriptSuite.Time.Duration
import ScriptSuite.Time.Instant
import ScriptSuite.Toml.Document
import ScriptSuite.Toml.Flaw
import ScriptSuite.Toml.Moment
import ScriptSuite.Toml.Table
import ScriptSuite.Toml.Text
import ScriptSuite.Tools.Basic
import ScriptSuite.Tools.Files
import ScriptSuite.Tools.Printing
import ScriptSuite.Tools.Runner
import ScriptSuite.Tools.Stray
import ScriptSuite.Variable.Environment
import ScriptSuite.Variable.Reference
import ScriptSuite.Yaml.Cursor
import ScriptSuite.Yaml.Flaw
import ScriptSuite.Yaml.Node
import ScriptSuite.Yaml.Scalar
import ScriptSuite.Yaml.Token
import ScriptSuite.Yaml.Token.Lexer
