import RowScript.Entries
import RowScript.Decimal.Layout
import RowScript.Decimal.Read
import RowScript.Text.Quoted
import RowScript.Duration
import RowScript.Column
import RowScript.Output
import RowScript.Transformer
import RowScript.Engine.Counting
import RowScript.Json.Write
import RowScript.Script.Lexer
import RowScript.Script.Datum
import RowScript.Script.Fault
import RowScript.Script.Syntax
import RowScript.Script.Parser
import RowScript.Script.Number
import RowScript.Script.Operators
import RowScript.Script.Machine
import RowScript.Script.Builtin.Collection
import RowScript.Script.Builtin.Number
import RowScript.Script.Builtin.Call
import RowScript.Script.Access
import RowScript.Script.Eval
import RowScript.Script.Examples
import RowScript.Script.Program
import RowScript.Script.Describe
import RowScript.Document
import RowScript.Json.Tree
import RowScript.Config.Fields
import RowScript.Interpreter
import RowScript.Job.Basic
import RowScript.Job.Fields
import RowScript.Yaml.Cursor
import RowScript.Yaml.Scalar
import RowScript.Yaml.Token
import RowScript.Yaml.Meaning
import RowScript.Yaml.Write
import RowScript.Toml.DateTime
import RowScript.Toml.Table
import RowScript.Toml.Read
import RowScript.Toml.Write
import RowScript.Job.Text
import RowScript.Csv.Split
import RowScript.Csv.Table
import RowScript.Csv.Write
import RowScript.Files.Path
import RowScript.Files.Store
import RowScript.Settings
import RowScript.Run.Basic
import RowScript.Run.Intake
import RowScript.Run.Process
import RowScript.Run.Script
import RowScript.CommandLine.Grammar
import RowScript.CommandLine.Read
import RowScript.CommandLine.Completion
import RowScript.CommandLine.Manual
import RowScript.CommandLine.Execute
import RowScript.Main
import RowScript.Proofs.Delivery
import RowScript.Proofs.Loading
import RowScript.Proofs.Lifecycle
import RowScript.Proofs.Lifetimes
import RowScript.Proofs.Simulation
import RowScript.Proofs.Records
import RowScript.Proofs.Storage
import RowScript.Proofs.Intake
import RowScript.Proofs.Processing
import RowScript.Proofs.Report
import RowScript.Proofs.Course
import RowScript.Proofs.Undisturbed
import RowScript.Proofs.Exits
import RowScript.Proofs.Feed
import RowScript.Proofs.Logs
import RowScript.Proofs.Warnings
import RowScript.Proofs.Tables
import RowScript.Proofs.Skipping
import RowScript.Proofs.Policies
import RowScript.Proofs.Isolation
import RowScript.Proofs.Handles
import RowScript.Proofs.Likeness
import RowScript.Proofs.Indifference
import RowScript.Proofs.Uniformity
import RowScript.Proofs.Steadiness
import RowScript.Proofs.Receivers
import RowScript.Proofs.SteadyPrograms
import RowScript.Proofs.Interpreting
import RowScript.Proofs.Sharing
import RowScript.Proofs.Chaining
import RowScript.Proofs.Restoring
import RowScript.Proofs.Columns
import RowScript.Proofs.Validity
import RowScript.Proofs.Provenance
import RowScript.Proofs.Unlimited
import RowScript.Proofs.Examples
import RowScript.Proofs.Unconfigured
import RowScript.Proofs.Renewal
import RowScript.Proofs.Crossing
import RowScript.Proofs.Arguments
import RowScript.Proofs.Rearranging
import RowScript.Proofs.Emission
import RowScript.Lock
import RowScript.Proofs.Cells
import RowScript.Proofs.Gates
import RowScript.Proofs.Ascending
import RowScript.Proofs.Canonical
import RowScript.Proofs.Assembly
import RowScript.Proofs.OrderedMaps
import RowScript.Proofs.Namesakes
import RowScript.Proofs.Conservation
import RowScript.Proofs.Grammar
import RowScript.Proofs.Gathering
import RowScript.Proofs.Parts
import RowScript.Proofs.Editing
