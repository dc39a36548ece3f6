import MojoToolchain.CommandLine.Call
import MojoToolchain.CommandLine.Options
import MojoToolchain.CommandLine.Report
import MojoToolchain.CommandLine.Run
import MojoToolchain.CommandLine.Terminal
import MojoToolchain.Debug.Companion
import MojoToolchain.Debug.Companion.Fields
import MojoToolchain.Debug.Completion
import MojoToolchain.Debug.Configuration.Basic
import MojoToolchain.Debug.Configuration.Fields
import MojoToolchain.Debug.Error
import MojoToolchain.Debug.FileLaunch
import MojoToolchain.Debug.LaunchFile
import MojoToolchain.Debug.Provider
import MojoToolchain.Decimal.Arithmetic
import MojoToolchain.Decimal.Double
import MojoToolchain.Decimal.Quantity
import MojoToolchain.Decimal.Shortest
import MojoToolchain.Descriptor.File
import MojoToolchain.Formatter
import MojoToolchain.Host.CannedProcesses
import MojoToolchain.Host.Dialogue
import MojoToolchain.Host.Disk
import MojoToolchain.Host.DiskHost
import MojoToolchain.Host.Fault
import MojoToolchain.Host.MemoryFiles
import MojoToolchain.Host.MemoryHost
import MojoToolchain.Host.TextFile
import MojoToolchain.Json.Commented
import MojoToolchain.Json.Fault
import MojoToolchain.Json.Literal
import MojoToolchain.Json.Mismatch
import MojoToolchain.Json.Printer
import MojoToolchain.Json.Reader
import MojoToolchain.Json.Record
import MojoToolchain.Json.Rest
import MojoToolchain.Json.Typed
import MojoToolchain.Json.Value
import MojoToolchain.Log
import MojoToolchain.Main
import MojoToolchain.Path.Basic
import MojoToolchain.Path.Resolution
import MojoToolchain.Proofs.CommandLine.ActiveFile
import MojoToolchain.Proofs.CommandLine.Substitution
import MojoToolchain.Proofs.Debug.Attach
import MojoToolchain.Proofs.Debug.Backends
import MojoToolchain.Proofs.Debug.CompanionFields
import MojoToolchain.Proofs.Debug.Completion
import MojoToolchain.Proofs.Debug.ConfigurationFields
import MojoToolchain.Proofs.Debug.FileLaunch
import MojoToolchain.Proofs.Debug.Messages
import MojoToolchain.Proofs.Debug.Provider
import MojoToolchain.Proofs.Debug.Scripting
import MojoToolchain.Proofs.Descriptor.Lines
import MojoToolchain.Proofs.Formatter.InPlace
import MojoToolchain.Proofs.Host.Disk
import MojoToolchain.Proofs.Host.ReadOnly
import MojoToolchain.Proofs.Json.Acceptance
import MojoToolchain.Proofs.Json.Commas
import MojoToolchain.Proofs.Json.Comments
import MojoToolchain.Proofs.Json.Dialects
import MojoToolchain.Proofs.Json.Grammar
import MojoToolchain.Proofs.Json.LawfulRecord
import MojoToolchain.Proofs.Json.Lines
import MojoToolchain.Proofs.Json.Literals
import MojoToolchain.Proofs.Json.Members
import MojoToolchain.Proofs.Json.OnePass
import MojoToolchain.Proofs.Json.Passes
import MojoToolchain.Proofs.Json.Plain
import MojoToolchain.Proofs.Json.PrintedLiterals
import MojoToolchain.Proofs.Json.PrintedRecords
import MojoToolchain.Proofs.Json.PrintedValues
import MojoToolchain.Proofs.Json.Records
import MojoToolchain.Proofs.Json.Spelling
import MojoToolchain.Proofs.Json.Unambiguity
import MojoToolchain.Proofs.Outcome
import MojoToolchain.Proofs.Path.Ancestors
import MojoToolchain.Proofs.Path.Order
import MojoToolchain.Proofs.Path.Resolution
import MojoToolchain.Proofs.Resolver.Announcements
import MojoToolchain.Proofs.Resolver.Environments
import MojoToolchain.Proofs.Resolver.Epochs
import MojoToolchain.Proofs.Resolver.Failures
import MojoToolchain.Proofs.Resolver.History
import MojoToolchain.Proofs.Resolver.Lookup
import MojoToolchain.Proofs.Resolver.Messages
import MojoToolchain.Proofs.Resolver.SingleFlight
import MojoToolchain.Proofs.Resolver.Stability
import MojoToolchain.Proofs.Resolver.Steps
import MojoToolchain.Proofs.Sdk.Failures
import MojoToolchain.Proofs.Sdk.Install
import MojoToolchain.Proofs.Sdk.Origin
import MojoToolchain.Proofs.Sdk.ReadOnly
import MojoToolchain.Proofs.Sdk.Search
import MojoToolchain.Proofs.Sdk.WrittenHome
import MojoToolchain.Proofs.Server.History
import MojoToolchain.Proofs.Server.OneServer
import MojoToolchain.Proofs.Server.Origins
import MojoToolchain.Proofs.Server.ProjectRoot
import MojoToolchain.Proofs.Server.UpToDate
import MojoToolchain.Proofs.Server.Watching
import MojoToolchain.Proofs.Settings.Printed
import MojoToolchain.Proofs.Settings.Sources
import MojoToolchain.Proofs.Text.Replacement
import MojoToolchain.Proofs.Text.Words
import MojoToolchain.Proofs.Version.Pattern
import MojoToolchain.Proofs.Version.Search
import MojoToolchain.Sdk.Basic
import MojoToolchain.Sdk.Error
import MojoToolchain.Sdk.Home
import MojoToolchain.Sdk.Layout
import MojoToolchain.Sdk.Lookup
import MojoToolchain.Sdk.Probe
import MojoToolchain.Sdk.Resolver
import MojoToolchain.Sdk.Written
import MojoToolchain.Server.Launch
import MojoToolchain.Server.Supervisor
import MojoToolchain.Server.Written
import MojoToolchain.Session.Background
import MojoToolchain.Session.Basic
import MojoToolchain.Session.Calls
import MojoToolchain.Session.Debugging
import MojoToolchain.Settings.Basic
import MojoToolchain.Settings.Load
import MojoToolchain.Settings.Text
import MojoToolchain.Shell.Arguments
import MojoToolchain.Shell.Arithmetic
import MojoToolchain.Shell.Awk.Call
import MojoToolchain.Shell.Awk.Machine
import MojoToolchain.Shell.Awk.Parser
import MojoToolchain.Shell.Awk.Run
import MojoToolchain.Shell.Awk.Scanner
import MojoToolchain.Shell.Awk.Statements
import MojoToolchain.Shell.Awk.Syntax
import MojoToolchain.Shell.Awk.Value
import MojoToolchain.Shell.Calls
import MojoToolchain.Shell.Editing.Reader
import MojoToolchain.Shell.Editing.Run
import MojoToolchain.Shell.Editing.Script
import MojoToolchain.Shell.Expansion
import MojoToolchain.Shell.Expression
import MojoToolchain.Shell.Finding
import MojoToolchain.Shell.Parts
import MojoToolchain.Shell.Pattern
import MojoToolchain.Shell.Permissions
import MojoToolchain.Shell.Process
import MojoToolchain.Shell.Program
import MojoToolchain.Shell.Quoting
import MojoToolchain.Shell.Reader
import MojoToolchain.Shell.Run
import MojoToolchain.Shell.Signal
import MojoToolchain.Shell.Start
import MojoToolchain.Shell.State
import MojoToolchain.Shell.Streams
import MojoToolchain.Shell.Syntax
import MojoToolchain.Shell.System
import MojoToolchain.Shell.Utilities
import MojoToolchain.Shell.Utility.Amount
import MojoToolchain.Shell.Utility.Basic
import MojoToolchain.Shell.Utility.Calculation
import MojoToolchain.Shell.Utility.Calendar
import MojoToolchain.Shell.Utility.Characters
import MojoToolchain.Shell.Utility.Checksum
import MojoToolchain.Shell.Utility.Collation
import MojoToolchain.Shell.Utility.Columns
import MojoToolchain.Shell.Utility.Control
import MojoToolchain.Shell.Utility.Copying
import MojoToolchain.Shell.Utility.Count
import MojoToolchain.Shell.Utility.Dump
import MojoToolchain.Shell.Utility.Editing
import MojoToolchain.Shell.Utility.Extract
import MojoToolchain.Shell.Utility.File
import MojoToolchain.Shell.Utility.Filter
import MojoToolchain.Shell.Utility.Format
import MojoToolchain.Shell.Utility.Job
import MojoToolchain.Shell.Utility.Letters
import MojoToolchain.Shell.Utility.Likeness
import MojoToolchain.Shell.Utility.Listing
import MojoToolchain.Shell.Utility.Naming
import MojoToolchain.Shell.Utility.Order
import MojoToolchain.Shell.Utility.Removal
import MojoToolchain.Shell.Utility.Search
import MojoToolchain.Shell.Utility.Surroundings
import MojoToolchain.Shell.Utility.Test
import MojoToolchain.Shell.Utility.Waiting
import MojoToolchain.Shell.Utility.Writing
import MojoToolchain.Text.Blank
import MojoToolchain.Text.Case
import MojoToolchain.Text.DecimalDigit
import MojoToolchain.Text.Quoted
import MojoToolchain.Text.Ranges
import MojoToolchain.Text.Shown
import MojoToolchain.Text.Substring
import MojoToolchain.Text.Utf8
import MojoToolchain.Text.WordCharacter
import MojoToolchain.Text.Words
import MojoToolchain.ToolError
import MojoToolchain.Version
