import CacheWarden.Cache.Descriptor
import CacheWarden.Cache.Form
import CacheWarden.Cache.Listing
import CacheWarden.Calendar.Date
import CacheWarden.Calendar.Moment
import CacheWarden.Checker
import CacheWarden.Command.Basic
import CacheWarden.Command.Launcher
import CacheWarden.Command.Operation
import CacheWarden.Command.Verdict
import CacheWarden.CommandLine.Answer
import CacheWarden.CommandLine.Grammar
import CacheWarden.CommandLine.Invocation
import CacheWarden.CommandLine.LogText
import CacheWarden.CommandLine.Program
import CacheWarden.CommandLine.Reader
import CacheWarden.CommandLine.Screen
import CacheWarden.Config.Basic
import CacheWarden.Config.Document
import CacheWarden.Config.Load
import CacheWarden.Config.Read
import CacheWarden.Decimal.Binary64
import CacheWarden.Failure
import CacheWarden.Files.Path
import CacheWarden.Files.Tree
import CacheWarden.Json.Printer
import CacheWarden.Json.Value
import CacheWarden.LaunchOption
import CacheWarden.Log
import CacheWarden.Main
import CacheWarden.Pattern.Expression
import CacheWarden.Pattern.Meaning
import CacheWarden.Pattern.Message
import CacheWarden.Pattern.Property
import CacheWarden.Pattern.Reader
import CacheWarden.Pattern.Regex
import CacheWarden.Prompt
import CacheWarden.Proofs.Cache.Accepted
import CacheWarden.Proofs.Cache.AddressMode
import CacheWarden.Proofs.Cache.Handles
import CacheWarden.Proofs.Cache.Listing
import CacheWarden.Proofs.Cache.Printed
import CacheWarden.Proofs.Cache.Reading
import CacheWarden.Proofs.Cache.Renaming
import CacheWarden.Proofs.Cache.RoundTrip
import CacheWarden.Proofs.Cache.Row
import CacheWarden.Proofs.Calendar.Listed
import CacheWarden.Proofs.Checker.Gate
import CacheWarden.Proofs.Checker.Isolation
import CacheWarden.Proofs.Checker.LauncherCalls
import CacheWarden.Proofs.Checker.Lifetime
import CacheWarden.Proofs.Checker.Recording
import CacheWarden.Proofs.Checker.Steps
import CacheWarden.Proofs.Checker.Tally
import CacheWarden.Proofs.Checker.Transcript
import CacheWarden.Proofs.Command.LevelTag
import CacheWarden.Proofs.Command.Location
import CacheWarden.Proofs.Command.Operation
import CacheWarden.Proofs.Command.Output
import CacheWarden.Proofs.Command.Run
import CacheWarden.Proofs.Command.Streams
import CacheWarden.Proofs.Command.Template
import CacheWarden.Proofs.Command.Verdict
import CacheWarden.Proofs.CommandLine.ExitCode
import CacheWarden.Proofs.CommandLine.Listed
import CacheWarden.Proofs.CommandLine.ListedCount
import CacheWarden.Proofs.Config.CacheFiles
import CacheWarden.Proofs.Config.Document
import CacheWarden.Proofs.Config.Fields
import CacheWarden.Proofs.Config.Read
import CacheWarden.Proofs.Config.TableNames
import CacheWarden.Proofs.Files.Append
import CacheWarden.Proofs.Files.Way
import CacheWarden.Proofs.Json.Spelling
import CacheWarden.Proofs.LaunchOption.Filling
import CacheWarden.Proofs.LaunchOption.Template
import CacheWarden.Proofs.Pattern.Accepts
import CacheWarden.Proofs.Pattern.Message
import CacheWarden.Proofs.Properties.Decoding
import CacheWarden.Proofs.Properties.Entry
import CacheWarden.Proofs.Properties.Escape
import CacheWarden.Proofs.Properties.Folding
import CacheWarden.Proofs.Properties.Joining
import CacheWarden.Proofs.Properties.RoundTrip
import CacheWarden.Proofs.Reaper.Eligible
import CacheWarden.Proofs.Reaper.Outcomes
import CacheWarden.Proofs.Reaper.Plan
import CacheWarden.Proofs.Reaper.Rounds
import CacheWarden.Proofs.Reaper.SinglePasses
import CacheWarden.Proofs.Record
import CacheWarden.Proofs.Registry.Declared
import CacheWarden.Proofs.Registry.Load
import CacheWarden.Proofs.Session.Result
import CacheWarden.Proofs.Store.Outcome
import CacheWarden.Proofs.Store.Report
import CacheWarden.Proofs.Store.Runtime
import CacheWarden.Proofs.Store.Traced
import CacheWarden.Proofs.Table
import CacheWarden.Proofs.Text.CharProperty
import CacheWarden.Proofs.Text.Lines
import CacheWarden.Proofs.Text.Numeral
import CacheWarden.Proofs.Text.Occurrence
import CacheWarden.Proofs.Text.Replace
import CacheWarden.Proofs.Text.Scan
import CacheWarden.Proofs.Text.Split
import CacheWarden.Proofs.Text.Trim
import CacheWarden.Proofs.Text.Words
import CacheWarden.Proofs.Toml.Document
import CacheWarden.Proofs.Toml.Ordered
import CacheWarden.Proofs.Toml.Text
import CacheWarden.Proofs.Toml.Value
import CacheWarden.Proofs.Verification.Clean
import CacheWarden.Proofs.Verification.Diagnosis
import CacheWarden.Proofs.Workload.Ownership
import CacheWarden.Proofs.Workload.RoundTrip
import CacheWarden.Properties
import CacheWarden.Reaper.Ledger
import CacheWarden.Reaper.Mode
import CacheWarden.Reaper.Pass
import CacheWarden.Record
import CacheWarden.Registry
import CacheWarden.Setting
import CacheWarden.Store.Basic
import CacheWarden.Store.Memory
import CacheWarden.Store.Runtime
import CacheWarden.Table
import CacheWarden.Text.Age
import CacheWarden.Text.Blank
import CacheWarden.Text.Break.Grapheme
import CacheWarden.Text.Break.Sentence
import CacheWarden.Text.Break.Word
import CacheWarden.Text.CaseFold
import CacheWarden.Text.Category
import CacheWarden.Text.CharProperty
import CacheWarden.Text.CharProperty.Casing
import CacheWarden.Text.CharProperty.Emoji
import CacheWarden.Text.CharProperty.Identifier
import CacheWarden.Text.CharProperty.Ideograph
import CacheWarden.Text.CharProperty.Invisible
import CacheWarden.Text.CharProperty.Mark
import CacheWarden.Text.CharProperty.Mathematics
import CacheWarden.Text.CharProperty.Punctuation
import CacheWarden.Text.CharSet
import CacheWarden.Text.Lines
import CacheWarden.Text.NamedSet
import CacheWarden.Text.Numeral
import CacheWarden.Text.Quoted
import CacheWarden.Text.Run
import CacheWarden.Text.Scan
import CacheWarden.Text.Script
import CacheWarden.Text.ScriptExtension
import CacheWarden.Text.Search
import CacheWarden.Text.Utf8
import CacheWarden.Toml.Printer
import CacheWarden.Toml.Reader
import CacheWarden.Toml.Scalar
import CacheWarden.Toml.Section
import CacheWarden.Toml.Value
import CacheWarden.Verification
import CacheWarden.Workload
