import ProofRelay.Chain.Head
import ProofRelay.CommandLine.Arguments
import ProofRelay.CommandLine.Commands
import ProofRelay.CommandLine.Console
import ProofRelay.CommandLine.Drawing
import ProofRelay.CommandLine.Frontend
import ProofRelay.CommandLine.Pages
import ProofRelay.CommandLine.Parameters
import ProofRelay.CommandLine.Run
import ProofRelay.CommandLine.Screen
import ProofRelay.CommandLine.Summary
import ProofRelay.Decimal.Binary64
import ProofRelay.Decimal.Digits
import ProofRelay.Decimal.Reading
import ProofRelay.Decimal.Text
import ProofRelay.Fault
import ProofRelay.Files.Path
import ProofRelay.Files.Tree
import ProofRelay.Job.Basic
import ProofRelay.Job.Run
import ProofRelay.Json.Access
import ProofRelay.Json.Basic
import ProofRelay.Json.Compare
import ProofRelay.Json.Display
import ProofRelay.Json.Equality
import ProofRelay.Json.Number
import ProofRelay.Json.Printer
import ProofRelay.Json.Reader
import ProofRelay.Main
import ProofRelay.Network.Client
import ProofRelay.Network.Payload
import ProofRelay.Plan.Basic
import ProofRelay.Plan.Build
import ProofRelay.Plan.Reading
import ProofRelay.Plan.Validate
import ProofRelay.Poll.Policy
import ProofRelay.Poll.Stop
import ProofRelay.Poll.Verdict
import ProofRelay.Poll.Wait
import ProofRelay.Proofs.CommandLine.Arguments
import ProofRelay.Proofs.CommandLine.Credentials
import ProofRelay.Proofs.CommandLine.Frontend
import ProofRelay.Proofs.CommandLine.Output
import ProofRelay.Proofs.CommandLine.Plan
import ProofRelay.Proofs.CommandLine.Result
import ProofRelay.Proofs.CommandLine.RunBlocks
import ProofRelay.Proofs.CommandLine.RunCourse
import ProofRelay.Proofs.CommandLine.RunStatus
import ProofRelay.Proofs.CommandLine.RunTask
import ProofRelay.Proofs.Decimal.Products
import ProofRelay.Proofs.Decimal.Reading
import ProofRelay.Proofs.Files.Contents
import ProofRelay.Proofs.Job.Faults
import ProofRelay.Proofs.Job.Freshness
import ProofRelay.Proofs.Job.Identity
import ProofRelay.Proofs.Job.InStep
import ProofRelay.Proofs.Job.Ledger
import ProofRelay.Proofs.Job.PlanStage
import ProofRelay.Proofs.Job.Planning
import ProofRelay.Proofs.Job.ResultFile
import ProofRelay.Proofs.Job.Schedule
import ProofRelay.Proofs.Json.Names
import ProofRelay.Proofs.Network.Reassembly
import ProofRelay.Proofs.Network.Refusal
import ProofRelay.Proofs.Plan.Codec
import ProofRelay.Proofs.Poll.Cancellation
import ProofRelay.Proofs.Poll.Deadline
import ProofRelay.Proofs.Poll.Growth
import ProofRelay.Proofs.Poll.Outcome
import ProofRelay.Proofs.Poll.UsableSchedule
import ProofRelay.Proofs.Poll.Vigil
import ProofRelay.Proofs.Rounds.Durability
import ProofRelay.Proofs.Rounds.Visits
import ProofRelay.Proofs.Settings.Blanks
import ProofRelay.Proofs.Settings.KeyPaths
import ProofRelay.Proofs.Settings.Loading
import ProofRelay.Proofs.Settings.Precedence
import ProofRelay.Proofs.Settings.Usable
import ProofRelay.Proofs.Settings.Workspace
import ProofRelay.Proofs.Setup.Directories
import ProofRelay.Proofs.Setup.Soundness
import ProofRelay.Proofs.Shell.Launch
import ProofRelay.Proofs.Storage.VirtualHost
import ProofRelay.Proofs.Text.Labels
import ProofRelay.Proofs.Witness.Checksum
import ProofRelay.Proofs.World.Conduct
import ProofRelay.Proofs.World.Faults
import ProofRelay.Proofs.World.InStep
import ProofRelay.Proofs.World.Masking
import ProofRelay.Rehearsal.Scene
import ProofRelay.Rehearsal.Script
import ProofRelay.Rounds
import ProofRelay.Settings.Basic
import ProofRelay.Settings.Defaults
import ProofRelay.Settings.Load
import ProofRelay.Settings.Merge
import ProofRelay.Settings.Reading
import ProofRelay.Setup.Check
import ProofRelay.Setup.Report
import ProofRelay.Shell.Arithmetic
import ProofRelay.Shell.Builtins
import ProofRelay.Shell.Condition
import ProofRelay.Shell.Expansion
import ProofRelay.Shell.Expression
import ProofRelay.Shell.Filters
import ProofRelay.Shell.Format
import ProofRelay.Shell.Grammar
import ProofRelay.Shell.Launch
import ProofRelay.Shell.Pattern
import ProofRelay.Shell.Programs
import ProofRelay.Shell.Run
import ProofRelay.Shell.State
import ProofRelay.Shell.Syntax
import ProofRelay.Shell.Tokens
import ProofRelay.Shell.Utilities
import ProofRelay.Storage.Address
import ProofRelay.Storage.Endpoint
import ProofRelay.Storage.ObjectUrl
import ProofRelay.Storage.Publish
import ProofRelay.Text.Base64
import ProofRelay.Text.Blank
import ProofRelay.Text.CodePoints
import ProofRelay.Text.Digest
import ProofRelay.Text.DigitTable
import ProofRelay.Text.Folding
import ProofRelay.Text.Hex
import ProofRelay.Text.Label
import ProofRelay.Text.Lines
import ProofRelay.Text.Percent
import ProofRelay.Text.PrintableTable
import ProofRelay.Text.Quoted
import ProofRelay.Text.Similarity
import ProofRelay.Text.Styling
import ProofRelay.Text.UpperTable
import ProofRelay.Text.Utf8
import ProofRelay.Text.WordTable
import ProofRelay.Witness.Capture
import ProofRelay.Witness.Checksum
import ProofRelay.World.Activity
import ProofRelay.World.Basic
