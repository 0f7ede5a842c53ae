import GraphScribe.Text.Lines
import GraphScribe.Text.Printable
import GraphScribe.Text.Case
import GraphScribe.Text.Folding
import GraphScribe.Number.Digit
import GraphScribe.Text.Point
import GraphScribe.Text.Quoted
import GraphScribe.Number.General
import GraphScribe.Number.Numeral
import GraphScribe.Encoding.Detect
import GraphScribe.Json.Writer
import GraphScribe.Json.Reader
import GraphScribe.Graph.Draft
import GraphScribe.Graph.Structure
import GraphScribe.Failure
import GraphScribe.Graph.Document
import GraphScribe.Identifier.Assign
import GraphScribe.Program.Source
import GraphScribe.Generator
import GraphScribe.Completion
import GraphScribe.Settings.EnvFile
import GraphScribe.Settings.LogLevel
import GraphScribe.Api.Basic
import GraphScribe.Command.FileTree
import GraphScribe.Command.Arguments
import GraphScribe.Command.Run
import GraphScribe.Main
import GraphScribe.Proofs.Outcome
import GraphScribe.Proofs.Text.Letter
import GraphScribe.Proofs.Text.Plain
import GraphScribe.Proofs.Json.Plain
import GraphScribe.Proofs.Graph.Sound
import GraphScribe.Proofs.Graph.Rules
import GraphScribe.Proofs.Graph.Acceptance
import GraphScribe.Proofs.Text.Literal
import GraphScribe.Proofs.Identifier.Shape
import GraphScribe.Proofs.Identifier.Fresh
import GraphScribe.Proofs.Program.Statement
import GraphScribe.Proofs.Program.Layout
import GraphScribe.Proofs.Program.Planning
import GraphScribe.Proofs.Program.Reader
import GraphScribe.Proofs.Program.Faithful
import GraphScribe.Proofs.Program.Wiring
import GraphScribe.Proofs.Graph.Strict
import GraphScribe.Proofs.Identifier.Reserved
import GraphScribe.Proofs.Program.Margin
import GraphScribe.Proofs.Json.Reading
import GraphScribe.Proofs.Json.Grammar
import GraphScribe.Proofs.Json.Complete
import GraphScribe.Proofs.Graph.Document
import GraphScribe.Proofs.Prompt
import GraphScribe.Proofs.Encoding.Utf8
import GraphScribe.Proofs.Json.Octets
import GraphScribe.Proofs.Graph.Refusal
import GraphScribe.Proofs.Graph.Stored
import GraphScribe.Proofs.Service
import GraphScribe.Proofs.Api.Posted
import GraphScribe.Proofs.Api.Outcomes
import GraphScribe.Proofs.Command.Reports
import GraphScribe.Proofs.Agreement
import GraphScribe.Proofs.Reimport
import GraphScribe.Proofs.Json.Size
import GraphScribe.Proofs.Graph.Editing
import GraphScribe.Proofs.Graph.Order
import GraphScribe.Proofs.Program.Idle
import GraphScribe.Proofs.Program.Renaming
import GraphScribe.Proofs.Command.FileTree
import GraphScribe.Proofs.Command.Effects
import GraphScribe.Proofs.Command.Status
import GraphScribe.Proofs.Graph.Trusted
import GraphScribe.Proofs.Delegation
import GraphScribe.Proofs.Reply
import GraphScribe.Proofs.Records
import GraphScribe.Proofs.Program.Dedent
import GraphScribe.Proofs.Program.LineEnds
import GraphScribe.Proofs.Program.Separators
import GraphScribe.Proofs.Identifier.Spelling
import GraphScribe.Proofs.Identifier.Projection
import GraphScribe.Proofs.Checklist
import GraphScribe.Proofs.Program.Dangling
import GraphScribe.Proofs.Graph.Checks
import GraphScribe.Proofs.Graph.Stages
import GraphScribe.Proofs.Graph.Offender
import GraphScribe.Proofs.Json.Limits
import GraphScribe.Proofs.Api.Malformed
import GraphScribe.Proofs.Text.Pattern
import GraphScribe.Proofs.Fence
import GraphScribe.Proofs.Program.Body
import GraphScribe.Proofs.Binary64
import GraphScribe.Proofs.Numeral
import GraphScribe.Proofs.Settings
import GraphScribe.Proofs.Generation
import GraphScribe.Proofs.Api.Origins
import GraphScribe.Proofs.Text.StringLiteral
import GraphScribe.Proofs.Program.Sealed
import GraphScribe.Proofs.Identifier.Search
import GraphScribe.Proofs.Program.Blocks
