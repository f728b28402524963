import Wayfinder.Cache
import Wayfinder.Cache.Fault
import Wayfinder.Command
import Wayfinder.Command.Arguments
import Wayfinder.Command.Run
import Wayfinder.Digest.Sha256
import Wayfinder.Draft
import Wayfinder.Failure
import Wayfinder.Files
import Wayfinder.Json.Decode
import Wayfinder.Json.Reader
import Wayfinder.Json.Value
import Wayfinder.Json.Writer
import Wayfinder.Main
import Wayfinder.Manifest
import Wayfinder.Manifest.Document
import Wayfinder.Manifest.Format
import Wayfinder.Manifest.Loading
import Wayfinder.Method
import Wayfinder.Pattern.Anchored
import Wayfinder.Pattern.Constraint
import Wayfinder.Pattern.Expansion
import Wayfinder.Pattern.Grammar
import Wayfinder.Pattern.Path
import Wayfinder.Pattern.Token
import Wayfinder.Pattern.Wildcards
import Wayfinder.Proofs.Admission
import Wayfinder.Proofs.Assembly
import Wayfinder.Proofs.Choices
import Wayfinder.Proofs.Compilation
import Wayfinder.Proofs.Composition
import Wayfinder.Proofs.Consistency
import Wayfinder.Proofs.Declaration
import Wayfinder.Proofs.Decomposition
import Wayfinder.Proofs.Faithfulness
import Wayfinder.Proofs.Files
import Wayfinder.Proofs.Freshness
import Wayfinder.Proofs.Greedy
import Wayfinder.Proofs.Json.RoundTrip
import Wayfinder.Proofs.LiteralRows
import Wayfinder.Proofs.Loading
import Wayfinder.Proofs.Opening
import Wayfinder.Proofs.Outcome
import Wayfinder.Proofs.Pattern.Binding
import Wayfinder.Proofs.Pattern.Declared
import Wayfinder.Proofs.Pattern.Expression
import Wayfinder.Proofs.Pattern.Extraction
import Wayfinder.Proofs.Pattern.Grammar
import Wayfinder.Proofs.Pattern.Layout
import Wayfinder.Proofs.Pattern.Path
import Wayfinder.Proofs.Pattern.Positional
import Wayfinder.Proofs.Pattern.Reduced
import Wayfinder.Proofs.Pattern.Validity
import Wayfinder.Proofs.Pattern.Variants
import Wayfinder.Proofs.Precedence
import Wayfinder.Proofs.Readings
import Wayfinder.Proofs.Recording
import Wayfinder.Proofs.Recovery
import Wayfinder.Proofs.Reduction
import Wayfinder.Proofs.Regex.Classes
import Wayfinder.Proofs.Regex.Endings
import Wayfinder.Proofs.Regex.Groups
import Wayfinder.Proofs.Regex.Lowering
import Wayfinder.Proofs.Regex.Memory
import Wayfinder.Proofs.Regex.Openings
import Wayfinder.Proofs.Regex.Outcomes
import Wayfinder.Proofs.Regex.Readers
import Wayfinder.Proofs.Regex.Shift
import Wayfinder.Proofs.Regex.Splice
import Wayfinder.Proofs.Regex.Splits
import Wayfinder.Proofs.Regex.Stack
import Wayfinder.Proofs.Regex.Steps
import Wayfinder.Proofs.Registration
import Wayfinder.Proofs.Renaming
import Wayfinder.Proofs.Requests
import Wayfinder.Proofs.Resolution
import Wayfinder.Proofs.Restoration
import Wayfinder.Proofs.RoundTrip
import Wayfinder.Proofs.Sealability
import Wayfinder.Proofs.Sealing
import Wayfinder.Proofs.Segments
import Wayfinder.Proofs.Serving
import Wayfinder.Proofs.Shadowing
import Wayfinder.Proofs.Slots
import Wayfinder.Proofs.Snapshot.Codec
import Wayfinder.Proofs.StepOrder
import Wayfinder.Proofs.TokenGroups
import Wayfinder.Regex.ClassParser
import Wayfinder.Regex.Compile
import Wayfinder.Regex.Escape
import Wayfinder.Regex.Expr
import Wayfinder.Regex.Fault
import Wayfinder.Regex.Lower
import Wayfinder.Regex.Match
import Wayfinder.Regex.Parser
import Wayfinder.Regex.Size
import Wayfinder.Regex.Tree
import Wayfinder.Registry
import Wayfinder.Report
import Wayfinder.Route
import Wayfinder.RouteError
import Wayfinder.Router
import Wayfinder.Service
import Wayfinder.Settings
import Wayfinder.Settings.Logging
import Wayfinder.Snapshot
import Wayfinder.Snapshot.Codec
import Wayfinder.Text.Blank
import Wayfinder.Text.Digits
import Wayfinder.Text.Quoted
import Wayfinder.Text.Split
import Wayfinder.Toml.Document
import Wayfinder.Toml.Number
import Wayfinder.Toml.Text
import Wayfinder.Unicode.Age
import Wayfinder.Unicode.ByteRows
import Wayfinder.Unicode.CaseFold
import Wayfinder.Unicode.Category
import Wayfinder.Unicode.CodeSet
import Wayfinder.Unicode.Lookup
import Wayfinder.Unicode.Property
import Wayfinder.Unicode.Script
import Wayfinder.Unicode.Segmentation
import Wayfinder.Unicode.Uppercase
import Wayfinder.Yaml.Cursor
import Wayfinder.Yaml.Node
import Wayfinder.Yaml.Scalar
import Wayfinder.Yaml.Scanner
import Wayfinder.Yaml.Token
