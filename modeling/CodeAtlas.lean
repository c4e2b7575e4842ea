import CodeAtlas.Analysis
import CodeAtlas.Binary
import CodeAtlas.Bitness
import CodeAtlas.Bytes
import CodeAtlas.Command.Options
import CodeAtlas.Command.Parse
import CodeAtlas.Command.Run
import CodeAtlas.FlowGraph.Basic
import CodeAtlas.FlowGraph.Build
import CodeAtlas.FlowGraph.Walk
import CodeAtlas.Image.Export
import CodeAtlas.Image.Header
import CodeAtlas.Image.Import
import CodeAtlas.InputError
import CodeAtlas.Instruction
import CodeAtlas.Journal
import CodeAtlas.Json.Basic
import CodeAtlas.Json.Parser
import CodeAtlas.Json.Printer
import CodeAtlas.Json.Token
import CodeAtlas.Listing
import CodeAtlas.Listing.Decode
import CodeAtlas.Main
import CodeAtlas.Proofs.Analysis
import CodeAtlas.Proofs.Analysis.Isolation
import CodeAtlas.Proofs.Analysis.Tally
import CodeAtlas.Proofs.Buffer
import CodeAtlas.Proofs.ControlFlow
import CodeAtlas.Proofs.FlowGraph.Distance
import CodeAtlas.Proofs.FlowGraph.Edge
import CodeAtlas.Proofs.FlowGraph.Lookup
import CodeAtlas.Proofs.FlowGraph.Partition
import CodeAtlas.Proofs.FlowGraph.Preorder
import CodeAtlas.Proofs.FlowGraph.Reach
import CodeAtlas.Proofs.FlowGraph.Span
import CodeAtlas.Proofs.FlowGraph.Traversal
import CodeAtlas.Proofs.FlowGraph.Walk
import CodeAtlas.Proofs.FlowGraph.WellFormed
import CodeAtlas.Proofs.Image.ExportTable
import CodeAtlas.Proofs.Image.Header
import CodeAtlas.Proofs.Image.ImportLayout
import CodeAtlas.Proofs.Image.Reuse
import CodeAtlas.Proofs.Image.Truncation
import CodeAtlas.Proofs.Json.RoundTrip
import CodeAtlas.Proofs.Json.Token
import CodeAtlas.Proofs.Listing
import CodeAtlas.Proofs.Listing.Alignment
import CodeAtlas.Proofs.Listing.Targets
import CodeAtlas.Proofs.Loading
import CodeAtlas.Proofs.Precedence
import CodeAtlas.Proofs.Reference
import CodeAtlas.Proofs.Reference.Agreement
import CodeAtlas.Proofs.Reference.Transpose
import CodeAtlas.Proofs.Report.Codec
import CodeAtlas.Proofs.Routine
import CodeAtlas.Proofs.Routine.Discovery
import CodeAtlas.Proofs.Routine.Nomination
import CodeAtlas.Proofs.Routine.Size
import CodeAtlas.Proofs.Run
import CodeAtlas.Proofs.Run.Pass
import CodeAtlas.Proofs.Scan
import CodeAtlas.Proofs.Scan.Sleds
import CodeAtlas.Proofs.Scan.Strings
import CodeAtlas.Proofs.Sequence
import CodeAtlas.Proofs.Settings.Interpolation
import CodeAtlas.Proofs.Settings.Template
import CodeAtlas.Proofs.Signature
import CodeAtlas.Proofs.Signature.Grammar
import CodeAtlas.Proofs.Sweep
import CodeAtlas.Proofs.Sweep.Linear
import CodeAtlas.Proofs.Symbol
import CodeAtlas.Proofs.Symbol.Agreement
import CodeAtlas.Proofs.Symbol.Annotation
import CodeAtlas.Proofs.Table
import CodeAtlas.Proofs.Text.Address
import CodeAtlas.Proofs.Text.Numeral
import CodeAtlas.Proofs.Text.Words
import CodeAtlas.Reference
import CodeAtlas.Report.Basic
import CodeAtlas.Report.Decode
import CodeAtlas.Report.Encode
import CodeAtlas.Routine
import CodeAtlas.Scan
import CodeAtlas.Screen
import CodeAtlas.Sequence
import CodeAtlas.Settings.Basic
import CodeAtlas.Settings.Load
import CodeAtlas.Settings.Template
import CodeAtlas.Settings.Validate
import CodeAtlas.Sha256
import CodeAtlas.Signature
import CodeAtlas.Sweep
import CodeAtlas.Symbol
import CodeAtlas.Table
import CodeAtlas.Text.Basic
import CodeAtlas.Text.Case
import CodeAtlas.Text.Numeral
import CodeAtlas.Text.Quoted
import CodeAtlas.Text.WordChar
import CodeAtlas.Yaml.Block
import CodeAtlas.Yaml.Flow
import CodeAtlas.Yaml.Scalar
