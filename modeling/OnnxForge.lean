import OnnxForge.Binding.Call
import OnnxForge.Main
import OnnxForge.Message.Encode
import OnnxForge.Proofs.Build.ExecutionOrder
import OnnxForge.Proofs.Network.Expressions
import OnnxForge.Proofs.Network.Identifiers
import OnnxForge.Proofs.Network.Uses
import OnnxForge.Tensor.Excerpt
import OnnxForge.Tensor.Reversal
import OnnxForge.WorkingDirectory
import OnnxForge.Proofs.Network.Reading
import OnnxForge.Proofs.Network.Plan
import OnnxForge.Proofs.Network.Compilation
import OnnxForge.Proofs.Network.Moves
import OnnxForge.Proofs.Network.Closure
import OnnxForge.Proofs.Network.Axes
import OnnxForge.Proofs.Network.Ranks
import OnnxForge.Proofs.Network.Typing
import OnnxForge.Proofs.Network.Declared
import OnnxForge.Proofs.Text.Utf8
import OnnxForge.Proofs.Wire
import OnnxForge.Proofs.Message.Fields
import OnnxForge.Proofs.Message.Nesting
import OnnxForge.Proofs.Message.RoundTrip
import OnnxForge.Proofs.Build.Record
import OnnxForge.Proofs.Graph.RoundTrip
import OnnxForge.Proofs.Graph.Declarations
import OnnxForge.Proofs.Message.Limits
import OnnxForge.Proofs.Build.Acceptance
import OnnxForge.Proofs.Build.Imports
import OnnxForge.Proofs.Build.Saving
import OnnxForge.Proofs.Catalogue
import OnnxForge.Proofs.Binding.Positions
import OnnxForge.Proofs.Binding.Dispatch
import OnnxForge.Proofs.Build.Resolution
import OnnxForge.Proofs.Binding.Files
import OnnxForge.Proofs.Binding.Names
import OnnxForge.Proofs.Network.Naming
import OnnxForge.Proofs.Network.Fields
import OnnxForge.Proofs.Network.Code.Closed
import OnnxForge.Proofs.Message.Files
import OnnxForge.Proofs.Wire.Unknown
import OnnxForge.Proofs.Message.Schema
import OnnxForge.Proofs.Message.Compatibility
import OnnxForge.Proofs.Text.Quoted
import OnnxForge.Proofs.Path
import OnnxForge.Proofs.Grid
import OnnxForge.Proofs.Network.Values
import OnnxForge.Proofs.Network.Sums
import OnnxForge.Proofs.Network.Slices
import OnnxForge.Proofs.Network.Lookups
import OnnxForge.Proofs.Network.Files
import OnnxForge.Proofs.Graph.Tensors
import OnnxForge.Proofs.Catalogue.Lists
import OnnxForge.Proofs.Catalogue.Conformance
import OnnxForge.Proofs.Build.Conformity
import OnnxForge.Proofs.Network.Kinds
import OnnxForge.Proofs.Graph.Octets
import OnnxForge.Proofs.Graph.Operations
import OnnxForge.Proofs.Build.Sizes
import OnnxForge.Proofs.Binding.Splits
import OnnxForge.Proofs.Build.Cursor
import OnnxForge.Proofs.Binding.Parameters
import OnnxForge.Proofs.Tensor.Reversal
import OnnxForge.Proofs.Network.Literals
import OnnxForge.Proofs.Binding.Acceptance
import OnnxForge.Proofs.Tensor.Excerpt
