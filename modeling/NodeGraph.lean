import NodeGraph.Binary.Format
import NodeGraph.Binary.Integral
import NodeGraph.Binary.Round
import NodeGraph.Curve.Basic
import NodeGraph.Curve.Interpolation
import NodeGraph.Curve.Ramp
import NodeGraph.Curve.Search
import NodeGraph.Decimal.Layout
import NodeGraph.Decimal.Read
import NodeGraph.Decimal.Shortest
import NodeGraph.Error
import NodeGraph.Event
import NodeGraph.Number
import NodeGraph.Field.Read
import NodeGraph.Field.Write
import NodeGraph.Graph.Basic
import NodeGraph.Graph.Compile
import NodeGraph.Graph.Types
import NodeGraph.Graph.Describe
import NodeGraph.Graph.Diagnostic
import NodeGraph.Graph.Duplicate
import NodeGraph.Graph.Host
import NodeGraph.Graph.Io
import NodeGraph.Graph.Slots
import NodeGraph.Graph.Text
import NodeGraph.Link
import NodeGraph.Main
import NodeGraph.Node.Basic
import NodeGraph.Node.Constant
import NodeGraph.Node.Declare
import NodeGraph.Node.Fields
import NodeGraph.Node.Kind
import NodeGraph.Noise.Perlin
import NodeGraph.Noise.Stream
import NodeGraph.Op.Color
import NodeGraph.Op.Logic
import NodeGraph.Op.Math
import NodeGraph.Op.Quaternion
import NodeGraph.Op.Random
import NodeGraph.Op.Swizzle
import NodeGraph.Op.Time
import NodeGraph.Op.Vector
import NodeGraph.Program.Build
import NodeGraph.Program.Compute
import NodeGraph.Program.Eval
import NodeGraph.Program.Plan
import NodeGraph.Proofs.Acyclicity
import NodeGraph.Proofs.CompiledOutputs
import NodeGraph.Proofs.CompiledTyping
import NodeGraph.Proofs.FailedEdits
import NodeGraph.Proofs.LinkIntegrity
import NodeGraph.Proofs.RepeatedRebuild
import NodeGraph.Proofs.RepeatedSession
import NodeGraph.Proofs.TypePasses
import NodeGraph.Value.Basic
import NodeGraph.Report
import NodeGraph.Ron.Error
import NodeGraph.Ron.Literal
import NodeGraph.Ron.Read
import NodeGraph.Ron.Scan
import NodeGraph.Ron.Write
import NodeGraph.Runner.Files
import NodeGraph.Runner.Log
import NodeGraph.Runner.Run
import NodeGraph.Runner.Settings
import NodeGraph.Text.Basic
import NodeGraph.Text.GraphemeExtend
import NodeGraph.Text.Identifier
import NodeGraph.Text.Alphabetic
import NodeGraph.Text.Pattern
import NodeGraph.Text.Printable
import NodeGraph.Value.Type
import NodeGraph.Value.Typing
import NodeGraph.Vector.Rotation
import NodeGraph.Proofs.DefaultChoice
import NodeGraph.Proofs.SlotSync
import NodeGraph.Proofs.Duplication
import NodeGraph.Proofs.Upstream
import NodeGraph.Proofs.VisitOrder
import NodeGraph.Proofs.PassTermination
import NodeGraph.Proofs.FloatOrder
import NodeGraph.Proofs.FloatSigns
import NodeGraph.Proofs.CurveKeys
import NodeGraph.Proofs.Sampling
import NodeGraph.Proofs.NearestPower
import NodeGraph.Proofs.Selections
import NodeGraph.Proofs.Ticks
