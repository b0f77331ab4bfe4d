import LinearSystems.Decimal.Binary64
import LinearSystems.Decimal.Notation
import LinearSystems.Decimal.Numeral
import LinearSystems.Decimal.Shortest
import LinearSystems.Display.Arrays
import LinearSystems.Display.Messages
import LinearSystems.Display.Parametric
import LinearSystems.Display.Piece
import LinearSystems.Display.Summary
import LinearSystems.Elimination.Pivots
import LinearSystems.Elimination.Reduction
import LinearSystems.Elimination.Tableau
import LinearSystems.Fault
import LinearSystems.Grid
import LinearSystems.LinearEquation
import LinearSystems.LinearSystem
import LinearSystems.Mat
import LinearSystems.Object
import LinearSystems.Parametrization
import LinearSystems.Position
import LinearSystems.Scalar
import LinearSystems.Session.Basic
import LinearSystems.Session.Calls
import LinearSystems.Solution
import LinearSystems.Stopwatch.Basic
import LinearSystems.Stopwatch.Bench
import LinearSystems.Tensor.Basic
import LinearSystems.Tensor.Fitting
import LinearSystems.Tensor.Selection
import LinearSystems.Text.CharClass
import LinearSystems.Text.Layout
import LinearSystems.Text.Quoted
import LinearSystems.Tolerance
import LinearSystems.Value.Arguments
import LinearSystems.Value.Arithmetic
import LinearSystems.Value.Array
import LinearSystems.Value.Basic
import LinearSystems.Value.Bulk
import LinearSystems.Value.Checks
import LinearSystems.Value.Comparison
import LinearSystems.Value.Construct
import LinearSystems.Value.ElementType
import LinearSystems.Value.Elimination
import LinearSystems.Value.Equality
import LinearSystems.Value.Failure
import LinearSystems.Value.Fields
import LinearSystems.Value.Format
import LinearSystems.Value.Index
import LinearSystems.Value.Loose
import LinearSystems.Value.Number
import LinearSystems.Value.Operands
import LinearSystems.Value.Operations
import LinearSystems.Value.Pivots
import LinearSystems.Value.Refusal
import LinearSystems.Value.Sequence
import LinearSystems.Value.Signature
import LinearSystems.Value.Sort
import LinearSystems.Value.Steps
import LinearSystems.Value.Text
import LinearSystems.Vec
import LinearSystems.Proofs.Exact
import LinearSystems.Proofs.FloatingPoint
import LinearSystems.Proofs.Elimination.Lines
import LinearSystems.Proofs.Elimination.Search
import LinearSystems.Proofs.Elimination.Triangular
import LinearSystems.Proofs.Elimination.Staircase
import LinearSystems.Proofs.Elimination.Vanishing
import LinearSystems.Proofs.Elimination.Passes
import LinearSystems.Proofs.Elimination.Echelon
import LinearSystems.Proofs.Elimination.ReducedForm
import LinearSystems.Proofs.Elimination.Residue
import LinearSystems.Proofs.Elimination.RankTest
import LinearSystems.Proofs.Elimination.RowSpace
import LinearSystems.Proofs.Elimination.Solutions
import LinearSystems.Proofs.Elimination.SmallTolerance
import LinearSystems.Proofs.Elimination.ReducedSystem
import LinearSystems.Proofs.Elimination.Verdict
import LinearSystems.Proofs.Elimination.Canonical
import LinearSystems.Proofs.Elimination.Residuals
import LinearSystems.Proofs.Elimination.SmallPivots
import LinearSystems.Proofs.Elimination.Rescan
import LinearSystems.Proofs.Parametrization.NullSpace
import LinearSystems.Proofs.Parametrization.Points
import LinearSystems.Proofs.Elimination.PivotGuard
import LinearSystems.Proofs.Elimination.Columns
import LinearSystems.Proofs.Elimination.RowSteps
import LinearSystems.Proofs.Elimination.Growth
import LinearSystems.Proofs.Elimination.Overflow
import LinearSystems.Proofs.Elimination.Noninterference
import LinearSystems.Proofs.Construction
import LinearSystems.Proofs.Elimination.Homogeneous
import LinearSystems.Proofs.Elimination.RepeatedEquation
import LinearSystems.Proofs.WellFormed
import LinearSystems.Proofs.Routes
import LinearSystems.Proofs.Stopwatch.Histories
import LinearSystems.Proofs.Stopwatch.Listing
import LinearSystems.Proofs.Escapes.Readings
import LinearSystems.Proofs.Escapes.Texts
import LinearSystems.Proofs.Escapes.Constructors
import LinearSystems.Proofs.Session.Results
import LinearSystems.Proofs.Session.Embedding
import LinearSystems.Proofs.Session.Objects
import LinearSystems.Proofs.Session.Parts
import LinearSystems.Proofs.Session.Makers
import LinearSystems.Proofs.Session.Loose
import LinearSystems.Proofs.Session.Calls
import LinearSystems.Proofs.Session.Runs
import LinearSystems.Proofs.Session.Tolerances
import LinearSystems.Proofs.FloatingPoint.Order
import LinearSystems.Proofs.Comparison
import LinearSystems.Proofs.Parametrization.ExactReading
import LinearSystems.Proofs.Parametrization.FreeVariables
import LinearSystems.Proofs.RealNumbers
import LinearSystems.Proofs.Geometry.Operations
import LinearSystems.Proofs.Geometry.Parallel
import LinearSystems.Proofs.Geometry.Coincidence
import LinearSystems.Proofs.Geometry.Decomposition
import LinearSystems.Proofs.FloatingPoint.Nearest
import LinearSystems.Proofs.FloatingPoint.Scaling
import LinearSystems.Proofs.FloatingPoint.ScaledFloats
import LinearSystems.Proofs.Geometry.Scaling
import LinearSystems.Proofs.Products
import LinearSystems.Proofs.Satisfaction
import LinearSystems.Proofs.Decimal.Numerals
import LinearSystems.Proofs.Display.Cells
import LinearSystems.Proofs.Display.Lines
import LinearSystems.Proofs.Display.Parametric
import LinearSystems.Proofs.Display.Placement
import LinearSystems.Proofs.Decimal.Texts
import LinearSystems.Proofs.Display.Tables
import LinearSystems.Proofs.Display.Columns
import LinearSystems.Proofs.Display.Pieces
import LinearSystems.Proofs.Display.NegativeZeros
import LinearSystems.Proofs.FloatingPoint.Error
import LinearSystems.Proofs.Geometry.BasePoint
import LinearSystems.Proofs.Pivots.Greedy
import LinearSystems.Proofs.Pivots.Arrays
import LinearSystems.Proofs.Pivots.Walks
