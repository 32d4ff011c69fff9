import PatternExpr.Diagnostic.Emitter
import PatternExpr.Proofs.Data.Reading
import PatternExpr.Proofs.Diagnostic.Output
import PatternExpr.Proofs.Diagnostic.Unambiguous
import PatternExpr.Proofs.Operation.Converse
import PatternExpr.Proofs.Operation.Division
import PatternExpr.Proofs.Operation.Equality
import PatternExpr.Proofs.Operation.RawBytes
import PatternExpr.Proofs.Operation.Refusal
import PatternExpr.Proofs.Operation.RepeatParts
import PatternExpr.Proofs.Operation.Shifts
import PatternExpr.Proofs.Operation.TextOrder
import PatternExpr.Proofs.Operation.Wrapping
import PatternExpr.Proofs.Session.Residue
import PatternExpr.Proofs.Source.Order
import PatternExpr.Proofs.Source.Window
import PatternExpr.Proofs.Tree.DepthBound
import PatternExpr.Proofs.Tree.FaultPlace
import PatternExpr.Proofs.Tree.Folding
import PatternExpr.Proofs.Tree.FrameHistory
import PatternExpr.Proofs.Tree.Joining
import PatternExpr.Proofs.Tree.Observation
import PatternExpr.Proofs.Tree.Postfix
import PatternExpr.Proofs.Tree.Reads
import PatternExpr.Proofs.Tree.Regrouping
import PatternExpr.Proofs.Tree.Soundness
import PatternExpr.Proofs.Tree.TextSize
