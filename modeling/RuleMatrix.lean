import RuleMatrix.Main
import RuleMatrix.Proofs.CommandLine
import RuleMatrix.Proofs.Comparison.Affixes
import RuleMatrix.Proofs.Comparison.Interchange
import RuleMatrix.Proofs.Comparison.Unadorned
import RuleMatrix.Proofs.Config.Admissible
import RuleMatrix.Proofs.Config.Building
import RuleMatrix.Proofs.Config.DepthLimit
import RuleMatrix.Proofs.Config.FirstError
import RuleMatrix.Proofs.Config.TextLimit
import RuleMatrix.Proofs.Config.Unread
import RuleMatrix.Proofs.Context.Overwriting
import RuleMatrix.Proofs.Environment.Contents
import RuleMatrix.Proofs.Evaluation.Composition
import RuleMatrix.Proofs.Evaluation.Monotone
import RuleMatrix.Proofs.Evaluation.Report
import RuleMatrix.Proofs.Json.Respelling
import RuleMatrix.Proofs.Matrix.Repeats
import RuleMatrix.Proofs.StepOutput.Delimiter
import RuleMatrix.Proofs.Text.Lossy
