import Monkey.Main
import Monkey.Scope.Dump
import Monkey.Proofs.Parse.Boundary
import Monkey.Proofs.Parse.Climbing
import Monkey.Proofs.Parse.CorrectPrefix
import Monkey.Proofs.Parse.MatchingBrace
import Monkey.Proofs.Parse.Progress
import Monkey.Proofs.Parse.Reporting
import Monkey.Proofs.Render.Refusal
import Monkey.Proofs.Eval.Arithmetic
import Monkey.Proofs.Eval.Depth
import Monkey.Proofs.Eval.History
import Monkey.Proofs.Eval.Repetition
import Monkey.Proofs.Eval.Sequence
import Monkey.Proofs.Eval.Signals
import Monkey.Proofs.Eval.Truthful
import Monkey.Proofs.Eval.Unwinding
import Monkey.Proofs.Eval.ValueEquality
import Monkey.Proofs.Token.Joining
import Monkey.Proofs.Token.Stream
import Monkey.Proofs.Token.Tiling
import Monkey.Proofs.Token.Respelling
import Monkey.Proofs.Render.Unambiguous
import Monkey.Proofs.Eval.Parameters
import Monkey.Proofs.Inspect.Integer
import Monkey.Proofs.Inspect.Function
import Monkey.Proofs.Token.Dump
