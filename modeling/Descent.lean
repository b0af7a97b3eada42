import Descent.Failure.Display
import Descent.Failure.Session
import Descent.Grammar.Revision
import Descent.Session
import Descent.Value.Test
import Descent.Proofs.Session
import Descent.Proofs.Grammar.Adequacy
import Descent.Proofs.Grammar.Alike
import Descent.Proofs.Grammar.Anchoring
import Descent.Proofs.Grammar.Balanced
import Descent.Proofs.Grammar.Calculator
import Descent.Proofs.Grammar.Chain
import Descent.Proofs.Grammar.Context
import Descent.Proofs.Grammar.Desugaring
import Descent.Proofs.Grammar.Match
import Descent.Proofs.Grammar.Message
import Descent.Proofs.Grammar.Regrouping
import Descent.Proofs.Grammar.Repetition
import Descent.Proofs.Grammar.RightRecursion
import Descent.Proofs.Grammar.Termination
import Descent.Proofs.Grammar.Spelling
import Descent.Proofs.Grammar.Entries
import Descent.Proofs.Grammar.Safety
import Descent.Proofs.Grammar.Spans
import Descent.Proofs.Grammar.Trace
import Descent.Proofs.Pattern
import Descent.Proofs.Regex.Brackets
import Descent.Proofs.Grammar.Factoring
import Descent.Proofs.Grammar.Literal
import Descent.Proofs.Grammar.Longest
import Descent.Proofs.Grammar.Tiling
import Descent.Proofs.Location
import Descent.Proofs.Failure.Display
import Descent.Proofs.Regex.Closing
import Descent.Proofs.Regex.Grouping
import Descent.Proofs.Regex.Anchor
import Descent.Proofs.Precompiled
