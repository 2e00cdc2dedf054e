import LetCalc.Console
import LetCalc.Proofs.RoundTrip
import LetCalc.Proofs.Containment
import LetCalc.Proofs.Batching
import LetCalc.Proofs.Resumption
import LetCalc.Proofs.Histories
import LetCalc.Proofs.Reachable
import LetCalc.Proofs.Registered
import LetCalc.Proofs.Reports
import LetCalc.Proofs.Overwrites
import LetCalc.Proofs.Headers
import LetCalc.Proofs.Actions
import LetCalc.Proofs.Conversion
import LetCalc.Proofs.LeftFactored
import LetCalc.Proofs.QuotedLiteral
import LetCalc.Proofs.SelfContained
import LetCalc.Proofs.Truncation
import LetCalc.Proofs.Atomicity
import LetCalc.Proofs.LongestMatch
import LetCalc.Proofs.LastWrite
import LetCalc.Proofs.Unstyled
import LetCalc.Proofs.Excerpt
import LetCalc.Proofs.Formatting
import LetCalc.Proofs.Pieces
import LetCalc.Proofs.Interpolation
