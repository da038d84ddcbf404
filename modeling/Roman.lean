import Roman.CommandLine.Desk
import Roman.Main
import Roman.Proofs.Grammar
import Roman.Proofs.GroupSequence
import Roman.Proofs.Lenient
import Roman.Proofs.Register
import Roman.Proofs.Rightmost
import Roman.Proofs.ExpressionGrammar
import Roman.Proofs.Complaint
import Roman.Proofs.Challenge
import Roman.Proofs.Verdict
import Roman.Proofs.Drawing
import Roman.Proofs.Pool
import Roman.Proofs.Session
import Roman.Proofs.Shortage
import Roman.Proofs.LineText
import Roman.Proofs.Transcript
import Roman.Console.Sheet
import Roman.Proofs.Interruption
import Roman.Proofs.JsonText
import Roman.Proofs.JsonValue
import Roman.Proofs.ConfigText
import Roman.Proofs.NameText
import Roman.Proofs.NameSearch
import Roman.Proofs.SmallLetters
import Roman.Proofs.Normalization
import Roman.Proofs.Concatenation
import Roman.Proofs.Rewriting
import Roman.Proofs.NestedRewriting
import Roman.Proofs.Laws
import Roman.Proofs.Reordering
import Roman.Proofs.Shortest
import Roman.Proofs.Comparison
import Roman.Proofs.Generation
import Roman.Proofs.NameLines
import Roman.Proofs.NameBuilding
import Roman.Proofs.Spacing
