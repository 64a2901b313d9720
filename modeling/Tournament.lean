import Tournament.Main
import Tournament.Proofs.Aftermath
import Tournament.Proofs.Anonymity
import Tournament.Proofs.ArenaUse
import Tournament.Proofs.Assembly
import Tournament.Proofs.Calendar
import Tournament.Proofs.Clauses
import Tournament.Proofs.Counting
import Tournament.Proofs.Credit
import Tournament.Proofs.DrawOrder
import Tournament.Proofs.Elimination
import Tournament.Proofs.Excess
import Tournament.Proofs.Fitting
import Tournament.Proofs.Frame
import Tournament.Proofs.Isolation
import Tournament.Proofs.Joining
import Tournament.Proofs.Layout
import Tournament.Proofs.Ledger
import Tournament.Proofs.LengthGrammar
import Tournament.Proofs.Narration
import Tournament.Proofs.Participation
import Tournament.Proofs.Plenty
import Tournament.Proofs.Progress
import Tournament.Proofs.Rendering
import Tournament.Proofs.ReportText
import Tournament.Proofs.Requests
import Tournament.Proofs.Resizing
import Tournament.Proofs.RoundSteps
import Tournament.Proofs.Runs
import Tournament.Proofs.SectionOrder
import Tournament.Proofs.Sessions
import Tournament.Proofs.Sides
