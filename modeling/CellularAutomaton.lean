import CellularAutomaton.Main
import CellularAutomaton.Expr.Printer
import CellularAutomaton.RuleFile.Printer
import CellularAutomaton.Proofs.GlobalMap
import CellularAutomaton.Proofs.Step
import CellularAutomaton.Proofs.Sampling
import CellularAutomaton.Proofs.Counts
import CellularAutomaton.Proofs.History
import CellularAutomaton.Proofs.Flow
import CellularAutomaton.Proofs.Reachable
import CellularAutomaton.Proofs.Accounting
import CellularAutomaton.Proofs.Orbit
import CellularAutomaton.Proofs.Run
import CellularAutomaton.Proofs.Text
import CellularAutomaton.Proofs.Numeral.Integer
import CellularAutomaton.Proofs.Expr.RoundTrip
import CellularAutomaton.Proofs.Expr.Evaluation
import CellularAutomaton.Proofs.Expr.Faults
import CellularAutomaton.Proofs.RuleFile.RuleLine
import CellularAutomaton.Proofs.Numeral.Float
import CellularAutomaton.Proofs.RuleFile.Reading
import CellularAutomaton.Proofs.RuleFile.RoundTrip
import CellularAutomaton.Proofs.RuleFile.FirstError
import CellularAutomaton.Proofs.Numeral.Nearest
import CellularAutomaton.Proofs.Numeral.Bits
import CellularAutomaton.Proofs.Numeral.Shortest
import CellularAutomaton.Proofs.Numeral.ReadFloat
import CellularAutomaton.Proofs.Expr.Lexing
import CellularAutomaton.Proofs.Expr.Grammar
import CellularAutomaton.Proofs.Text.Fields
import CellularAutomaton.Proofs.RuleFile.LineGrammar
import CellularAutomaton.Proofs.RuleFile.Format
import CellularAutomaton.Proofs.Lifecycle
import CellularAutomaton.Proofs.Change
import CellularAutomaton.Proofs.Failure
import CellularAutomaton.Proofs.Convergence
import CellularAutomaton.Proofs.Resume
import CellularAutomaton.Proofs.Window
import CellularAutomaton.Proofs.SymmetricRun
import CellularAutomaton.Proofs.Influence
import CellularAutomaton.Proofs.Cycle
import CellularAutomaton.Proofs.Restart
import CellularAutomaton.Proofs.Strictness
import CellularAutomaton.Proofs.CommandLine
import CellularAutomaton.Proofs.Seeds
import CellularAutomaton.Proofs.Drawing
import CellularAutomaton.Proofs.Unsigned
import CellularAutomaton.Proofs.Distribution
import CellularAutomaton.Proofs.InitialStates
import CellularAutomaton.Proofs.Events
import CellularAutomaton.Proofs.Seeding
import CellularAutomaton.Proofs.RuleFile.Order
import CellularAutomaton.Proofs.Text.Layout
import CellularAutomaton.Proofs.RuleFile.Layout
import CellularAutomaton.Proofs.Display
import CellularAutomaton.Proofs.Value
import CellularAutomaton.Proofs.Rounding
import CellularAutomaton.Proofs.Cumulative
import CellularAutomaton.Proofs.Numeral.Halves
import CellularAutomaton.Proofs.Statistics
import CellularAutomaton.Proofs.Summary
