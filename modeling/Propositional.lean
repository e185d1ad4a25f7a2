import Propositional.Formula.Reading
import Propositional.Guarded
import Propositional.Journal
import Propositional.Main
import Propositional.Table.Export
import Propositional.CommandLine
import Propositional.Proofs.Formula.Compound
import Propositional.Proofs.Formula.Grammar
import Propositional.Proofs.Formula.Meaning
import Propositional.Proofs.Formula.Postorder
import Propositional.Proofs.Formula.Printing
import Propositional.Proofs.Formula.Support
import Propositional.Proofs.Notation.RoundTrip
import Propositional.Proofs.Notation.Spelled
import Propositional.Proofs.Rpn.Compilation
import Propositional.Proofs.Rpn.Composition
import Propositional.Proofs.Rpn.Simulation
import Propositional.Proofs.Table.Agreement
import Propositional.Proofs.Table.Compound
import Propositional.Proofs.Table.Decoding
import Propositional.Proofs.Table.Lookup
import Propositional.Proofs.Table.Tabulation
import Propositional.Proofs.Text.Rereading
import Propositional.Proofs.Text.Spacing
import Propositional.Proofs.Text.Spelling
import Propositional.Proofs.Text.Words
import Propositional.Proofs.Valuation.Enumeration
import Propositional.Proofs.Valuation.Number
import Propositional.Proofs.VariableSet
import Propositional.Proofs.Bits
import Propositional.Proofs.Notation.Stability
import Propositional.Proofs.Formula.InWords
import Propositional.Proofs.Formula.Infix
import Propositional.Proofs.Rpn.Refusal
import Propositional.Proofs.Formula.Replacement
import Propositional.Proofs.CommandLine.Conversion
import Propositional.Proofs.Formula.Renaming
import Propositional.Proofs.Table.Renaming
import Propositional.Proofs.Table.Sheet
import Propositional.Proofs.Instruments
import Propositional.Proofs.Journal
import Propositional.Proofs.Guarded
import Propositional.Proofs.VariableSet.Construction
import Propositional.Proofs.Text.Gaps
import Propositional.Proofs.Text.Pieces
import Propositional.Proofs.Event
