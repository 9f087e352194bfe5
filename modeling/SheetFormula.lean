import SheetFormula.Main
import SheetFormula.Proofs.Grammar
import SheetFormula.Proofs.Readings
import SheetFormula.Proofs.Parsing
import SheetFormula.Proofs.Signs
import SheetFormula.Proofs.Replacement
import SheetFormula.Proofs.Failures
import SheetFormula.Proofs.Trees
import SheetFormula.Proofs.Stages
import SheetFormula.Proofs.Containment
import SheetFormula.Proofs.Lexing
import SheetFormula.Proofs.NumberText
import SheetFormula.Proofs.Printing
import SheetFormula.Proofs.RoundTrip
import SheetFormula.Proofs.Evaluations
import SheetFormula.Proofs.Locality
import SheetFormula.Proofs.Doubles
import SheetFormula.Proofs.SameNumber
import SheetFormula.Proofs.TokenOrder
import SheetFormula.Proofs.ReadBack
import SheetFormula.Proofs.Reproduction
import SheetFormula.Proofs.Ratios
import SheetFormula.Proofs.Nearest
import SheetFormula.Proofs.Shortest
import SheetFormula.Proofs.PlainText
import SheetFormula.Proofs.JsonStrings
import SheetFormula.Proofs.JsonNumbers
import SheetFormula.Proofs.JsonTexts
import SheetFormula.Proofs.LogLines
import SheetFormula.Proofs.LogRuns
import SheetFormula.Proofs.LogFragments
import SheetFormula.Proofs.EventProtocol
import SheetFormula.Proofs.Sinks
import SheetFormula.Proofs.Transparency
import SheetFormula.Proofs.SheetKinds
import SheetFormula.Proofs.Vocabulary
import SheetFormula.Proofs.CommandRuns
import SheetFormula.Proofs.FileEffects
import SheetFormula.Proofs.KeptLogs
import SheetFormula.Proofs.ShownEvents
import SheetFormula.Proofs.Splitting
import SheetFormula.Proofs.Acceptance
import SheetFormula.Proofs.Spacing
import SheetFormula.Proofs.Culprits
import SheetFormula.Proofs.OptionalMark
import SheetFormula.Proofs.PlainReading
import SheetFormula.Proofs.ReadingOrder
import SheetFormula.Proofs.Substitution
import SheetFormula.Proofs.EvaluationOrder
import SheetFormula.Proofs.LogAnswers
import SheetFormula.Proofs.UnreadableLogs
import SheetFormula.Proofs.BoundedRecords
import SheetFormula.Proofs.ReaderEntries
import SheetFormula.Proofs.Blame
import SheetFormula.Proofs.RefusedSettings
import SheetFormula.Proofs.Extremes
import SheetFormula.Proofs.EqualTrees
import SheetFormula.Proofs.CutContexts
import SheetFormula.Proofs.Addresses
import SheetFormula.Proofs.UpperCase
import SheetFormula.Proofs.Selections
