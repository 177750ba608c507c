import StateDescription.Files.Tree
import StateDescription.Main
import StateDescription.Overview
import StateDescription.Proofs.Positions
import StateDescription.Proofs.ObjectNames
import StateDescription.Proofs.Outcomes
import StateDescription.Proofs.Owners
import StateDescription.Proofs.DiagnosticPlaces
import StateDescription.Proofs.StackAgreement
import StateDescription.Proofs.Grammar
import StateDescription.Proofs.StackCalls
import StateDescription.Proofs.Constructs
import StateDescription.Proofs.RecordedTransitions
import StateDescription.Proofs.Meaning
import StateDescription.Proofs.ProgramRuns
import StateDescription.Proofs.WriteModes
import StateDescription.Proofs.CleanTables
import StateDescription.Proofs.Feeders
import StateDescription.Proofs.Continuation
import StateDescription.Proofs.Histories
import StateDescription.Proofs.IndependentPieces
import StateDescription.Proofs.UniqueNames
import StateDescription.Proofs.TableEdits
import StateDescription.Proofs.ItemReports
import StateDescription.Proofs.InertItems
import StateDescription.Proofs.Growth
import StateDescription.Proofs.ValueTable
import StateDescription.Proofs.RepeatedOrigins
import StateDescription.Proofs.Offsets
import StateDescription.Proofs.Printing
import StateDescription.Proofs.JsonText
import StateDescription.Proofs.JsonRendering
import StateDescription.Proofs.Modifiers
import StateDescription.Proofs.ModifierFates
import StateDescription.Proofs.EscapeUnits
import StateDescription.Proofs.Locality
import StateDescription.Proofs.Alignment
import StateDescription.Proofs.Provenance
import StateDescription.Proofs.ReportLines
import StateDescription.Proofs.LineEndings
import StateDescription.Proofs.Unclosed
import StateDescription.Proofs.ScannedNames
import StateDescription.Proofs.ReservedNames
import StateDescription.Proofs.LikeDiagnostics
import StateDescription.Proofs.Spellings
import StateDescription.Proofs.ControlCharacters
import StateDescription.Proofs.QuotedText
import StateDescription.Proofs.DumpLines
import StateDescription.Proofs.PlainJson
import StateDescription.Proofs.ShownCharacters
import StateDescription.Proofs.Traces
import StateDescription.Proofs.FileSystems
import StateDescription.Proofs.OutputLines
import StateDescription.Proofs.CommandOutcomes
import StateDescription.Proofs.Iterations
import StateDescription.Proofs.Registers
