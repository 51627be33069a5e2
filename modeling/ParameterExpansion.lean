import ParameterExpansion.Session
import ParameterExpansion.Main
import ParameterExpansion.Command.FileSystem
import ParameterExpansion.Proofs.Glob.Removal
import ParameterExpansion.Proofs.Template.RoundTrip
import ParameterExpansion.Proofs.Template.Rejection
import ParameterExpansion.Proofs.Expansion.Strictness
import ParameterExpansion.Proofs.Expansion.Concatenation
import ParameterExpansion.Proofs.Expansion.Quoting
import ParameterExpansion.Proofs.Template.Nesting
import ParameterExpansion.Proofs.Template.Reparsing
import ParameterExpansion.Proofs.Expansion.NestedText
import ParameterExpansion.Proofs.Expansion.Lookups
import ParameterExpansion.Proofs.Expansion.Presence
import ParameterExpansion.Proofs.Expansion.Answers
import ParameterExpansion.Proofs.Command.Failures
import ParameterExpansion.Proofs.Expansion.DoubledDollars
import ParameterExpansion.Proofs.Template.ClosingBrace
import ParameterExpansion.Proofs.Template.Segments
import ParameterExpansion.Proofs.Expansion.FailurePlaces
import ParameterExpansion.Proofs.Expansion.HarmlessTemplates
import ParameterExpansion.Proofs.Glob.WrittenBracket
import ParameterExpansion.Proofs.Session.Snapshots
import ParameterExpansion.Proofs.Template.SeparatedSegments
import ParameterExpansion.Proofs.Command.CommandLine
import ParameterExpansion.Proofs.Command.Outcome
import ParameterExpansion.Proofs.Template.NumberField
import ParameterExpansion.Proofs.Template.SubstringText
import ParameterExpansion.Proofs.Expansion.Slicing
import ParameterExpansion.Proofs.Expansion.LiteralReplacement
import ParameterExpansion.Proofs.Expansion.PatternPieces
import ParameterExpansion.Proofs.Glob.Compilation
import ParameterExpansion.Proofs.Template.Descent
import ParameterExpansion.Proofs.Glob.CutPattern
