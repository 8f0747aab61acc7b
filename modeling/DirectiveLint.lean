import DirectiveLint.Language.Scanners
import DirectiveLint.Configuration.Words
import DirectiveLint.Linter.Session
import DirectiveLint.Linter.Engine
import DirectiveLint.Main
import DirectiveLint.Proofs.Cuts
import DirectiveLint.Proofs.Layouts
import DirectiveLint.Proofs.Grammar
import DirectiveLint.Proofs.Recognition
import DirectiveLint.Proofs.NormalForm
import DirectiveLint.Proofs.BlankTail
import DirectiveLint.Proofs.Classification
import DirectiveLint.Proofs.Repair
import DirectiveLint.Proofs.Grouping
import DirectiveLint.Proofs.LineEnds
import DirectiveLint.Proofs.Reporting
import DirectiveLint.Proofs.Independence
import DirectiveLint.Proofs.Collected
import DirectiveLint.Proofs.Lines
import DirectiveLint.Proofs.Agreement
import DirectiveLint.Proofs.Paths
import DirectiveLint.Proofs.AnyOrder
import DirectiveLint.Proofs.Unusable
import DirectiveLint.Proofs.Spellings
import DirectiveLint.Proofs.Scanning
import DirectiveLint.Proofs.TreeOrder
import DirectiveLint.Proofs.SourceOrder
import DirectiveLint.Proofs.Expansion
import DirectiveLint.Proofs.ArgumentBlocks
import DirectiveLint.Proofs.FirstFailure
import DirectiveLint.Proofs.Thresholds
import DirectiveLint.Proofs.UnusedCandidates
import DirectiveLint.Proofs.Explanation
import DirectiveLint.Proofs.Sessions
import DirectiveLint.Proofs.EmptyExplanation
import DirectiveLint.Proofs.Suggestions
import DirectiveLint.Proofs.AdvisedShape
import DirectiveLint.Proofs.PermissiveTier
import DirectiveLint.Proofs.Encoding
import DirectiveLint.Proofs.Locality
import DirectiveLint.Proofs.SyntaxErrors
import DirectiveLint.Proofs.Skeleton
import DirectiveLint.Proofs.ListedDirectives
import DirectiveLint.Proofs.ContinuedLines
import DirectiveLint.Proofs.IssueLines
