import FeatureLint.Acceptance.Scenario
import FeatureLint.Acceptance.Step
import FeatureLint.Command.Arguments
import FeatureLint.Command.Run
import FeatureLint.Command.Usage
import FeatureLint.Corpus
import FeatureLint.Decimal
import FeatureLint.Document.Lines
import FeatureLint.Document.Number
import FeatureLint.Document.Pair
import FeatureLint.Document.Parser
import FeatureLint.Document.Pieces
import FeatureLint.Document.Quoted
import FeatureLint.Document.Table
import FeatureLint.Event
import FeatureLint.Fault
import FeatureLint.Feature.File
import FeatureLint.Feature.Line
import FeatureLint.Feature.Outline
import FeatureLint.Inspection
import FeatureLint.Main
import FeatureLint.Measure
import FeatureLint.Moment
import FeatureLint.Names.Index
import FeatureLint.Names.Register
import FeatureLint.Path
import FeatureLint.Pattern.Basic
import FeatureLint.Pattern.Escape
import FeatureLint.Pattern.Match
import FeatureLint.Pattern.Mode
import FeatureLint.Pattern.Parser
import FeatureLint.Pattern.Width
import FeatureLint.Proofs.BrokenTables
import FeatureLint.Proofs.CalledAlike
import FeatureLint.Proofs.CleanCorpus
import FeatureLint.Proofs.Completion
import FeatureLint.Proofs.EffectiveSettings
import FeatureLint.Proofs.EmptyCells
import FeatureLint.Proofs.EncodedText
import FeatureLint.Proofs.ExactCorpus
import FeatureLint.Proofs.ExampleRows
import FeatureLint.Proofs.FileLines
import FeatureLint.Proofs.Footprint
import FeatureLint.Proofs.FoundFiles
import FeatureLint.Proofs.FrozenProject
import FeatureLint.Proofs.GrowingCorpus
import FeatureLint.Proofs.GrownTrees
import FeatureLint.Proofs.IndexRuns
import FeatureLint.Proofs.InsertedLines
import FeatureLint.Proofs.Isolation
import FeatureLint.Proofs.JoinedOutlines
import FeatureLint.Proofs.LetterCase
import FeatureLint.Proofs.LineMarks
import FeatureLint.Proofs.Lists
import FeatureLint.Proofs.LooserSettings
import FeatureLint.Proofs.NearestProject
import FeatureLint.Proofs.OneLineTexts
import FeatureLint.Proofs.PathTexts
import FeatureLint.Proofs.PathsFromRoot
import FeatureLint.Proofs.PlainTrees
import FeatureLint.Proofs.PreparedFeatures
import FeatureLint.Proofs.PrintedReport
import FeatureLint.Proofs.ReadAgain
import FeatureLint.Proofs.Readings
import FeatureLint.Proofs.ReportLines
import FeatureLint.Proofs.ReportOrder
import FeatureLint.Proofs.ReportParts
import FeatureLint.Proofs.RuleOrder
import FeatureLint.Proofs.SaidOptions
import FeatureLint.Proofs.SecondRun
import FeatureLint.Proofs.TableCells
import FeatureLint.Proofs.TrimmedText
import FeatureLint.Proofs.UpdatedSettings
import FeatureLint.Proofs.UsesInAnyOrder
import FeatureLint.Proofs.VerboseRuns
import FeatureLint.Proofs.Walks
import FeatureLint.Proofs.WellFormedTrees
import FeatureLint.Proofs.WrittenFiles
import FeatureLint.Report
import FeatureLint.Settings.Basic
import FeatureLint.Settings.Options
import FeatureLint.Settings.Project
import FeatureLint.Text.Ansi
import FeatureLint.Text.Blank
import FeatureLint.Text.CaseFold
import FeatureLint.Text.CharName
import FeatureLint.Text.Identifier
import FeatureLint.Text.Letter
import FeatureLint.Text.Newline
import FeatureLint.Text.Numeral
import FeatureLint.Text.Printable
import FeatureLint.Text.Quoted
import FeatureLint.Text.Search
import FeatureLint.Text.Utf8
import FeatureLint.Text.Word
import FeatureLint.Tree.Basic
import FeatureLint.Tree.Edit
import FeatureLint.Tree.Resolve
import FeatureLint.Value
