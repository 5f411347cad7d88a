import PlainSpec.Binding.Basic
import PlainSpec.Binding.Block
import PlainSpec.Block.Basic
import PlainSpec.Block.Reader
import PlainSpec.CommandLine.Options
import PlainSpec.CommandLine.Run
import PlainSpec.Data.Basic
import PlainSpec.Data.Fault
import PlainSpec.Data.Node
import PlainSpec.Data.Passage
import PlainSpec.Data.Place
import PlainSpec.Data.Printer
import PlainSpec.Data.Quotation
import PlainSpec.Data.Reader
import PlainSpec.Data.Token
import PlainSpec.Data.Word
import PlainSpec.Definition.Files
import PlainSpec.Definition.Placement
import PlainSpec.Definition.Registry
import PlainSpec.Definition.Signature
import PlainSpec.Definition.TypeExpression
import PlainSpec.Definition.TypeNames
import PlainSpec.Entries
import PlainSpec.Failure
import PlainSpec.Files.Path
import PlainSpec.Files.Tree
import PlainSpec.Files.Wildcard
import PlainSpec.Inline.Catalog
import PlainSpec.Inline.Kind
import PlainSpec.Inline.ParamType
import PlainSpec.Inline.Value
import PlainSpec.Language.Basic
import PlainSpec.Language.BuiltIn
import PlainSpec.Language.Consultation
import PlainSpec.Language.File
import PlainSpec.Language.Table
import PlainSpec.Log
import PlainSpec.Main
import PlainSpec.Number.Binary64
import PlainSpec.Number.CalendarDate
import PlainSpec.Number.Decimal
import PlainSpec.Number.Integer
import PlainSpec.Number.Moment
import PlainSpec.Number.Numeral
import PlainSpec.Number.Shortest
import PlainSpec.Pattern.Basic
import PlainSpec.Pattern.Match
import PlainSpec.Phrase
import PlainSpec.Proofs.BlockLines
import PlainSpec.Proofs.DecimalDigits
import PlainSpec.Proofs.DistinctKeys
import PlainSpec.Proofs.Fragments
import PlainSpec.Proofs.KeptPatterns
import PlainSpec.Proofs.LetterCase
import PlainSpec.Proofs.LoweredText
import PlainSpec.Proofs.NamedPhrases
import PlainSpec.Proofs.Paragraphs
import PlainSpec.Proofs.PatternLanguage
import PlainSpec.Proofs.PhrasePatterns
import PlainSpec.Proofs.PhraseReading
import PlainSpec.Proofs.PhraseSource
import PlainSpec.Proofs.Placement
import PlainSpec.Proofs.PreferredWay
import PlainSpec.Proofs.RunnerRecord
import PlainSpec.Proofs.ScenarioRun
import PlainSpec.Proofs.SuggestedDrafts
import PlainSpec.Proofs.SuggestedSteps
import PlainSpec.Proofs.TakenLines
import PlainSpec.Proofs.TokenValues
import PlainSpec.Proofs.Tokens
import PlainSpec.Proofs.VerificationRun
import PlainSpec.Proofs.VerifyCommand
import PlainSpec.Proofs.WhiteSpace
import PlainSpec.Proofs.WrittenBlocks
import PlainSpec.Proofs.WrittenDocuments
import PlainSpec.Proofs.WrittenLines
import PlainSpec.Proofs.WrittenNumbers
import PlainSpec.Proofs.WrittenSteps
import PlainSpec.Proofs.WrittenValues
import PlainSpec.Settings.Basic
import PlainSpec.Settings.Load
import PlainSpec.Similarity
import PlainSpec.Specification.Data
import PlainSpec.Specification.Document
import PlainSpec.Specification.Fault
import PlainSpec.Specification.Files
import PlainSpec.Specification.Lines
import PlainSpec.Specification.Reader
import PlainSpec.Specification.StepKind
import PlainSpec.TestModule.Basic
import PlainSpec.TestModule.Names
import PlainSpec.Text.Basic
import PlainSpec.Text.Blank
import PlainSpec.Text.Case
import PlainSpec.Text.CaseTable
import PlainSpec.Text.ControlSequence
import PlainSpec.Text.Digit
import PlainSpec.Text.DigitTable
import PlainSpec.Text.FreeName
import PlainSpec.Text.IdentifierTable
import PlainSpec.Text.PrintableTable
import PlainSpec.Text.Quoted
import PlainSpec.Text.Ranges
import PlainSpec.Text.Word
import PlainSpec.Text.WordTable
import PlainSpec.Verification.Report
import PlainSpec.Verification.Runner
import PlainSpec.Verification.Suggestion
import PlainSpec.Proofs.OptionalParts
import PlainSpec.Proofs.MatchableDefinitions
import PlainSpec.Proofs.QuotedTexts
import PlainSpec.Proofs.TestMethods
import PlainSpec.Proofs.GeneratedModules
import PlainSpec.Proofs.LineKinds
import PlainSpec.Proofs.ScenariosAppended
import PlainSpec.Proofs.OpenScenario
import PlainSpec.Proofs.Directives
import PlainSpec.Proofs.Layout
import PlainSpec.Proofs.CaptureNames
import PlainSpec.Proofs.MatchedNumbers
import PlainSpec.Proofs.CapturedValues
import PlainSpec.Proofs.SafeMatching
import PlainSpec.Proofs.Registrations
import PlainSpec.Proofs.RegistryHistory
import PlainSpec.Proofs.FirstMatch
import PlainSpec.Proofs.MadePatterns
import PlainSpec.Proofs.CatalogChanges
import PlainSpec.Proofs.CompleteCalls
import PlainSpec.Proofs.LetterVariants
import PlainSpec.Proofs.WholeTexts
import PlainSpec.Proofs.NumbersDenoted
import PlainSpec.Proofs.OptionalTypes
import PlainSpec.Proofs.WordsRead
import PlainSpec.Proofs.PlacementOrder
import PlainSpec.Proofs.Delimiters
import PlainSpec.Proofs.CanonicalBlocks
import PlainSpec.Proofs.SpelledMembers
import PlainSpec.Proofs.StepBodies
import PlainSpec.Proofs.BlockViews
import PlainSpec.Proofs.HeaderPlacement
import PlainSpec.Proofs.KindWords
import PlainSpec.Proofs.IdentifierCharacters
import PlainSpec.Proofs.NumberedTests
import PlainSpec.Proofs.Outcomes
import PlainSpec.Proofs.UsableLanguages
import PlainSpec.Proofs.SplitTexts
import PlainSpec.Proofs.Paths
import PlainSpec.Proofs.WildcardPaths
import PlainSpec.Proofs.ListStepsCommand
import PlainSpec.Proofs.ListedSpecifications
import PlainSpec.Proofs.SourceCharacters
import PlainSpec.Proofs.Regeneration
import PlainSpec.Proofs.UnambiguousData
import PlainSpec.Proofs.MergedSettings
import PlainSpec.Proofs.LoadedSettings
import PlainSpec.Proofs.LanguagePrecedence
import PlainSpec.Proofs.InterchangeableDefinitions
import PlainSpec.Proofs.NameSpellings
import PlainSpec.Specification.Cursor
import PlainSpec.Proofs.LineMeanings
import PlainSpec.Proofs.CursorReading
import PlainSpec.Proofs.SoundReading
