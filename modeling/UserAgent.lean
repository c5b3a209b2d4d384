import UserAgent.Assoc
import UserAgent.Category
import UserAgent.Classifier
import UserAgent.CommandLine.Invocation
import UserAgent.CommandLine.Journal
import UserAgent.CommandLine.Options
import UserAgent.CommandLine.Run
import UserAgent.Config
import UserAgent.Config.File
import UserAgent.Decimal.Binary64
import UserAgent.Decimal.Limit
import UserAgent.Decimal.Shortest
import UserAgent.Decimal.Text
import UserAgent.Digest.Sha256
import UserAgent.FieldSpec
import UserAgent.Files.Error
import UserAgent.Files.Tree
import UserAgent.Host
import UserAgent.Host.Machine
import UserAgent.Json.Basic
import UserAgent.Json.Display
import UserAgent.Json.Printer
import UserAgent.Json.Reader
import UserAgent.Log
import UserAgent.Main
import UserAgent.Mapping
import UserAgent.Output.Color
import UserAgent.Output.Format
import UserAgent.Output.ResultLog
import UserAgent.Output.Table
import UserAgent.Path
import UserAgent.Proofs.Agreement
import UserAgent.Proofs.AndroidDevices
import UserAgent.Proofs.Attempts
import UserAgent.Proofs.BrowserVersions
import UserAgent.Proofs.BuiltInRules
import UserAgent.Proofs.CanonicalTables
import UserAgent.Proofs.CapturedTexts
import UserAgent.Proofs.Captures
import UserAgent.Proofs.CaseBlind
import UserAgent.Proofs.CommandWords
import UserAgent.Proofs.Compiled
import UserAgent.Proofs.Confinement
import UserAgent.Proofs.DelimitedPatterns
import UserAgent.Proofs.DelimiterLetters
import UserAgent.Proofs.Export
import UserAgent.Proofs.FaultOrigin
import UserAgent.Proofs.FaultReports
import UserAgent.Proofs.FileHash
import UserAgent.Proofs.FirstMatch
import UserAgent.Proofs.FixedClassifiers
import UserAgent.Proofs.GroupTable
import UserAgent.Proofs.JsonText
import UserAgent.Proofs.KeptRules
import UserAgent.Proofs.LetterCase
import UserAgent.Proofs.Loading
import UserAgent.Proofs.MalformedConfigs
import UserAgent.Proofs.NamedRecords
import UserAgent.Proofs.Openings
import UserAgent.Proofs.Outline
import UserAgent.Proofs.Overruns
import UserAgent.Proofs.PatternText
import UserAgent.Proofs.ProductToken
import UserAgent.Proofs.Readers
import UserAgent.Proofs.RefinedBrowsers
import UserAgent.Proofs.RefinedDevices
import UserAgent.Proofs.RefusedRules
import UserAgent.Proofs.ResultLines
import UserAgent.Proofs.RuleLayouts
import UserAgent.Proofs.RuleSources
import UserAgent.Proofs.SavedConfig
import UserAgent.Proofs.SeparateCategories
import UserAgent.Proofs.ShownResults
import UserAgent.Proofs.StrictReading
import UserAgent.Proofs.Vocabularies
import UserAgent.Proofs.Ways
import UserAgent.Proofs.WrittenFiles
import UserAgent.Refinement
import UserAgent.Refinement.Values
import UserAgent.Regex.CharSet
import UserAgent.Regex.Fault
import UserAgent.Regex.Flags
import UserAgent.Regex.Node
import UserAgent.Regex.Parser
import UserAgent.Regex.Pattern
import UserAgent.Regex.Run
import UserAgent.Regex.Template
import UserAgent.Regex.Token
import UserAgent.Rule
import UserAgent.RuleError
import UserAgent.RuleSet
import UserAgent.RuleSet.BuiltIn
import UserAgent.RuleSet.File
import UserAgent.Session
import UserAgent.Text.Case
import UserAgent.Text.Integer
import UserAgent.Text.Lines
import UserAgent.Text.Quoted
import UserAgent.Text.Slice
import UserAgent.Text.Trim
import UserAgent.Text.Utf8
import UserAgent.Transform
import UserAgent.Unicode.Alphanumeric
import UserAgent.Unicode.Blank
import UserAgent.Unicode.CaseMapping
import UserAgent.Unicode.Cased
import UserAgent.Unicode.Digit
import UserAgent.Unicode.Identifier
import UserAgent.Unicode.Intervals
import UserAgent.Unicode.Printable
import UserAgent.Validation
import UserAgent.Validation.Files
import UserAgent.Proofs.SpecKinds
import UserAgent.Proofs.DecimalDigits
import UserAgent.Proofs.DollarReferences
import UserAgent.Proofs.RepeatedRefinement
import UserAgent.Proofs.TextParts
import UserAgent.Proofs.FirstRefusal
import UserAgent.Proofs.TableColumns
import UserAgent.Proofs.MappingTables
import UserAgent.Proofs.AbsentCaptures
import UserAgent.Proofs.ExhaustiveSearch
import UserAgent.Proofs.SpelledWords
import UserAgent.Proofs.SystemPatterns
import UserAgent.Proofs.MacSystems
import UserAgent.Proofs.AixReleases
