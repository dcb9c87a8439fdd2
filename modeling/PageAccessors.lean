import PageAccessors.AccessorClass
import PageAccessors.CommandLine
import PageAccessors.CommandLine.Flag
import PageAccessors.CommandLine.Given
import PageAccessors.Data
import PageAccessors.Decimal.Shortest
import PageAccessors.Declaration
import PageAccessors.Descriptor
import PageAccessors.Digest.Blake3
import PageAccessors.Disk
import PageAccessors.Emission
import PageAccessors.FileTree
import PageAccessors.Generation
import PageAccessors.Generation.Workers
import PageAccessors.Identifier
import PageAccessors.Inputs
import PageAccessors.Inspection
import PageAccessors.Instant
import PageAccessors.Json.Error
import PageAccessors.Json.Reader
import PageAccessors.Json.Record
import PageAccessors.Json.Writer
import PageAccessors.Locator
import PageAccessors.Main
import PageAccessors.Manifest
import PageAccessors.Options
import PageAccessors.Output
import PageAccessors.Page
import PageAccessors.Path
import PageAccessors.Program
import PageAccessors.Proofs.AtomicWrites
import PageAccessors.Proofs.Calls
import PageAccessors.Proofs.CanonicalText
import PageAccessors.Proofs.Diagnoses
import PageAccessors.Proofs.DiskSteps
import PageAccessors.Proofs.Emitted
import PageAccessors.Proofs.FailedWrites
import PageAccessors.Proofs.FoundFiles
import PageAccessors.Proofs.GlobPatterns
import PageAccessors.Proofs.Header
import PageAccessors.Proofs.ImportNames
import PageAccessors.Proofs.Imports
import PageAccessors.Proofs.InPlace
import PageAccessors.Proofs.Intact
import PageAccessors.Proofs.JsonText
import PageAccessors.Proofs.JsonValue
import PageAccessors.Proofs.KotlinLiteral
import PageAccessors.Proofs.KotlinSource
import PageAccessors.Proofs.Layout
import PageAccessors.Proofs.Locations
import PageAccessors.Proofs.ManifestText
import PageAccessors.Proofs.Meaning
import PageAccessors.Proofs.Members
import PageAccessors.Proofs.OutputPaths
import PageAccessors.Proofs.PinnedFiles
import PageAccessors.Proofs.Places
import PageAccessors.Proofs.Prediction
import PageAccessors.Proofs.Presentation
import PageAccessors.Proofs.Readings
import PageAccessors.Proofs.Recorded
import PageAccessors.Proofs.Regeneration
import PageAccessors.Proofs.RuleOrder
import PageAccessors.Proofs.Rules
import PageAccessors.Proofs.SameSource
import PageAccessors.Proofs.Scanner
import PageAccessors.Proofs.Schedules
import PageAccessors.Proofs.Scopes
import PageAccessors.Proofs.SearchedPaths
import PageAccessors.Proofs.SettingsFile
import PageAccessors.Proofs.SettingsLayers
import PageAccessors.Proofs.SettingsRead
import PageAccessors.Proofs.Slots
import PageAccessors.Proofs.SourceParts
import PageAccessors.Proofs.Steps
import PageAccessors.Proofs.TemplatePieces
import PageAccessors.Proofs.Timestamps
import PageAccessors.Proofs.Verification
import PageAccessors.Proofs.WrittenFiles
import PageAccessors.Proofs.YamlBlank
import PageAccessors.Proofs.YamlBlock
import PageAccessors.Proofs.YamlNames
import PageAccessors.Proofs.YamlQuotes
import PageAccessors.Proofs.YamlScalar
import PageAccessors.Proofs.YamlText
import PageAccessors.Proofs.YamlTokens
import PageAccessors.Proofs.YamlValues
import PageAccessors.Report
import PageAccessors.Settings
import PageAccessors.Source
import PageAccessors.Source.Literal
import PageAccessors.Template
import PageAccessors.Text.Blank
import PageAccessors.Text.Escaped
import PageAccessors.Url
import PageAccessors.Url.Address
import PageAccessors.Url.Direction
import PageAccessors.Url.Domain
import PageAccessors.Url.HostCharacter
import PageAccessors.Url.Joining
import PageAccessors.Url.NormalForm
import PageAccessors.Url.Punycode
import PageAccessors.Url.Replacement
import PageAccessors.Url.Tables
import PageAccessors.Yaml.Character
import PageAccessors.Yaml.Cursor
import PageAccessors.Yaml.Field
import PageAccessors.Yaml.Node
import PageAccessors.Yaml.Scalar.Block
import PageAccessors.Yaml.Scalar.Gap
import PageAccessors.Yaml.Scalar.Plain
import PageAccessors.Yaml.Scalar.Quoted
import PageAccessors.Yaml.Scalar.Value
import PageAccessors.Yaml.Tag
import PageAccessors.Yaml.Token
import PageAccessors.Yaml.Value
import PageAccessors.Yaml.WellFormed
import PageAccessors.Yaml.Writer
import PageAccessors.Proofs.Accounts
