import ClassAtlas.Command.Arguments
import ClassAtlas.Command.Interface
import ClassAtlas.Command.Layout
import ClassAtlas.Command.Markup
import ClassAtlas.Command.Session
import ClassAtlas.Corpus.Index
import ClassAtlas.Corpus.Scan
import ClassAtlas.Corpus.UnitOrder
import ClassAtlas.Declaration
import ClassAtlas.Diagram.Dot
import ClassAtlas.Diagram.Event
import ClassAtlas.Diagram.Generation
import ClassAtlas.Diagram.PlantUml
import ClassAtlas.Diagram.Publication
import ClassAtlas.Fault
import ClassAtlas.Files.FileTree
import ClassAtlas.Files.Path
import ClassAtlas.Files.SourceRoots
import ClassAtlas.Files.Workspace
import ClassAtlas.Fingerprint
import ClassAtlas.Java.Binding
import ClassAtlas.Java.Grammar.Expression
import ClassAtlas.Java.Grammar.Member
import ClassAtlas.Java.Grammar.Phrase
import ClassAtlas.Java.Grammar.SourceFile
import ClassAtlas.Java.Grammar.Statement
import ClassAtlas.Java.Reader
import ClassAtlas.Java.Source
import ClassAtlas.Java.Token
import ClassAtlas.Java.Tree
import ClassAtlas.Java.TypeName
import ClassAtlas.Key
import ClassAtlas.Main
import ClassAtlas.NameSet
import ClassAtlas.Proofs.BlockBalance
import ClassAtlas.Proofs.BoundNames
import ClassAtlas.Proofs.BuiltIndex
import ClassAtlas.Proofs.ClassifiedEdges
import ClassAtlas.Proofs.DeclarationNames
import ClassAtlas.Proofs.DeclarationWalk
import ClassAtlas.Proofs.DeclaredKeys
import ClassAtlas.Proofs.DotFocus
import ClassAtlas.Proofs.DotLines
import ClassAtlas.Proofs.DrawnNames
import ClassAtlas.Proofs.EdgeLaws
import ClassAtlas.Proofs.EdgeLines
import ClassAtlas.Proofs.EdgeOrder
import ClassAtlas.Proofs.EdgeRegistry
import ClassAtlas.Proofs.EdgesByType
import ClassAtlas.Proofs.EventStream
import ClassAtlas.Proofs.ExpressionNames
import ClassAtlas.Proofs.FailedPublication
import ClassAtlas.Proofs.FaultCauses
import ClassAtlas.Proofs.FieldRoundTrip
import ClassAtlas.Proofs.FileTrees
import ClassAtlas.Proofs.FingerprintParts
import ClassAtlas.Proofs.Fingerprints
import ClassAtlas.Proofs.FlaggedTargets
import ClassAtlas.Proofs.ImportedNames
import ClassAtlas.Proofs.IndexLookup
import ClassAtlas.Proofs.Ingestion
import ClassAtlas.Proofs.InputOrder
import ClassAtlas.Proofs.KeyedEntries
import ClassAtlas.Proofs.Lexemes
import ClassAtlas.Proofs.LexicalPaths
import ClassAtlas.Proofs.LexicalScope
import ClassAtlas.Proofs.LoadedSettings
import ClassAtlas.Proofs.MemberPartition
import ClassAtlas.Proofs.MergedPaths
import ClassAtlas.Proofs.NameCharacters
import ClassAtlas.Proofs.Nesting
import ClassAtlas.Proofs.Ownership
import ClassAtlas.Proofs.PhraseNames
import ClassAtlas.Proofs.QuotedText
import ClassAtlas.Proofs.ReachedSites
import ClassAtlas.Proofs.ReadTables
import ClassAtlas.Proofs.ReadUsages
import ClassAtlas.Proofs.ReaderContracts
import ClassAtlas.Proofs.ReaderRuns
import ClassAtlas.Proofs.ReferentialIntegrity
import ClassAtlas.Proofs.RefusedTexts
import ClassAtlas.Proofs.Relocation
import ClassAtlas.Proofs.RepeatedUnits
import ClassAtlas.Proofs.ResolvedNames
import ClassAtlas.Proofs.SettingTables
import ClassAtlas.Proofs.SourceDiscovery
import ClassAtlas.Proofs.SpelledUsages
import ClassAtlas.Proofs.TextLines
import ClassAtlas.Proofs.TextOrder
import ClassAtlas.Proofs.TextualResolution
import ClassAtlas.Proofs.ValidUsages
import ClassAtlas.Proofs.VariableBounds
import ClassAtlas.Proofs.WrittenEvents
import ClassAtlas.Proofs.WrittenLines
import ClassAtlas.Relationship.Classification
import ClassAtlas.Relationship.Edge
import ClassAtlas.Resolution.Oracle
import ClassAtlas.Resolution.Reference
import ClassAtlas.Resolution.Resolver
import ClassAtlas.Settings
import ClassAtlas.Text.Blank
import ClassAtlas.Text.CodePoints
import ClassAtlas.Text.Cut
import ClassAtlas.Text.Identifier
import ClassAtlas.Text.LetterCase
import ClassAtlas.Text.Pattern
import ClassAtlas.Text.Printable
import ClassAtlas.Text.Quoted
import ClassAtlas.Text.Utf8
import ClassAtlas.Toml.Double
import ClassAtlas.Toml.Line
import ClassAtlas.Toml.Moment
import ClassAtlas.Toml.Printer
import ClassAtlas.Toml.Reader
import ClassAtlas.Toml.Value
import ClassAtlas.TypeUsage
