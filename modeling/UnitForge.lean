import UnitForge.CommandLine.Arguments
import UnitForge.CommandLine.Console
import UnitForge.CommandLine.Help
import UnitForge.CommandLine.Render
import UnitForge.CommandLine.Run
import UnitForge.CommandLine.Scan
import UnitForge.CommandLine.Suggestion
import UnitForge.CommandLine.Usage
import UnitForge.Draft
import UnitForge.Failure
import UnitForge.Feature
import UnitForge.FileTree.Disk
import UnitForge.FileTree.Path
import UnitForge.GeneratedUnit
import UnitForge.Java.Analyser
import UnitForge.Java.Chart
import UnitForge.Java.Grammar
import UnitForge.Java.Node
import UnitForge.Java.Outline
import UnitForge.Java.Parser
import UnitForge.Java.Rules
import UnitForge.Java.Token
import UnitForge.Json.Reader
import UnitForge.Json.Writer
import UnitForge.Keyed
import UnitForge.Layout.BraceScan
import UnitForge.Layout.Formatter
import UnitForge.Layout.Reindent
import UnitForge.Main
import UnitForge.Marker
import UnitForge.Name
import UnitForge.Notice
import UnitForge.Number.Binary64
import UnitForge.Number.Decimal
import UnitForge.Number.Digits
import UnitForge.Output.Directory
import UnitForge.Output.Filer
import UnitForge.Output.Memory
import UnitForge.Output.Scripted
import UnitForge.Proofs.BraceDepth
import UnitForge.Proofs.CanonicalLayout
import UnitForge.Proofs.ClosedUnits
import UnitForge.Proofs.CodeBraces
import UnitForge.Proofs.DeclaredOutlines
import UnitForge.Proofs.DeclaredPackages
import UnitForge.Proofs.DeclaredTypes
import UnitForge.Proofs.DeclaringFiles
import UnitForge.Proofs.DiskGrowth
import UnitForge.Proofs.DistinctTargets
import UnitForge.Proofs.DistinctTexts
import UnitForge.Proofs.DraftScope
import UnitForge.Proofs.DraftTexts
import UnitForge.Proofs.DryRun
import UnitForge.Proofs.FilesBelowRoot
import UnitForge.Proofs.FirstSyntaxError
import UnitForge.Proofs.HiddenFailures
import UnitForge.Proofs.ImportHygiene
import UnitForge.Proofs.KeyedValues
import UnitForge.Proofs.LaidOutLines
import UnitForge.Proofs.LayoutIdempotence
import UnitForge.Proofs.Lexis
import UnitForge.Proofs.LineBreaks
import UnitForge.Proofs.LineByLine
import UnitForge.Proofs.LineTally
import UnitForge.Proofs.LiteralsKept
import UnitForge.Proofs.MarkedReferences
import UnitForge.Proofs.MarkedText
import UnitForge.Proofs.MirroredFilers
import UnitForge.Proofs.NameForms
import UnitForge.Proofs.NameRoundTrip
import UnitForge.Proofs.NameText
import UnitForge.Proofs.OfflineScope
import UnitForge.Proofs.PlacedFiles
import UnitForge.Proofs.PositionalTemplates
import UnitForge.Proofs.RecordedFiler
import UnitForge.Proofs.ReferenceMeaning
import UnitForge.Proofs.ReferenceOrder
import UnitForge.Proofs.RefusedTargets
import UnitForge.Proofs.RelaidSources
import UnitForge.Proofs.ReorderedTrees
import UnitForge.Proofs.ScanSites
import UnitForge.Proofs.ScannedFiles
import UnitForge.Proofs.ScopeRuns
import UnitForge.Proofs.Segments
import UnitForge.Proofs.SharedDrafts
import UnitForge.Proofs.SinkContents
import UnitForge.Proofs.SinkFiles
import UnitForge.Proofs.SinkRelease
import UnitForge.Proofs.SkippedFiles
import UnitForge.Proofs.SortedTexts
import UnitForge.Proofs.SourceLiterals
import UnitForge.Proofs.SplicedExcerpts
import UnitForge.Proofs.StableReferences
import UnitForge.Proofs.SurfacedFailures
import UnitForge.Proofs.TargetPaths
import UnitForge.Proofs.TreeGrowth
import UnitForge.Proofs.TreeOrder
import UnitForge.Proofs.UnitPlacement
import UnitForge.Proofs.UnitRuns
import UnitForge.Proofs.UnitScope
import UnitForge.Proofs.Utf8RoundTrip
import UnitForge.Proofs.VerbatimTemplates
import UnitForge.Proofs.Walks
import UnitForge.Scan.Collection
import UnitForge.Scan.Discovery
import UnitForge.Scan.Glob
import UnitForge.Scan.ParserPool
import UnitForge.Scan.SymbolTable
import UnitForge.Scope
import UnitForge.Template.Directive
import UnitForge.Template.Fill
import UnitForge.Template.Value
import UnitForge.Text.Basic
import UnitForge.Text.Blank
import UnitForge.Text.Identifier
import UnitForge.Text.Lines
import UnitForge.Text.Printable
import UnitForge.Text.Quoted
import UnitForge.Text.Ranges
import UnitForge.Text.Raw
import UnitForge.Text.UpperCase
import UnitForge.Text.Utf8
