import CodeIdioms.Catalog.Basic
import CodeIdioms.Catalog.Builtin
import CodeIdioms.Catalog.Statistics
import CodeIdioms.CommandLine.Detect
import CodeIdioms.CommandLine.Engine
import CodeIdioms.CommandLine.Explain
import CodeIdioms.CommandLine.Invocation
import CodeIdioms.CommandLine.Listing
import CodeIdioms.CommandLine.Run
import CodeIdioms.CommandLine.Scan
import CodeIdioms.CommandLine.Session
import CodeIdioms.CommandLine.Switch
import CodeIdioms.Decimal.Binary
import CodeIdioms.Decimal.Nearest
import CodeIdioms.Decimal.Shortest
import CodeIdioms.Decimal.Spelled
import CodeIdioms.Decimal.Written
import CodeIdioms.Detection.Detector
import CodeIdioms.Detection.Engine
import CodeIdioms.Detection.Finding
import CodeIdioms.Detection.RuleSet
import CodeIdioms.Document.Codec
import CodeIdioms.Document.Numeral
import CodeIdioms.Document.Problem
import CodeIdioms.Document.Reader
import CodeIdioms.Document.Record
import CodeIdioms.Document.Tree
import CodeIdioms.Document.Value
import CodeIdioms.Explain.Builtin
import CodeIdioms.Explain.Draw
import CodeIdioms.Explain.Generator
import CodeIdioms.Explain.Seeded
import CodeIdioms.Explain.Template
import CodeIdioms.FileFault
import CodeIdioms.FileTree.Basic
import CodeIdioms.FileTree.Path
import CodeIdioms.Glyph
import CodeIdioms.Glyph.Builtin
import CodeIdioms.Glyph.Registry
import CodeIdioms.Idiom
import CodeIdioms.Main
import CodeIdioms.Narrative.Basic
import CodeIdioms.Narrative.Layout
import CodeIdioms.Proofs.Catalog.Consistency
import CodeIdioms.Proofs.Catalog.Construction
import CodeIdioms.Proofs.Catalog.Rebuilding
import CodeIdioms.Proofs.Catalog.Statistics
import CodeIdioms.Proofs.CommandLine.Agreement
import CodeIdioms.Proofs.CommandLine.Engine
import CodeIdioms.Proofs.CommandLine.Listing
import CodeIdioms.Proofs.CommandLine.MostCommon
import CodeIdioms.Proofs.CommandLine.Overlay
import CodeIdioms.Proofs.CommandLine.Session
import CodeIdioms.Proofs.CommandLine.Silence
import CodeIdioms.Proofs.Decimal.Order
import CodeIdioms.Proofs.Detection.Annotation
import CodeIdioms.Proofs.Detection.Compilation
import CodeIdioms.Proofs.Detection.Division
import CodeIdioms.Proofs.Detection.Exactness
import CodeIdioms.Proofs.Detection.Independence
import CodeIdioms.Proofs.Detection.Leftmost
import CodeIdioms.Proofs.Detection.Ranking
import CodeIdioms.Proofs.Detection.Safety
import CodeIdioms.Proofs.Detection.StartLine
import CodeIdioms.Proofs.Detection.Ties
import CodeIdioms.Proofs.Document.Completeness
import CodeIdioms.Proofs.Document.Faithful
import CodeIdioms.Proofs.Document.Rearrangement
import CodeIdioms.Proofs.Document.Record
import CodeIdioms.Proofs.Document.RoundTrip
import CodeIdioms.Proofs.Explain.Builtin
import CodeIdioms.Proofs.Explain.Drawing
import CodeIdioms.Proofs.Explain.Expansion
import CodeIdioms.Proofs.Explain.Fallback
import CodeIdioms.Proofs.Explain.Loading
import CodeIdioms.Proofs.Explain.WellFormed
import CodeIdioms.Proofs.FileTree.Component
import CodeIdioms.Proofs.FileTree.Joining
import CodeIdioms.Proofs.Filtering
import CodeIdioms.Proofs.Glyph.Construction
import CodeIdioms.Proofs.Glyph.Legend
import CodeIdioms.Proofs.Glyph.Reading
import CodeIdioms.Proofs.Index
import CodeIdioms.Proofs.Location
import CodeIdioms.Proofs.Lookup
import CodeIdioms.Proofs.Narrative.Reading
import CodeIdioms.Proofs.Result
import CodeIdioms.Proofs.Rule.Beginning
import CodeIdioms.Proofs.Rule.FirstMatch
import CodeIdioms.Proofs.Rule.Matching
import CodeIdioms.Proofs.Rule.Search
import CodeIdioms.Proofs.Scan.Accounting
import CodeIdioms.Proofs.Scan.Frequency
import CodeIdioms.Proofs.Scan.Gathering
import CodeIdioms.Proofs.Scan.Interleaving
import CodeIdioms.Proofs.Scan.Listing
import CodeIdioms.Proofs.Scan.Skipping
import CodeIdioms.Proofs.Settings.Acceptance
import CodeIdioms.Proofs.Settings.Decoding
import CodeIdioms.Proofs.Settings.Reading
import CodeIdioms.Proofs.Settings.Validity
import CodeIdioms.Proofs.SortedMap
import CodeIdioms.Proofs.Span.CheckedWord
import CodeIdioms.Proofs.Span.Extent
import CodeIdioms.Proofs.Span.Standing
import CodeIdioms.Proofs.Splitting
import CodeIdioms.Proofs.StableSort
import CodeIdioms.Proofs.Text.ByteOrder
import CodeIdioms.Proofs.Text.Occurrence
import CodeIdioms.Proofs.Text.Ranges
import CodeIdioms.Proofs.Text.Replacement
import CodeIdioms.Proofs.Text.Trimming
import CodeIdioms.Proofs.Vocabulary.Spelling
import CodeIdioms.Rule.Atom
import CodeIdioms.Rule.Bracket
import CodeIdioms.Rule.Dialect
import CodeIdioms.Rule.Expr
import CodeIdioms.Rule.Program
import CodeIdioms.Rule.Property
import CodeIdioms.Rule.Search
import CodeIdioms.Scan.Analysis
import CodeIdioms.Scan.Counters
import CodeIdioms.Scan.Entry
import CodeIdioms.Scan.Fault
import CodeIdioms.Scan.Glob
import CodeIdioms.Scan.IgnoreFile
import CodeIdioms.Scan.Report
import CodeIdioms.Scan.Selection
import CodeIdioms.Scan.Storage
import CodeIdioms.Scan.Walk
import CodeIdioms.Settings.Basic
import CodeIdioms.Settings.Loading
import CodeIdioms.SortedMap
import CodeIdioms.Span
import CodeIdioms.Text.Blank
import CodeIdioms.Text.Columns
import CodeIdioms.Text.Cut
import CodeIdioms.Text.Lossy
import CodeIdioms.Text.Property.Binary
import CodeIdioms.Text.Property.CaseOrbit
import CodeIdioms.Text.Property.GeneralCategory
import CodeIdioms.Text.Property.Script
import CodeIdioms.Text.Property.ScriptExtensions
import CodeIdioms.Text.Property.Word
import CodeIdioms.Text.Quoted
import CodeIdioms.Text.Ranges
import CodeIdioms.Text.Replace
import CodeIdioms.Vocabulary.Category
import CodeIdioms.Vocabulary.Concept
import CodeIdioms.Vocabulary.Difficulty
import CodeIdioms.Vocabulary.Name
