import SchemaCodegen.Backend
import SchemaCodegen.CommandLine.Invocation
import SchemaCodegen.CommandLine.Parameter
import SchemaCodegen.CommandLine.Run
import SchemaCodegen.CommandLine.Usage
import SchemaCodegen.CommandLine.Words
import SchemaCodegen.Dart.Declaration
import SchemaCodegen.Dart.Expression
import SchemaCodegen.Dart.Identifier
import SchemaCodegen.Dart.Unit
import SchemaCodegen.Document.Conditional
import SchemaCodegen.Document.Container
import SchemaCodegen.Document.Node
import SchemaCodegen.Entries
import SchemaCodegen.Fault
import SchemaCodegen.FileTree
import SchemaCodegen.Formatter
import SchemaCodegen.Grammar
import SchemaCodegen.Header
import SchemaCodegen.Json.Display
import SchemaCodegen.Json.Reader
import SchemaCodegen.Json.Value
import SchemaCodegen.Main
import SchemaCodegen.Model
import SchemaCodegen.Number.Double
import SchemaCodegen.Number.Shortest
import SchemaCodegen.Path
import SchemaCodegen.Python.Annotation
import SchemaCodegen.Python.Conversion
import SchemaCodegen.Python.Declaration
import SchemaCodegen.Python.Evaluation
import SchemaCodegen.Python.Expression
import SchemaCodegen.Python.Formatted
import SchemaCodegen.Python.Forming
import SchemaCodegen.Python.Grammar.Expression
import SchemaCodegen.Python.Grammar.Pattern
import SchemaCodegen.Python.Grammar.Rule
import SchemaCodegen.Python.Grammar.Statement
import SchemaCodegen.Python.Grammar.Target
import SchemaCodegen.Python.Helper
import SchemaCodegen.Python.Identifier
import SchemaCodegen.Python.Literal
import SchemaCodegen.Python.Number
import SchemaCodegen.Python.Program
import SchemaCodegen.Python.Quotation
import SchemaCodegen.Python.Token
import SchemaCodegen.Python.Unit
import SchemaCodegen.Remark
import SchemaCodegen.Rendering
import SchemaCodegen.Schema.References
import SchemaCodegen.Schema.Rename
import SchemaCodegen.Schema.Union
import SchemaCodegen.Settings.Config
import SchemaCodegen.Settings.Naming
import SchemaCodegen.Settings.Setting
import SchemaCodegen.Source
import SchemaCodegen.Text.Blank
import SchemaCodegen.Text.Digit
import SchemaCodegen.Text.Ending
import SchemaCodegen.Text.IdentifierPart
import SchemaCodegen.Text.IdentifierStart
import SchemaCodegen.Text.Pieces
import SchemaCodegen.Text.Printable
import SchemaCodegen.Text.Quoted
import SchemaCodegen.Text.Ranges
import SchemaCodegen.Text.Similarity
import SchemaCodegen.Text.WordCharacter
import SchemaCodegen.Text.Words
import SchemaCodegen.Text.Wrapped
import SchemaCodegen.Url
import SchemaCodegen.Writer
import SchemaCodegen.Proofs.Forming
import SchemaCodegen.Proofs.Outcome
import SchemaCodegen.Proofs.Units
import SchemaCodegen.Proofs.Renaming
import SchemaCodegen.Proofs.Words
import SchemaCodegen.Proofs.WrittenTypes
import SchemaCodegen.Proofs.Stems
import SchemaCodegen.Proofs.Splitting
import SchemaCodegen.Proofs.Closure
import SchemaCodegen.Proofs.Conversion
import SchemaCodegen.Proofs.RoundTrip
import SchemaCodegen.Proofs.Sharing
import SchemaCodegen.Proofs.Scanning
import SchemaCodegen.Proofs.Annotation
import SchemaCodegen.Proofs.LookedUpNames
import SchemaCodegen.Proofs.HelperImports
import SchemaCodegen.Proofs.Paths
import SchemaCodegen.Proofs.Templates
import SchemaCodegen.Proofs.TreeChanges
import SchemaCodegen.Proofs.Writing
import SchemaCodegen.Proofs.Runs
import SchemaCodegen.Proofs.Parsed
import SchemaCodegen.Proofs.Renderable
import SchemaCodegen.Proofs.ImportPaths
import SchemaCodegen.Proofs.KeptApart
import SchemaCodegen.Proofs.Casing
import SchemaCodegen.Proofs.VariantNames
import SchemaCodegen.Proofs.Places
import SchemaCodegen.Proofs.LocalReferences
import SchemaCodegen.Proofs.SingleSchemas
import SchemaCodegen.Proofs.Identifiers
import SchemaCodegen.Proofs.Members
import SchemaCodegen.Proofs.ReadAnnotations
import SchemaCodegen.Proofs.SplitReturns
import SchemaCodegen.Proofs.Descriptions
import SchemaCodegen.Proofs.Treatments
import SchemaCodegen.Proofs.Stability
import SchemaCodegen.Proofs.ReportedFaults
import SchemaCodegen.Proofs.CaseLaws
import SchemaCodegen.Proofs.DefaultNames
import SchemaCodegen.Proofs.NestedArrays
import SchemaCodegen.Proofs.WrittenSettings
import SchemaCodegen.Proofs.FirstOccurrences
import SchemaCodegen.Proofs.OrderedProperties
import SchemaCodegen.Proofs.Flattening
import SchemaCodegen.Proofs.Directories
import SchemaCodegen.Proofs.IndependentWrites
import SchemaCodegen.Proofs.CheckedUnions
import SchemaCodegen.Proofs.Codecs
import SchemaCodegen.Proofs.Dispatch
import SchemaCodegen.Proofs.BrokenUnions
import SchemaCodegen.Proofs.ValidIdentifiers
import SchemaCodegen.Proofs.LiteralKeys
import SchemaCodegen.Proofs.ClassNames
import SchemaCodegen.Proofs.BlankLines
import SchemaCodegen.Proofs.DistinctPaths
import SchemaCodegen.Proofs.ReadTexts
import SchemaCodegen.Proofs.LoadedSchemas
import SchemaCodegen.Proofs.FaultPaths
import SchemaCodegen.Proofs.ReplacedEndings
