import SchemaCodegen.Text.LetterCase
import SchemaCodegen.Text.Alphanumeric
import SchemaCodegen.Text.Graphic
import SchemaCodegen.Text.CaseMap
import SchemaCodegen.Text.Blank
import SchemaCodegen.Text.Casing
import SchemaCodegen.Text.Search
import SchemaCodegen.Text.Literal
import SchemaCodegen.Text.Quoted
import SchemaCodegen.Text.Position
import SchemaCodegen.Number.Binary64
import SchemaCodegen.Number.Decimal
import SchemaCodegen.Number.Shortest
import SchemaCodegen.Number.RealText
import SchemaCodegen.Vocabulary.Target
import SchemaCodegen.Column.Stream
import SchemaCodegen.TypeMap.Java
import SchemaCodegen.TypeMap.CSharp
import SchemaCodegen.TypeMap.TypeScript
import SchemaCodegen.TypeMap.Zod
import SchemaCodegen.Naming.Member
import SchemaCodegen.Layout.Printer
import SchemaCodegen.Declaration.Java
import SchemaCodegen.Declaration.CSharp
import SchemaCodegen.Declaration.TypeScript
import SchemaCodegen.Mapper.Statement
import SchemaCodegen.Emission.Configured
import SchemaCodegen.Document.Fault
import SchemaCodegen.Document.Content
import SchemaCodegen.Document.Shape
import SchemaCodegen.Document.Json.Reader
import SchemaCodegen.Document.Moment
import SchemaCodegen.Document.Toml.Scalar
import SchemaCodegen.Document.Toml.Assembly
import SchemaCodegen.Document.Toml.Statement
import SchemaCodegen.Document.Toml.Kept
import SchemaCodegen.Column.Samples
import SchemaCodegen.Document.Format
import SchemaCodegen.Document.Source
import SchemaCodegen.Generation.Run
import SchemaCodegen.CommandLine.Arguments
import SchemaCodegen.CommandLine.Outcome
import SchemaCodegen.CommandLine.Store
import SchemaCodegen.Main
import SchemaCodegen.Proofs.Column.Violation
import SchemaCodegen.Proofs.Layout.Separators
import SchemaCodegen.Proofs.Layout.Rendering
import SchemaCodegen.Proofs.Layout.Lines
import SchemaCodegen.Proofs.Layout.Levels
import SchemaCodegen.Proofs.Layout.Ends
import SchemaCodegen.Proofs.Declaration.Lines
import SchemaCodegen.Proofs.Declaration.Separation
import SchemaCodegen.Proofs.Naming.Characters
import SchemaCodegen.Proofs.Mapper.Fragments
import SchemaCodegen.Proofs.Mapper.Pieces
import SchemaCodegen.Proofs.Mapper.Parameters
import SchemaCodegen.Proofs.Text.Folding
import SchemaCodegen.Proofs.Mapper.Forms
import SchemaCodegen.Proofs.Mapper.Writing
import SchemaCodegen.Proofs.Mapper.Classification
import SchemaCodegen.Proofs.TypeMap.Entries
import SchemaCodegen.Proofs.TypeMap.Correspondence
import SchemaCodegen.Proofs.TypeMap.Parentheses
import SchemaCodegen.Proofs.TypeMap.Arrays
import SchemaCodegen.Proofs.TypeMap.Spelling
import SchemaCodegen.Proofs.Emission.Consumption
import SchemaCodegen.Proofs.Emission.Source
import SchemaCodegen.Proofs.Emission.Dispatch
import SchemaCodegen.Proofs.Emission.Acceptance
import SchemaCodegen.Proofs.Emission.UnitText
import SchemaCodegen.Proofs.Generation.Outcome
import SchemaCodegen.Proofs.Generation.Composition
import SchemaCodegen.Proofs.CommandLine.Writing
import SchemaCodegen.Proofs.CommandLine.Generating
import SchemaCodegen.Proofs.Nesting.Basic
import SchemaCodegen.Proofs.Nesting.Names
import SchemaCodegen.Proofs.Nesting.Types
import SchemaCodegen.Proofs.Nesting.Declarations
import SchemaCodegen.Proofs.Nesting.Statements
import SchemaCodegen.Proofs.Nesting.Units
import SchemaCodegen.Proofs.Emission.Blocks
import SchemaCodegen.Proofs.Emission.Partition
import SchemaCodegen.Proofs.Emission.Independence
import SchemaCodegen.Proofs.Emission.OneLine
import SchemaCodegen.Proofs.Emission.Spacing
import SchemaCodegen.Proofs.Mapper.Wrapping
import SchemaCodegen.Proofs.Mapper.Fit
import SchemaCodegen.Proofs.Mapper.Outline
import SchemaCodegen.Proofs.Text.ByteOrder
import SchemaCodegen.Proofs.Document.Entries
import SchemaCodegen.Proofs.Options.Spelling
import SchemaCodegen.Proofs.Options.Decoding
import SchemaCodegen.Proofs.Emission.Agreement
import SchemaCodegen.Proofs.Schema.Rows
import SchemaCodegen.Proofs.Document.Filling
import SchemaCodegen.Proofs.Request.Acceptance
import SchemaCodegen.Proofs.Request.Formats
import SchemaCodegen.Proofs.Document.Quotations
import SchemaCodegen.Proofs.Document.Spellings
import SchemaCodegen.Proofs.Document.Statements
import SchemaCodegen.Proofs.Request.Diagnostics
import SchemaCodegen.Proofs.Text.Ascii
import SchemaCodegen.Proofs.Text.Segments
import SchemaCodegen.Proofs.Naming.Conversion
import SchemaCodegen.Proofs.Naming.Canonical
import SchemaCodegen.Proofs.Mapper.Keys
import SchemaCodegen.Proofs.Naming.Stability
import SchemaCodegen.Proofs.Text.Literals
import SchemaCodegen.Proofs.Text.IdentifierCharacters
import SchemaCodegen.Proofs.Naming.Legality
import SchemaCodegen.Proofs.Naming.Comments
import SchemaCodegen.Proofs.Emission.Comments
import SchemaCodegen.Proofs.Emission.Annotations
import SchemaCodegen.Proofs.Emission.Attributes
import SchemaCodegen.Proofs.Naming.Escaping
import SchemaCodegen.Proofs.Emission.Pulls
import SchemaCodegen.Proofs.Text.Words
import SchemaCodegen.Proofs.Text.Lowering
import SchemaCodegen.Proofs.Text.Occurrence
import SchemaCodegen.Proofs.Text.Spans
import SchemaCodegen.Proofs.Document.Places
import SchemaCodegen.Proofs.Vocabulary.Resolution
import SchemaCodegen.Proofs.Schema.Acceptance
import SchemaCodegen.Proofs.Emission.Chains
import SchemaCodegen.Proofs.Emission.NullMarks
import SchemaCodegen.Proofs.Document.Kept
import SchemaCodegen.Proofs.TypeMap.Expressions
import SchemaCodegen.Proofs.TypeMap.Marks
