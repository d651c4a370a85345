import HomeCatalog.Bindings.Basic
import HomeCatalog.Bindings.Generation
import HomeCatalog.Bindings.Swift.Names
import HomeCatalog.Bindings.Swift.Source
import HomeCatalog.Bindings.Swift.Tree
import HomeCatalog.Bindings.TypeScript.Names
import HomeCatalog.Bindings.TypeScript.Source
import HomeCatalog.Bindings.TypeScript.Tree
import HomeCatalog.Calendar.Date
import HomeCatalog.Calendar.Moment
import HomeCatalog.Catalog.Basic
import HomeCatalog.CatalogFile.Quoted
import HomeCatalog.CatalogFile.Reader
import HomeCatalog.CatalogFile.Storage
import HomeCatalog.CatalogFile.Writer
import HomeCatalog.Command.Arguments
import HomeCatalog.Command.Extract
import HomeCatalog.Command.Generate
import HomeCatalog.Command.Program
import HomeCatalog.Command.Session
import HomeCatalog.Decimal.Reading
import HomeCatalog.Decimal.Shortest
import HomeCatalog.Diagnostic
import HomeCatalog.Document.Base64
import HomeCatalog.Document.Flaw
import HomeCatalog.Document.Graph
import HomeCatalog.Document.PropertyList
import HomeCatalog.Document.PropertyList.Binary
import HomeCatalog.Document.PropertyList.Markup
import HomeCatalog.Document.Value
import HomeCatalog.Document.Xml.Declaration
import HomeCatalog.Document.Xml.DocumentType
import HomeCatalog.Document.Xml.DocumentType.Attribute
import HomeCatalog.Document.Xml.DocumentType.Element
import HomeCatalog.Document.Xml.DocumentType.Token
import HomeCatalog.Document.Xml.Encoding
import HomeCatalog.Document.Xml.Event
import HomeCatalog.Document.Xml.Names
import HomeCatalog.Document.Xml.Reference
import HomeCatalog.Document.Yaml.Block
import HomeCatalog.Document.Yaml.Construction
import HomeCatalog.Document.Yaml.Line
import HomeCatalog.Document.Yaml.Node
import HomeCatalog.Document.Yaml.Number
import HomeCatalog.Document.Yaml.Plain
import HomeCatalog.Document.Yaml.Property
import HomeCatalog.Document.Yaml.Quoted
import HomeCatalog.Document.Yaml.Reading
import HomeCatalog.Document.Yaml.Scalar
import HomeCatalog.Document.Yaml.Tag
import HomeCatalog.Document.Yaml.Timestamp
import HomeCatalog.Document.Yaml.Token
import HomeCatalog.Entries
import HomeCatalog.Extraction.Basic
import HomeCatalog.Extraction.Reading
import HomeCatalog.Failure
import HomeCatalog.Files.Path
import HomeCatalog.Files.Tree
import HomeCatalog.Files.Update
import HomeCatalog.Header.Declaration
import HomeCatalog.Header.Documentation
import HomeCatalog.Identifier.Allocator
import HomeCatalog.Identifier.Basic
import HomeCatalog.Layout
import HomeCatalog.Main
import HomeCatalog.Metadata.Document
import HomeCatalog.Metadata.Name
import HomeCatalog.Metadata.Record
import HomeCatalog.Metadata.Relationships
import HomeCatalog.Problem
import HomeCatalog.Proofs.Bindings.Assignment
import HomeCatalog.Proofs.Bindings.Dangling
import HomeCatalog.Proofs.Bindings.Installation
import HomeCatalog.Proofs.Bindings.Namespaces
import HomeCatalog.Proofs.Bindings.Paths
import HomeCatalog.Proofs.Bindings.References
import HomeCatalog.Proofs.Bindings.Repeats
import HomeCatalog.Proofs.Bindings.Reporting
import HomeCatalog.Proofs.Bindings.Resolution
import HomeCatalog.Proofs.Bindings.Sorted
import HomeCatalog.Proofs.Bindings.Swift.Closed
import HomeCatalog.Proofs.Bindings.Swift.Names
import HomeCatalog.Proofs.Bindings.Swift.Texts
import HomeCatalog.Proofs.Bindings.TypeNames
import HomeCatalog.Proofs.Bindings.TypeScript.Closed
import HomeCatalog.Proofs.Bindings.TypeScript.Comments
import HomeCatalog.Proofs.Bindings.TypeScript.Documentation
import HomeCatalog.Proofs.Bindings.TypeScript.Legible
import HomeCatalog.Proofs.Bindings.TypeScript.Names
import HomeCatalog.Proofs.Bindings.TypeScript.Texts
import HomeCatalog.Proofs.Bindings.TypeSorts
import HomeCatalog.Proofs.Calendar.Dates
import HomeCatalog.Proofs.Calendar.Instants
import HomeCatalog.Proofs.Calendar.Stamp
import HomeCatalog.Proofs.Catalog.Sorting
import HomeCatalog.Proofs.Catalog.StampLines
import HomeCatalog.Proofs.Catalog.StorageOrder
import HomeCatalog.Proofs.Catalog.Texts
import HomeCatalog.Proofs.CatalogFile.Entry
import HomeCatalog.Proofs.CatalogFile.Items
import HomeCatalog.Proofs.CatalogFile.LineEnds
import HomeCatalog.Proofs.CatalogFile.Names
import HomeCatalog.Proofs.CatalogFile.Pieces
import HomeCatalog.Proofs.CatalogFile.Reading
import HomeCatalog.Proofs.CatalogFile.Rewriting
import HomeCatalog.Proofs.CatalogFile.RoundTrip
import HomeCatalog.Proofs.CatalogFile.Storage
import HomeCatalog.Proofs.CatalogFile.Writing
import HomeCatalog.Proofs.Entries
import HomeCatalog.Proofs.Extraction.Comments
import HomeCatalog.Proofs.Extraction.Declarations
import HomeCatalog.Proofs.Extraction.Degradation
import HomeCatalog.Proofs.Extraction.Extracted
import HomeCatalog.Proofs.Extraction.Findings
import HomeCatalog.Proofs.Extraction.References
import HomeCatalog.Proofs.Extraction.RoundTrip
import HomeCatalog.Proofs.Extraction.Sources
import HomeCatalog.Proofs.Files.Drafts
import HomeCatalog.Proofs.Files.Places
import HomeCatalog.Proofs.Files.Refusals
import HomeCatalog.Proofs.Files.Replacement
import HomeCatalog.Proofs.Files.Storing
import HomeCatalog.Proofs.Header.Composition
import HomeCatalog.Proofs.Header.Declared
import HomeCatalog.Proofs.Header.Written
import HomeCatalog.Proofs.History
import HomeCatalog.Proofs.Identifier.Allocation
import HomeCatalog.Proofs.Identifier.TypeName
import HomeCatalog.Proofs.Metadata.LetterCase
import HomeCatalog.Proofs.Metadata.Loading
import HomeCatalog.Proofs.Metadata.Name
import HomeCatalog.Proofs.Metadata.RecordOrder
import HomeCatalog.Proofs.Metadata.Sections
import HomeCatalog.Proofs.Order
import HomeCatalog.Proofs.Reconciliation.Counting
import HomeCatalog.Proofs.Reconciliation.Decision
import HomeCatalog.Proofs.Reconciliation.Hints
import HomeCatalog.Proofs.Reconciliation.LastEntries
import HomeCatalog.Proofs.Reconciliation.Preservation
import HomeCatalog.Proofs.Reconciliation.RecordOrder
import HomeCatalog.Proofs.Reconciliation.Repetition
import HomeCatalog.Proofs.Reconciliation.Staging
import HomeCatalog.Proofs.Reconciliation.Strategies
import HomeCatalog.Proofs.Stub.BlockEntries
import HomeCatalog.Proofs.Stub.BlockLines
import HomeCatalog.Proofs.Stub.BlockLists
import HomeCatalog.Proofs.Stub.FlowLists
import HomeCatalog.Proofs.Stub.Outline
import HomeCatalog.Proofs.Text.Capitals
import HomeCatalog.Proofs.Text.Cutting
import HomeCatalog.Proofs.Text.SmallLetters
import HomeCatalog.Proofs.Text.Spacing
import HomeCatalog.Proofs.Text.Trimming
import HomeCatalog.Proofs.Text.Utf8
import HomeCatalog.Proofs.Text.Words
import HomeCatalog.Reconciliation.Basic
import HomeCatalog.Reconciliation.Specification
import HomeCatalog.Stub.Symbols
import HomeCatalog.Terminal.Mishap
import HomeCatalog.Terminal.Report
import HomeCatalog.Terminal.Screen
import HomeCatalog.Terminal.Wrapping
import HomeCatalog.Text.Alphanumeric
import HomeCatalog.Text.Basic
import HomeCatalog.Text.Bytes
import HomeCatalog.Text.CaseTables
import HomeCatalog.Text.Casing
import HomeCatalog.Text.CellWidth
import HomeCatalog.Text.Charset.Basic
import HomeCatalog.Text.Charset.Tables
import HomeCatalog.Text.Digit
import HomeCatalog.Text.Literal
import HomeCatalog.Text.Printable
import HomeCatalog.Text.Ranges
import HomeCatalog.Text.Scan
import HomeCatalog.Text.Uppercase
import HomeCatalog.Text.Wide
