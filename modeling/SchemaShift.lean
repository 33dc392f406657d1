import SchemaShift.Connection.Config
import SchemaShift.Ddl.Dialect
import SchemaShift.Diff.Encoding
import SchemaShift.Json.Printer
import SchemaShift.Json.Reader
import SchemaShift.Output.DiffFile
import SchemaShift.Output.UnitSource
import SchemaShift.Query.Encoding
import SchemaShift.Calendar.Reader
import SchemaShift.Migration.SchemaDiff
import SchemaShift.Migration.Registry
import SchemaShift.Migration.Runner
import SchemaShift.Command.Arguments
import SchemaShift.Command.Execute
import SchemaShift.Main
import SchemaShift.Proofs.Catalog.Defaults
import SchemaShift.Proofs.Catalog.ReservedIndexes
import SchemaShift.Proofs.Catalog.TableDescriptors
import SchemaShift.Proofs.Ddl.Alteration
import SchemaShift.Proofs.Ddl.OneLine
import SchemaShift.Proofs.Ddl.QuotedText
import SchemaShift.Proofs.Diff.EmptyDiff
import SchemaShift.Proofs.Diff.Mirror
import SchemaShift.Proofs.Diff.WayBack
import SchemaShift.Proofs.Migration.Abort
import SchemaShift.Proofs.Migration.Delivery
import SchemaShift.Proofs.Migration.ExactlyOnce
import SchemaShift.Proofs.Migration.HistoryMap
import SchemaShift.Proofs.Migration.Listing
import SchemaShift.Proofs.Migration.Making
import SchemaShift.Proofs.Ddl.IndexNamespace
import SchemaShift.Proofs.Diff.IndexOrder
import SchemaShift.Proofs.Ddl.Openings
import SchemaShift.Proofs.Diff.Undetected
import SchemaShift.Proofs.Migration.Applying
import SchemaShift.Proofs.Output.DiffFile
import SchemaShift.Proofs.Output.SourceLiteral
import SchemaShift.Proofs.Output.UnitSource
import SchemaShift.Proofs.Migration.Finishing
import SchemaShift.Proofs.Migration.Status
import SchemaShift.Proofs.Catalog.ListedTables
import SchemaShift.Proofs.Catalog.Introspection
import SchemaShift.Proofs.Diff.Contents
import SchemaShift.Proofs.Json.Restated
import SchemaShift.Proofs.Migration.Registration
import SchemaShift.Proofs.Schema.Encoding
import SchemaShift.Proofs.Schema.IndexGrowth
import SchemaShift.Proofs.Diff.Encoding
import SchemaShift.Proofs.Ddl.LineBreaks
import SchemaShift.Proofs.Query.Inertness
import SchemaShift.Proofs.Text.Integer
import SchemaShift.Proofs.Schema.DeclaredTypes
import SchemaShift.Proofs.Calendar.Instant
import SchemaShift.Proofs.Output.UnitId
import SchemaShift.Proofs.Output.UnitName
import SchemaShift.Proofs.Calendar.Spellings
import SchemaShift.Proofs.Catalog.AutoIncrement
import SchemaShift.Proofs.Schema.OnUpdate
