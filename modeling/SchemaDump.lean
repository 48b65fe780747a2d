import SchemaDump.Settings
import SchemaDump.Form.Dump
import SchemaDump.Source.Memory
import SchemaDump.Source.Interruption
import SchemaDump.Proofs.Document.RoundTrip
import SchemaDump.Proofs.Document.Acceptance
import SchemaDump.Proofs.Dialect.Insertion
import SchemaDump.Proofs.Dialect.Acceptance
import SchemaDump.Proofs.Script
import SchemaDump.Proofs.Exporter.Streaming
import SchemaDump.Proofs.Document.Distinct
import SchemaDump.Proofs.Document.Truncation
import SchemaDump.Proofs.Document.Canonical
import SchemaDump.Proofs.Table.Live
import SchemaDump.Proofs.Script.Live
import SchemaDump.Proofs.Script.Registered
import SchemaDump.Proofs.Script.Counters
import SchemaDump.Proofs.Exporter.Pipeline
import SchemaDump.Proofs.Script.Indexes
import SchemaDump.Proofs.Form.Dump
import SchemaDump.Proofs.Dialect.Enumeration
import SchemaDump.Proofs.Dialect.ValueList
import SchemaDump.Proofs.Exporter.Requests
import SchemaDump.Proofs.Table.Name
import SchemaDump.Proofs.Exporter.Limits
import SchemaDump.Proofs.Dialect.Default
import SchemaDump.Proofs.Dialect.DataType
import SchemaDump.Proofs.Dialect.Parameters
import SchemaDump.Proofs.Dialect.ZeroDate
import SchemaDump.Proofs.Source.Memory
import SchemaDump.Proofs.Registry.Registration
import SchemaDump.Proofs.Script.Layout
import SchemaDump.Proofs.Dialect.PrimaryKey
import SchemaDump.Proofs.Dialect.Extra
import SchemaDump.Proofs.Document.Assembly
import SchemaDump.Proofs.Sql.CurrentTime
