import CatalogDdl.Text.Basic
import CatalogDdl.Text.UpperCase
import CatalogDdl.Sql.Quoting
import CatalogDdl.Types.Target
import CatalogDdl.Ordering
import CatalogDdl.Traced
import CatalogDdl.Catalog.Scripted
import CatalogDdl.Table.Statement
import CatalogDdl.Table.Reading
import CatalogDdl.Output.File
import CatalogDdl.Output.Server
import CatalogDdl.Disk.Basic
import CatalogDdl.Command.Basic
import CatalogDdl.Main
import CatalogDdl.Proofs.Sql.CreateTable
import CatalogDdl.Proofs.Sql.Declaration
import CatalogDdl.Proofs.Table.RoundTrip
import CatalogDdl.Proofs.Run.Entries
import CatalogDdl.Proofs.Sql.Reader
import CatalogDdl.Proofs.Run.Statements
import CatalogDdl.Proofs.Output.Script
import CatalogDdl.Proofs.Output.Server
import CatalogDdl.Proofs.Text.ByteOrder
import CatalogDdl.Proofs.Run.Accounting
import CatalogDdl.Proofs.Run.Isolation
import CatalogDdl.Proofs.Run.Rearrangement
import CatalogDdl.Proofs.Run.Reference
import CatalogDdl.Proofs.Run.Declarations
import CatalogDdl.Proofs.Run.Resolution
import CatalogDdl.Proofs.Run.IndexColumns
import CatalogDdl.Proofs.Connection.Target
import CatalogDdl.Proofs.Output.Delivery
import CatalogDdl.Proofs.Command.Outcome
import CatalogDdl.Proofs.Table.Grouping
import CatalogDdl.Proofs.Types.Grammar
import CatalogDdl.Proofs.Table.Acceptance
import CatalogDdl.Proofs.Table.KeyPlacement
import CatalogDdl.Proofs.Types.ColumnType
import CatalogDdl.Proofs.Database.Literal
import CatalogDdl.Proofs.Table.DefaultExpression
import CatalogDdl.Proofs.Sql.Lexeme
import CatalogDdl.Proofs.Table.Naming
import CatalogDdl.Proofs.Table.NameLists
import CatalogDdl.Proofs.Table.Events
import CatalogDdl.Proofs.Table.Action
import CatalogDdl.Proofs.Run.Indexes
import CatalogDdl.Proofs.Output.Capacity
import CatalogDdl.Proofs.Command.RowCounts
import CatalogDdl.Proofs.Types.Canonical
import CatalogDdl.Proofs.Run.Counts
import CatalogDdl.Proofs.Output.Groups
import CatalogDdl.Proofs.Run.Filters
