import Tabula.Text.Blank
import Tabula.Column
import Tabula.Sql.ColumnRef
import Tabula.Sql.Statement.Render
import Tabula.Sql.Statement.Cursor
import Tabula.Json.Read
import Tabula.Json.Print
import Tabula.Query.Execute
import Tabula.Database.Snapshot
import Tabula.Database.Document
import Tabula.Host.Path
import Tabula.Host.Disk
import Tabula.Config
import Tabula.Session
import Tabula.Shell.Basic
import Tabula.Shell.Program
import Tabula.Main
import Tabula.Proofs.Change
import Tabula.Proofs.Keyed
import Tabula.Proofs.Json.Fields
import Tabula.Proofs.Json.RoundTrip
import Tabula.Proofs.Database.Document
import Tabula.Proofs.Database.RoundTrip
import Tabula.Proofs.Result
import Tabula.Proofs.Host.Path
import Tabula.Proofs.Host.Disk
import Tabula.Proofs.Host.Calls
import Tabula.Proofs.Host.Saving
import Tabula.Proofs.Schema
import Tabula.Proofs.Schema.Lookup
import Tabula.Proofs.Index
import Tabula.Proofs.Index.Relation
import Tabula.Proofs.Table.Mirror
import Tabula.Proofs.Plain.Database
import Tabula.Proofs.Schema.Binding
import Tabula.Proofs.Plain.Constraints
import Tabula.Proofs.Plain.Sound
import Tabula.Proofs.Plain.Exact
import Tabula.Proofs.Table.Refinement
import Tabula.Proofs.Query.Access
import Tabula.Proofs.Query.Join
import Tabula.Proofs.Query.Exchange
import Tabula.Proofs.Query.Condition
import Tabula.Proofs.Query.Qualifiers
import Tabula.Proofs.Query.Names
import Tabula.Proofs.Sql.Grammar
import Tabula.Proofs.Sql.Parsing
import Tabula.Proofs.Sql.Acceptance
import Tabula.Proofs.Sql.Printable
import Tabula.Proofs.Sql.RoundTrip
import Tabula.Proofs.Sql.LetterCase
import Tabula.Proofs.Sql.Folded
import Tabula.Proofs.Text.Lines
import Tabula.Proofs.Sql.Blanks
import Tabula.Proofs.Query.LetterCase
import Tabula.Proofs.Table.WellFormed
import Tabula.Proofs.Database.Refinement
import Tabula.Proofs.Database.Reachable
import Tabula.Proofs.Database.Runs
import Tabula.Proofs.Table.Exact
import Tabula.Proofs.Table.Lookup
import Tabula.Proofs.Database.Frame
import Tabula.Proofs.Database.Restore
import Tabula.Proofs.Database.RowIds
import Tabula.Proofs.Database.Reload
import Tabula.Proofs.Database.Lifetime
import Tabula.Proofs.Database.Repeated
import Tabula.Proofs.Database.Undone
import Tabula.Proofs.Database.LetterCase
import Tabula.Proofs.Session.Running
import Tabula.Proofs.Session.Autosave
import Tabula.Proofs.Shell.Statements
import Tabula.Proofs.Sql.Spelling
import Tabula.Proofs.Sql.Positions
import Tabula.Proofs.Sql.Integers
import Tabula.Proofs.Sql.Refusals
import Tabula.Proofs.Sql.EndMark
import Tabula.Proofs.Sql.Cursor
import Tabula.Proofs.Sql.Pasted
import Tabula.Proofs.Shell.Reachable
import Tabula.Proofs.Shell.Schemas
import Tabula.Proofs.Plain.Numbered
import Tabula.Proofs.Plain.Exportable
import Tabula.Proofs.Plain.Reload
import Tabula.Proofs.Plain.Load
