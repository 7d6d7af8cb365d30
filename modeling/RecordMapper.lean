import RecordMapper.Answer.Served
import RecordMapper.Answer.Stored
import RecordMapper.Builder.Insert
import RecordMapper.Builder.Query
import RecordMapper.Builder.Update
import RecordMapper.Catalog
import RecordMapper.Column
import RecordMapper.ColumnType
import RecordMapper.Condition
import RecordMapper.Condition.Operator
import RecordMapper.Connection
import RecordMapper.Connection.Scripted
import RecordMapper.Database
import RecordMapper.Database.Affinity
import RecordMapper.Database.Like
import RecordMapper.Database.Store
import RecordMapper.Database.Table
import RecordMapper.Declaration
import RecordMapper.Declaration.Derived
import RecordMapper.Declaration.Expansion
import RecordMapper.Declaration.IntegerLiteral
import RecordMapper.Dialect
import RecordMapper.Engine
import RecordMapper.Error
import RecordMapper.Field
import RecordMapper.Migration
import RecordMapper.Model
import RecordMapper.Numeral.Decimal
import RecordMapper.Numeral.Floating
import RecordMapper.Record
import RecordMapper.Sample
import RecordMapper.Schema
import RecordMapper.Session
import RecordMapper.Sql.Command
import RecordMapper.Sql.Reading
import RecordMapper.Sql.Token
import RecordMapper.Statement
import RecordMapper.Text.Blank
import RecordMapper.Text.Case
import RecordMapper.Text.Escape
import RecordMapper.Text.Identifier
import RecordMapper.Text.Letter
import RecordMapper.Text.Quoted
import RecordMapper.Text.Ranges
import RecordMapper.Text.Split
import RecordMapper.Text.Visible
import RecordMapper.Text.Words
import RecordMapper.Time.Date
import RecordMapper.Time.Reading
import RecordMapper.Time.Timestamp
import RecordMapper.Url
import RecordMapper.Value
import RecordMapper.Proofs.Sql.Spelling
import RecordMapper.Proofs.Sql.Tokens
import RecordMapper.Proofs.Sql.Commands
import RecordMapper.Proofs.Time.Writing
import RecordMapper.Proofs.Literals
import RecordMapper.Proofs.Builder.Insert
import RecordMapper.Proofs.Builder.Conditions
import RecordMapper.Proofs.Builder.Chains
import RecordMapper.Proofs.Session.Ordinary
import RecordMapper.Proofs.Session.Runs
import RecordMapper.Proofs.Session.Durability
import RecordMapper.Proofs.Database.Transactions
import RecordMapper.Proofs.Session.Abandonment
import RecordMapper.Proofs.Session.Wire
import RecordMapper.Proofs.Session.Brackets
import RecordMapper.Proofs.Builder.Faults
import RecordMapper.Proofs.Builder.Refusal
import RecordMapper.Proofs.Session.Unsent
import RecordMapper.Proofs.Engine.Journal
import RecordMapper.Proofs.Engine.Versions
import RecordMapper.Proofs.Engine.Bootstrap
import RecordMapper.Proofs.Database.Versions
import RecordMapper.Proofs.Session.Aborting
import RecordMapper.Proofs.Session.Independence
import RecordMapper.Proofs.Database.Aborting
import RecordMapper.Proofs.Catalog.Defaults
import RecordMapper.Proofs.Catalog.Calls
import RecordMapper.Proofs.Migration.Steps
import RecordMapper.Proofs.Sql.Definitions
import RecordMapper.Proofs.Migration.Definitions
import RecordMapper.Proofs.Time.Timeline
import RecordMapper.Proofs.Time.Layouts
import RecordMapper.Proofs.Text.Order
import RecordMapper.Proofs.Time.Sorting
import RecordMapper.Proofs.Database.Lookup
import RecordMapper.Proofs.Database.Finding
import RecordMapper.Proofs.Builder.Parts
import RecordMapper.Proofs.Builder.Misuse
import RecordMapper.Proofs.Record.Assignments
import RecordMapper.Proofs.Record.Rows
import RecordMapper.Proofs.Builder.Batches
import RecordMapper.Proofs.Builder.Nullability
import RecordMapper.Proofs.Record.Fields
import RecordMapper.Proofs.Declaration.Instances
import RecordMapper.Proofs.Reordering
import RecordMapper.Proofs.Record.Pairs
import RecordMapper.Proofs.Migration.Changes
import RecordMapper.Proofs.Migration.Upgrades
import RecordMapper.Proofs.Database.Indexes
import RecordMapper.Proofs.Text.Splitting
import RecordMapper.Proofs.Declaration.Items
import RecordMapper.Proofs.Declaration.Options
import RecordMapper.Proofs.Declaration.Derivation
import RecordMapper.Proofs.ColumnType.Refusal
import RecordMapper.Proofs.Database.Names
import RecordMapper.Proofs.Catalog.Listing
import RecordMapper.Proofs.Engine.Clearing
import RecordMapper.Proofs.Url.Writing
import RecordMapper.Proofs.Url.Display
import RecordMapper.Proofs.Url.Spellings
import RecordMapper.Proofs.Url.Secrecy
import RecordMapper.Proofs.Builder.Fetching
import RecordMapper.Proofs.ColumnType.Settings
