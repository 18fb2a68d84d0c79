import TableQuery.Check
import TableQuery.Connection
import TableQuery.Decimal.Numeral
import TableQuery.Schema.Check
import TableQuery.Schema.Declaration
import TableQuery.Session
import TableQuery.Proofs.FieldPath.Check
import TableQuery.Proofs.FieldPath.Prefix
import TableQuery.Proofs.Filter.Meaning
import TableQuery.Proofs.Filter.Nesting
import TableQuery.Proofs.Filter.Outline
import TableQuery.Proofs.Filter.Refusal
import TableQuery.Proofs.Filter.Membership
import TableQuery.Proofs.Request
import TableQuery.Proofs.Statement.Failure
import TableQuery.Proofs.Statement.Key
import TableQuery.Proofs.Statement.Tables
import TableQuery.Proofs.Statement.References
import TableQuery.Proofs.Statement.Occurrence
import TableQuery.Proofs.Statement.Declared
import TableQuery.Proofs.Statement.Where
import TableQuery.Proofs.Statement.Target
import TableQuery.Client
import TableQuery.Proofs.Run
import TableQuery.Proofs.Row
import TableQuery.Proofs.Statement.Values
import TableQuery.Proofs.Statement.Sharing
import TableQuery.Proofs.Statement.ByKey
import TableQuery.Proofs.Statement.Locality
import TableQuery.Proofs.Statement.Insertion
import TableQuery.Proofs.Json.Record
import TableQuery.Proofs.Schema.Declaration
import TableQuery.Proofs.Schema.Added
import TableQuery.Proofs.Item
import TableQuery.Proofs.Request.Declaration
