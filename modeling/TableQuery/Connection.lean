import TableQuery.Json.Decode

/-!
# Connection settings

Where the database is and how many connections may be open at once.  Both settings have a default:
a database in memory, and five connections.
-/

namespace TableQuery

/-- How to connect to a database. -/
structure Connection where
  url : String
  maxConnections : UInt32
  deriving DecidableEq, Repr

namespace Connection

def default : Connection := ⟨"sqlite::memory:", 5⟩

def shape : Json.RecordShape Connection where
  name := "struct SqliteOptions"
  fields :=
    [.decoded "url" false Json.asString (fun url connection => { connection with url }),
      .decoded "maxConnections" false Json.asUInt32
        (fun maxConnections connection => { connection with maxConnections })]
  blank := default

/-- The settings that a JSON value declares. -/
def ofJson (declaration : Json) : Except Json.DecodeFault Connection :=
  shape.decode declaration

end Connection

end TableQuery
