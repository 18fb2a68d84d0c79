import TableQuery.Row
import TableQuery.Statement

/-!
# Sessions

A session binds a schema to the database that is current and passes statements to it.  The current
database can be replaced at any time; one that has been replaced is kept, because a caller may still
hold on to it and look at what it received.

A `Call` is one of the seven things that can be asked of a table.  `Session.call` builds its
statement first.  A call whose statement cannot be built reaches no database; any other is sent to
the database that is current at that moment, once, and what comes back is the outcome.

A database answers from a list of responses prepared for it, one for every statement, and with no
rows when there are none left.
-/

namespace TableQuery

/-- What a database answers to one statement. -/
inductive Response where
  | rows (rows : List Row)
  | failure (message : String)

/-- A database with the statements it has received and the responses it has yet to give. -/
structure Database where
  label : String
  responses : List Response
  received : List String

/-- One of the seven things that can be asked of a table. -/
inductive Call where
  | find (request : Request)
  | findOne (key : Literal) (request : Request)
  | createOne (item : Item)
  | update (item : Item) (request : Request)
  | updateOne (key : Literal) (item : Item) (request : Request)
  | remove (request : Request)
  | removeOne (key : Literal) (request : Request)

/-- What a successful call gives: every row, or the first one if there is any. -/
inductive Answer where
  | rows (rows : List Row)
  | row (row : Option Row)

/-- Why a call has no answer. -/
inductive CallError where
  /-- Its statement could not be built. -/
  | compile (cause : Error)
  /-- The database refused the statement. -/
  | database (message : String)

/-- What comes of a call. -/
abbrev Outcome := Except CallError Answer

/-- A schema, the current database, and those that were current before, oldest first. -/
structure Session where
  schema : Schema
  retired : List Database
  current : Database

/-- The wording of a failed call. -/
def CallError.message : CallError → String
  | .compile cause => "compile error: " ++ cause.message
  | .database message => "database error: " ++ message

namespace Database

/-- A database that has received nothing yet. -/
def prepared (label : String) (responses : List Response) : Database :=
  ⟨label, responses, []⟩

/-- Takes a statement and gives the next response. -/
def run (database : Database) (statement : String) : Response × Database :=
  (database.responses.head?.getD (.rows []),
    { database with
      responses := database.responses.tail
      received := database.received ++ [statement] })

end Database

namespace Call

/-- The statement of a call on a table. -/
def statement (schema : Schema) (table : String) : Call → Except Error Statement
  | .find request => Statement.find schema table request
  | .findOne key request => Statement.findOne schema table key request
  | .createOne item => Statement.createOne schema table item
  | .update item request => Statement.update schema table item request
  | .updateOne key item request => Statement.updateOne schema table key item request
  | .remove request => Statement.remove schema table request
  | .removeOne key request => Statement.removeOne schema table key request

/-- Whether a call concerns the row with a given key. -/
def isByKey : Call → Bool
  | .findOne .. => true
  | .updateOne .. => true
  | .removeOne .. => true
  | _ => false

/-- The outcome of a call for the response of its database.  A call by key gives the first row. -/
def outcome (call : Call) : Response → Outcome
  | .rows rows => .ok (if call.isByKey then .row rows.head? else .rows rows)
  | .failure message => .error (.database message)

end Call

namespace Session

/-- A session on a database. -/
def start (schema : Schema) (database : Database) : Session :=
  ⟨schema, [], database⟩

/-- Every database that has been current, oldest first; the last one still is. -/
def databases (session : Session) : List Database :=
  session.retired ++ [session.current]

/-- The place of the current database among all. -/
def currentIndex (session : Session) : Nat :=
  session.retired.length

/-- Makes another database current. -/
def install (session : Session) (database : Database) : Session :=
  { session with retired := session.databases, current := database }

/-- Makes a call on a table. -/
def call (session : Session) (table : String) (call : Call) : Outcome × Session :=
  match call.statement session.schema table with
  | .error cause => (.error (.compile cause), session)
  | .ok statement =>
    let (response, current) := session.current.run statement.sql
    (call.outcome response, { session with current })

/-- Builds the statement of a call and sends nothing. -/
def preview (session : Session) (table : String) (call : Call) : Except Error Statement :=
  call.statement session.schema table

end Session

end TableQuery
