import TableQuery.Session

/-!
# Clients

A client works on a session through handles, each on one table.  A handle is bound to the session
and not to the database that was current when the handle was made, so replacing the database reaches
every handle there is.

`Client.step` does one thing and gives the reply to it.  Handles go by the order in which they were
made; a copy of a handle is the handle itself, and so it has no number of its own.
-/

namespace TableQuery

/-- What a client can do. -/
inductive Step where
  /-- Makes a handle on a table. -/
  | handle (table : String)
  /-- Makes another database current. -/
  | install (database : Database)
  /-- Asks for the text of a call through a handle. -/
  | preview (number : Nat) (call : Call)
  /-- Makes a call through a handle. -/
  | call (number : Nat) (call : Call)

/-- What a client is told. -/
inductive Reply where
  | done
  | text (result : Except Error String)
  | outcome (outcome : Outcome)
  /-- There is no handle of that number. -/
  | unknownHandle

/-- A session and the tables of the handles on it, in the order in which they were made. -/
structure Client where
  session : Session
  handles : List String

namespace Client

/-- A client with a new session and no handles yet. -/
def start (schema : Schema) (database : Database) : Client :=
  ⟨.start schema database, []⟩

/-- Does one thing. -/
def step (client : Client) : Step → Reply × Client
  | .handle table => (.done, { client with handles := client.handles ++ [table] })
  | .install database => (.done, { client with session := client.session.install database })
  | .preview number call =>
    match client.handles[number]? with
    | none => (.unknownHandle, client)
    | some table => (.text ((client.session.preview table call).map Statement.sql), client)
  | .call number call =>
    match client.handles[number]? with
    | none => (.unknownHandle, client)
    | some table =>
      let (outcome, session) := client.session.call table call
      (.outcome outcome, { client with session })

/-- Does one thing after another. -/
def run (client : Client) : List Step → List Reply × Client
  | [] => ([], client)
  | step :: rest =>
    let (reply, next) := client.step step
    let (replies, last) := next.run rest
    (reply :: replies, last)

end Client

end TableQuery
