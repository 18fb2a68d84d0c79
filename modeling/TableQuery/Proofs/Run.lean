import Mathlib.Data.List.Induction
import TableQuery.Client
import TableQuery.Proofs.Except

/-!
# What a run sends and what comes back

A run replaces databases, makes handles and makes calls in any order.  Here all that it does to
databases and all that it replies is read off the list of its steps alone, without the client in
between.

* `Run.sentTo` are the texts that the database with a given number is sent: those of the calls that
  stand behind its installation and before the next one, and whose statement can be built.
* `Run.reply` is the reply to a step, given the steps before it.  A call is answered by the database
  installed last, with the response that it has ready for its next statement.

`Run.reached_step` shows that one step keeps a client to this account, and `Run.run_start` that
a whole run does.
-/

namespace TableQuery

/-- The text of a call on a table: each of the seven calls has a statement of its own. -/
def Call.text (schema : Schema) (table : String) : Call → Except Error String
  | .find request => (Statement.find schema table request).map Statement.sql
  | .findOne key request => (Statement.findOne schema table key request).map Statement.sql
  | .createOne item => (Statement.createOne schema table item).map Statement.sql
  | .update item request => (Statement.update schema table item request).map Statement.sql
  | .updateOne key item request =>
    (Statement.updateOne schema table key item request).map Statement.sql
  | .remove request => (Statement.remove schema table request).map Statement.sql
  | .removeOne key request => (Statement.removeOne schema table key request).map Statement.sql

/-- The text of a call is that of the statement that a session builds for it. -/
theorem Call.text_eq_map (schema : Schema) (table : String) (call : Call) :
    call.text schema table = (call.statement schema table).map Statement.sql := by
  cases call <;> rfl

namespace Database

/-- A database that has received some more statements and has given a response to each. -/
def after (database : Database) (texts : List String) : Database :=
  { database with
    responses := database.responses.drop texts.length
    received := database.received ++ texts }

/-- The response of a database to the statement with the given number. -/
def response (database : Database) (number : Nat) : Response :=
  database.responses[number]?.getD (.rows [])

theorem after_nil (database : Database) : database.after [] = database := by
  simp [after]

/-- A database takes a statement after others. -/
theorem run_after (database : Database) (texts : List String) (text : String) :
    (database.after texts).run text =
      (database.response texts.length, database.after (texts ++ [text])) := by
  simp [run, after, response, List.tail_drop, List.append_assoc]

end Database

/-- The database that a step installs. -/
def Step.installed? : Step → Option Database
  | .install database => some database
  | _ => none

/-- The table of the handle that a step makes. -/
def Step.handle? : Step → Option String
  | .handle table => some table
  | _ => none

namespace Run

/-! ## The account of a run -/

/-- The databases that steps install, in order. -/
def installed (steps : List Step) : List Database :=
  steps.filterMap Step.installed?

/-- The tables of the handles that steps make, in order. -/
def handles (steps : List Step) : List String :=
  steps.filterMap Step.handle?

/-- The database that is current after steps. -/
def current (first : Database) (steps : List Step) : Database :=
  (installed steps).getLast?.getD first

/-- The text that a step sends after others, if it sends one. -/
def sent? (schema : Schema) (earlier : List Step) : Step → Option String
  | .call number call =>
    (handles earlier)[number]?.bind fun table => (call.text schema table).toOption
  | _ => none

/-- Every step with the steps before it. -/
def positions (steps : List Step) : List (List Step × Step) :=
  steps.mapIdx fun index step => (steps.take index, step)

/-- The texts that are sent while the database with the given number is current. -/
def sentTo (schema : Schema) (number : Nat) (steps : List Step) : List String :=
  (positions steps).filterMap fun position =>
    if (installed position.1).length = number then sent? schema position.1 position.2 else none

/-- The databases after steps, in the order in which they were installed. -/
def databases (schema : Schema) (first : Database) (steps : List Step) : List Database :=
  (first :: installed steps).mapIdx fun number database =>
    database.after (sentTo schema number steps)

/-- The response to the next statement after steps. -/
def nextResponse (schema : Schema) (first : Database) (steps : List Step) : Response :=
  (current first steps).response (sentTo schema (installed steps).length steps).length

/-- What a response means for a call: all of its rows, or the first one if the call is by key. -/
def answer : Call → Response → Outcome
  | _, .failure message => .error (.database message)
  | .find .., .rows rows | .createOne .., .rows rows | .update .., .rows rows
  | .remove .., .rows rows => .ok (.rows rows)
  | .findOne .., .rows rows | .updateOne .., .rows rows | .removeOne .., .rows rows =>
    .ok (.row rows.head?)

/-- The reply to a step after others. -/
def reply (schema : Schema) (first : Database) (earlier : List Step) : Step → Reply
  | .handle _ | .install _ => .done
  | .preview number call =>
    match (handles earlier)[number]? with
    | none => .unknownHandle
    | some table => .text (call.text schema table)
  | .call number call =>
    match (handles earlier)[number]? with
    | none => .unknownHandle
    | some table =>
      match call.text schema table with
      | .error cause => .outcome (.error (.compile cause))
      | .ok _ => .outcome (answer call (nextResponse schema first earlier))

/-! ## One more step -/

section Concat

variable {schema : Schema} {first : Database} {steps : List Step} {step : Step}

theorem installed_concat :
    installed (steps ++ [step]) = installed steps ++ step.installed?.toList := by
  rw [installed, List.filterMap_append, ← installed]
  cases step <;> rfl

theorem handles_concat : handles (steps ++ [step]) = handles steps ++ step.handle?.toList := by
  rw [handles, List.filterMap_append, ← handles]
  cases step <;> rfl

theorem positions_concat : positions (steps ++ [step]) = positions steps ++ [(steps, step)] := by
  have hearlier : steps.mapIdx (fun index other => ((steps ++ [step]).take index, other)) =
      positions steps := by
    unfold positions
    rw [List.mapIdx_eq_mapIdx_iff]
    intro index hindex
    rw [List.take_append_of_le_length (Nat.le_of_lt hindex)]
  rw [positions, List.mapIdx_concat, hearlier, List.take_left]

/-- One more step adds its text to those of the database that is current. -/
theorem sentTo_concat (number : Nat) : sentTo schema number (steps ++ [step]) =
    sentTo schema number steps ++
      (if (installed steps).length = number then sent? schema steps step else none).toList := by
  rw [sentTo, positions_concat, List.filterMap_append, ← sentTo]
  rfl

/-- Nothing is sent to a database that is not installed yet. -/
theorem sentTo_eq_nil {number : Nat} (hnumber : (installed steps).length < number) :
    sentTo schema number steps = [] := by
  induction steps using List.reverseRecOn with
  | nil => rfl
  | append_singleton steps step ih =>
    rw [installed_concat, List.length_append] at hnumber
    rw [sentTo_concat, ih (by omega), if_neg (by omega)]
    rfl

/-- The databases apart from the one that is current, which stands last. -/
theorem exists_cons_installed_eq (first : Database) (steps : List Step) :
    ∃ front, first :: installed steps = front ++ [current first steps] ∧
      front.length = (installed steps).length := by
  cases hlast : (installed steps).getLast? with
  | none =>
    have hnone := List.getLast?_eq_none_iff.1 hlast
    refine ⟨[], ?_, ?_⟩
    · simp [current, hnone]
    · simp [hnone]
  | some last =>
    obtain ⟨front, hfront⟩ := List.getLast?_eq_some_iff.1 hlast
    refine ⟨first :: front, ?_, ?_⟩
    · rw [current, hlast, hfront]
      rfl
    · simp [hfront]

/-- A step that neither installs nor sends leaves every database as it is. -/
theorem databases_of_silent (hinstalled : step.installed? = none)
    (hsent : sent? schema steps step = none) :
    databases schema first (steps ++ [step]) = databases schema first steps := by
  have hsame : ∀ number, sentTo schema number (steps ++ [step]) = sentTo schema number steps := by
    intro number
    rw [sentTo_concat, hsent]
    simp
  simp only [databases, hsame, installed_concat, hinstalled, Option.toList_none, List.append_nil]

/-- A step that installs a database adds it as it is. -/
theorem databases_of_install (database : Database) :
    databases schema first (steps ++ [.install database]) =
      databases schema first steps ++ [database] := by
  have hsame : ∀ number, sentTo schema number (steps ++ [.install database]) =
      sentTo schema number steps := by
    intro number
    rw [sentTo_concat]
    simp [sent?]
  -- Its number is one beyond those that have been current, so nothing was sent to it yet.
  have hnew : sentTo schema (first :: installed steps).length steps = [] :=
    sentTo_eq_nil (Nat.lt_succ_self _)
  have hinstalled : first :: installed (steps ++ [.install database]) =
      (first :: installed steps) ++ [database] := by
    rw [installed_concat]
    rfl
  simp only [databases, hsame]
  rw [hinstalled, List.mapIdx_concat, hnew, Database.after_nil]

/-- A step that sends a text adds it to the statements of the database that is current, and to no
other. -/
theorem exists_databases_of_sent (first : Database) {text : String}
    (hinstalled : step.installed? = none) (hsent : sent? schema steps step = some text) :
    ∃ front, databases schema first steps = front ++
        [(current first steps).after (sentTo schema (installed steps).length steps)] ∧
      databases schema first (steps ++ [step]) = front ++
        [(current first steps).after (sentTo schema (installed steps).length steps ++ [text])] := by
  obtain ⟨front, hsplit, hlength⟩ := exists_cons_installed_eq first steps
  refine ⟨front.mapIdx fun number database => database.after (sentTo schema number steps), ?_, ?_⟩
  · rw [databases, hsplit, List.mapIdx_concat, hlength]
  · have hothers : front.mapIdx (fun number database =>
          database.after (sentTo schema number (steps ++ [step]))) =
        front.mapIdx fun number database => database.after (sentTo schema number steps) := by
      rw [List.mapIdx_eq_mapIdx_iff]
      intro number hnumber
      have hother : (installed steps).length ≠ number := by omega
      rw [sentTo_concat, if_neg hother]
      simp
    have hsame : installed (steps ++ [step]) = installed steps := by
      rw [installed_concat, hinstalled]
      simp
    rw [databases, hsame, hsplit, List.mapIdx_concat, hothers, hlength, sentTo_concat, if_pos rfl,
      hsent]
    rfl

end Concat

/-! ## Runs -/

section Client

variable {schema : Schema} {first : Database} {steps : List Step} {client : Client}

/-- A client is where the account of its steps says. -/
structure Reached (schema : Schema) (first : Database) (steps : List Step) (client : Client) :
    Prop where
  schema_eq : client.session.schema = schema
  handles_eq : client.handles = handles steps
  databases_eq : client.session.databases = databases schema first steps

theorem reached_start (schema : Schema) (first : Database) :
    Reached schema first [] (.start schema first) := by
  refine ⟨rfl, rfl, ?_⟩
  show [first] = [first.after []]
  rw [Database.after_nil]

/-- A call without a text is refused, and nothing changes. -/
theorem call_of_error {session : Session} {table : String} {call : Call} {cause : Error}
    (htext : call.text session.schema table = .error cause) :
    session.call table call = (.error (.compile cause), session) := by
  have hstatement : call.statement session.schema table = .error cause := by
    rwa [Call.text_eq_map, Except.map_eq_error] at htext
  unfold Session.call
  rw [hstatement]

/-- A call with a text sends it to the current database. -/
theorem call_of_ok {session : Session} {table : String} {call : Call} {text : String}
    (htext : call.text session.schema table = .ok text) :
    session.call table call = (call.outcome (session.current.run text).1,
      { session with current := (session.current.run text).2 }) := by
  rw [Call.text_eq_map] at htext
  obtain ⟨statement, hstatement, rfl⟩ := Except.map_eq_ok.1 htext
  unfold Session.call
  rw [hstatement]

theorem outcome_eq_answer (call : Call) (response : Response) :
    call.outcome response = answer call response := by
  cases call <;> cases response <;> rfl

/-- A step that neither installs, makes a handle nor sends leaves the client as it is. -/
theorem Reached.silent (hreached : Reached schema first steps client) {step : Step}
    (hinstalled : step.installed? = none) (hhandle : step.handle? = none)
    (hsent : sent? schema steps step = none) : Reached schema first (steps ++ [step]) client := by
  refine ⟨hreached.schema_eq, ?_, ?_⟩
  · rw [hreached.handles_eq, handles_concat, hhandle]
    simp
  · rw [hreached.databases_eq, databases_of_silent hinstalled hsent]

/-- A step that sends a text gets the next response of the current database, and only that database
changes. -/
theorem Reached.sent (hreached : Reached schema first steps client) {step : Step} {text : String}
    (hinstalled : step.installed? = none) (hhandle : step.handle? = none)
    (hsent : sent? schema steps step = some text) :
    (client.session.current.run text).1 = nextResponse schema first steps ∧
      Reached schema first (steps ++ [step]) { client with
        session := { client.session with current := (client.session.current.run text).2 } } := by
  obtain ⟨front, hbefore, hafter⟩ := exists_databases_of_sent first hinstalled hsent
  rw [← hreached.databases_eq] at hbefore
  -- The session keeps the current database apart from those before it, as the account does.
  obtain ⟨hretired, hcurrent⟩ := List.append_inj' hbefore rfl
  have hrun := Database.run_after (current first steps)
    (sentTo schema (installed steps).length steps) text
  rw [← List.singleton_inj.1 hcurrent] at hrun
  rw [hrun]
  refine ⟨rfl, hreached.schema_eq, ?_, ?_⟩
  · rw [handles_concat, hhandle, ← hreached.handles_eq]
    exact (List.append_nil _).symm
  · rw [hafter, ← hretired]
    rfl

/-- One step keeps a client to the account, and the account has its reply. -/
theorem reached_step (hreached : Reached schema first steps client) (step : Step) :
    (client.step step).1 = reply schema first steps step ∧
      Reached schema first (steps ++ [step]) (client.step step).2 := by
  have hhandles := hreached.handles_eq
  obtain rfl := hreached.schema_eq
  cases step with
  | handle table =>
    refine ⟨rfl, rfl, ?_, ?_⟩
    · rw [handles_concat, ← hhandles]
      rfl
    · rw [databases_of_silent rfl rfl]
      exact hreached.databases_eq
  | install database =>
    refine ⟨rfl, rfl, ?_, ?_⟩
    · rw [handles_concat, ← hhandles]
      exact (List.append_nil _).symm
    · rw [databases_of_install, ← hreached.databases_eq]
      rfl
  | preview number call =>
    rw [reply, Client.step, ← hhandles]
    cases client.handles[number]? with
    | none => exact ⟨rfl, hreached.silent rfl rfl rfl⟩
    | some table =>
      refine ⟨?_, hreached.silent rfl rfl rfl⟩
      exact congrArg Reply.text (Call.text_eq_map client.session.schema table call).symm
  | call number call =>
    have hsent : sent? client.session.schema steps (.call number call) =
        client.handles[number]?.bind fun table =>
          (call.text client.session.schema table).toOption := by
      rw [sent?, hhandles]
    rw [reply, Client.step, ← hhandles]
    cases hhandle : client.handles[number]? with
    | none =>
      rw [hhandle] at hsent
      exact ⟨rfl, hreached.silent rfl rfl hsent⟩
    | some table =>
      rw [hhandle, Option.bind_some] at hsent
      cases htext : call.text client.session.schema table with
      | error cause =>
        rw [htext] at hsent
        simp only [htext, call_of_error htext]
        exact ⟨trivial, hreached.silent rfl rfl hsent⟩
      | ok text =>
        rw [htext] at hsent
        obtain ⟨hresponse, hnext⟩ := hreached.sent rfl rfl hsent
        simp only [htext, call_of_ok htext, hresponse, outcome_eq_answer]
        exact ⟨trivial, hnext⟩

/-- One more step of a run. -/
theorem run_concat (client : Client) (steps : List Step) (step : Step) :
    client.run (steps ++ [step]) =
      ((client.run steps).1 ++ [((client.run steps).2.step step).1],
        ((client.run steps).2.step step).2) := by
  induction steps generalizing client with
  | nil => rfl
  | cons next rest ih =>
    simp only [List.cons_append, Client.run, ih]

/-- A whole run keeps a client to the account. -/
theorem reached_run (schema : Schema) (first : Database) (steps : List Step) :
    ((Client.start schema first).run steps).1 =
        (positions steps).map (fun position => reply schema first position.1 position.2) ∧
      Reached schema first steps ((Client.start schema first).run steps).2 := by
  induction steps using List.reverseRecOn with
  | nil => exact ⟨rfl, reached_start schema first⟩
  | append_singleton steps step ih =>
    obtain ⟨hreplies, hreached⟩ := ih
    obtain ⟨hreply, hnext⟩ := reached_step hreached step
    rw [run_concat, hreplies, hreply, positions_concat, List.map_append]
    exact ⟨rfl, hnext⟩

end Client

/-- The replies of a run and what its databases received are those of the account: every call that
has a text sends it once, to the database installed last, and is answered by that database; nothing
else is sent. -/
theorem run_start (schema : Schema) (first : Database) (steps : List Step) :
    ((Client.start schema first).run steps).1 =
        (positions steps).map (fun position => reply schema first position.1 position.2) ∧
      ((Client.start schema first).run steps).2.session.databases =
        (first :: installed steps).mapIdx fun number database =>
          database.after (sentTo schema number steps) := by
  obtain ⟨hreplies, hreached⟩ := reached_run schema first steps
  exact ⟨hreplies, hreached.databases_eq⟩

example :
    let boats : Schema := Schema.empty.insert ⟨"boats", [⟨"id", .int4, true, true, true, none⟩], []⟩
    let steps : List Step := [.handle "boats", .call 0 (.removeOne (.int 1) .empty),
      .install (.prepared "second" []), .handle "crews", .call 1 (.find .empty),
      .preview 0 (.find .empty), .call 0 (.remove .empty)]
    ((Client.start boats (.prepared "first" [])).run steps).2.session.databases.map
      Database.received = [["DELETE FROM `boats` WHERE `boats`.`id` = 1"],
        ["DELETE FROM `boats`"]] := by
  decide

end Run

end TableQuery
