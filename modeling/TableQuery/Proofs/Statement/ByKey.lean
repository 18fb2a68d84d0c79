import TableQuery.Proofs.Request
import TableQuery.Proofs.Statement.Built

/-!
# One row like many

`findOne`, `updateOne` and `removeOne` assemble statements of their own.  For a table with a primary
key they are those of `find`, `update` and `remove` on a rewritten request, failures included
(`byKey_eq_manyRows`).

A selection by key has no clauses for grouping, ordering and slicing, and it collects its joins from
what is left of the request.  So a field that is only grouped or ordered by brings in no table, and
need not even resolve.
-/

namespace TableQuery

/-- The request with its columns only, under a filter. -/
def Request.columnsUnder (request : Request) (filter : Filter) : Request :=
  { Request.empty with columns := request.columns, filter }

namespace Statement

variable {schema : Schema} {root : String} {request : Request} {statement : Statement}

/-- The joins of a selection without grouping and ordering are hops of the fields that it selects
and of those of its filter. -/
theorem exists_selection_of_columnsUnder {filter : Filter}
    (hbuilt : find schema root (request.columnsUnder filter) = .ok statement) :
    ∃ columns joins predicates,
      statement = .selection columns root joins predicates [] [] none none ∧
        ∀ join, join ∈ joins ↔ ∃ path ∈ request.selected ++ filter.paths, ∃ resolution,
          path.resolve schema root = .ok resolution ∧ join ∈ resolution.joins := by
  obtain ⟨columns, joins, predicates, groupBy, orderBy, -, -, hjoins, -, hgroupBy, horderBy, rfl⟩ :=
    find_eq_ok.1 hbuilt
  cases hgroupBy
  cases horderBy
  refine ⟨columns, joins, predicates, rfl, fun join => ?_⟩
  have hpaths : (request.columnsUnder filter).paths = request.selected ++ filter.paths := by
    show request.selected ++ filter.paths ++ [] ++ [] = _
    rw [List.append_nil, List.append_nil]
  rw [Request.mem_joins_iff hjoins, Request.Takes, hpaths]

/-- On a table with a primary key, what is built for a key is what is built for many rows under the
filter with equality of the primary key to it: for a selection from the columns of the request, and
nothing else of it, and otherwise from the whole request.  Where one of the two fails, both do for
the same reason.  The joins of the selection are hops of the fields that are selected and of those
of the filter, whatever the request groups and orders by. -/
theorem byKey_eq_manyRows {table : Table} {primaryKey : String}
    (htable : schema.table? root = some table) (hprimary : table.primaryKey? = some primaryKey)
    (key : Literal) (item : Item) (request : Request) :
    let filter := request.filter.withEquality (FieldPath.ofText primaryKey) key
    findOne schema root key request = find schema root (request.columnsUnder filter) ∧
    updateOne schema root key item request = update schema root item (request.under filter) ∧
    removeOne schema root key request = remove schema root (request.under filter) ∧
    ∀ statement, findOne schema root key request = .ok statement →
      ∃ columns joins predicates,
        statement = .selection columns root joins predicates [] [] none none ∧
          ∀ join, join ∈ joins ↔ ∃ path ∈ request.selected ++ filter.paths, ∃ resolution,
            path.resolve schema root = .ok resolution ∧ join ∈ resolution.joins := by
  intro filter
  have hkeyed : keyed schema root key request = .ok (request.under filter) :=
    keyed_eq_ok.2 ⟨table, primaryKey, htable, hprimary, rfl⟩
  have hfindOne : findOne schema root key request =
      find schema root (request.columnsUnder filter) := by
    rw [findOne_eq_bind, hkeyed]
    rfl
  refine ⟨hfindOne, ?_, ?_, ?_⟩
  · rw [updateOne_eq_bind, hkeyed]
    rfl
  · rw [removeOne_eq_bind, hkeyed]
    rfl
  · intro statement hbuilt
    rw [hfindOne] at hbuilt
    exact exists_selection_of_columnsUnder hbuilt

/-- Members of teams, whose rooms are not declared. -/
def membersSchema : Schema :=
  List.foldl Schema.insert Schema.empty
    [⟨"members", [⟨"id", .int4, true, true, true, none⟩, ⟨"name", .text, false, false, true, none⟩],
        [⟨"team", "teams", "team_id", "id"⟩, ⟨"room", "rooms", "room_id", "id"⟩]⟩,
      ⟨"teams", [⟨"id", .int4, true, true, true, none⟩], []⟩]

/-- Names of members, ordered by their teams and grouped by their rooms. -/
def membersRequest : Request :=
  { Request.empty with
    columns := some [.column "name"]
    orderBy := [⟨.via "team" (.column "name"), .ascending⟩]
    groupBy := [.via "room" (.column "floor")]
    limit := some 3 }

/-- The rooms fail a selection of many members, and neither they nor the teams show in one by
key. -/
theorem byKey_eq_manyRows_membersRequest :
    let filter := membersRequest.filter.withEquality (FieldPath.ofText "id") (.int 7)
    find membersSchema "members" membersRequest = .error (.unknownTable "rooms") ∧
    findOne membersSchema "members" (.int 7) membersRequest =
      .ok (.selection [⟨"members", "name"⟩] "members" []
        [.comparison ⟨"members", "id"⟩ (.compare .eq (.int 7))] [] [] none none) ∧
    findOne membersSchema "members" (.int 7) membersRequest =
      find membersSchema "members" (membersRequest.columnsUnder filter) ∧
    updateOne membersSchema "members" (.int 7) .empty membersRequest =
      update membersSchema "members" .empty (membersRequest.under filter) ∧
    removeOne membersSchema "members" (.int 7) membersRequest =
      remove membersSchema "members" (membersRequest.under filter) ∧
    ∀ statement, findOne membersSchema "members" (.int 7) membersRequest = .ok statement →
      ∃ columns joins predicates,
        statement = .selection columns "members" joins predicates [] [] none none ∧
          ∀ join, join ∈ joins ↔ ∃ path ∈ membersRequest.selected ++ filter.paths, ∃ resolution,
            path.resolve membersSchema "members" = .ok resolution ∧ join ∈ resolution.joins :=
  ⟨rfl, rfl, byKey_eq_manyRows rfl rfl (.int 7) .empty membersRequest⟩

end Statement

end TableQuery
