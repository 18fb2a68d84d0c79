import TableQuery.Proofs.Filter.Void
import TableQuery.Proofs.Request
import TableQuery.Proofs.Schema
import TableQuery.Proofs.Statement.Built
import TableQuery.Session

/-!
# Why building a statement fails

On a schema that passes its check, and for a table that it declares, every path resolves.  What can
still fail is little: a filter may have a membership in no values, and a statement for one row may
be wanted of a table without a primary key.
-/

namespace TableQuery.Statement

/-- Building fails exactly when a filter has a membership in no values, at any depth, and what is
reported is one of these. -/
structure FailsOnVoid (filter : Filter) (x : Except Error Statement) : Prop where
  error_iff : (∃ failure, x = .error failure) ↔
    ∃ path negated, (path, Condition.among negated []) ∈ filter.entries
  report : ∀ failure, x = .error failure → filter.VoidReport failure

theorem failsOnVoid_of_decides {filter : Filter} {x : Except Error Statement}
    (hx : Except.Decides filter.VoidReport filter.IsSolid x) : FailsOnVoid filter x := by
  refine ⟨?_, fun failure => hx.report⟩
  rw [← Filter.not_isSolid_iff, ← hx.error_iff]
  constructor
  · intro herror
    obtain ⟨failure, hfailure⟩ := herror
    exact ⟨failure, hfailure, hx.report hfailure⟩
  · intro herror
    obtain ⟨failure, hfailure, -⟩ := herror
    exact ⟨failure, hfailure⟩

section Checked

variable {schema : Schema} {root : String} {table : Table}
variable (hcheck : schema.check = .ok ()) (htable : schema.table? root = some table)

include hcheck htable

/-- Every path has a column. -/
theorem exists_columnRef (path : FieldPath) :
    ∃ column, path.columnRef schema root = .ok column := by
  obtain ⟨resolution, hresolution⟩ := Schema.exists_resolve_of_check hcheck path htable
  exact ⟨resolution.column, Except.map_eq_ok.2 ⟨resolution, hresolution, rfl⟩⟩

/-- The columns to select can be named. -/
theorem exists_columnRefs (paths : List FieldPath) :
    ∃ columns, FieldPath.columnRefs schema root paths = .ok columns := by
  unfold FieldPath.columnRefs
  split
  · exact ⟨_, Except.bind_eq_ok.2 ⟨table, Schema.table_eq_ok.2 htable, rfl⟩⟩
  · exact Except.exists_mapM_eq_ok fun path _ => exists_columnRef hcheck htable path

/-- The joins of a request can be collected. -/
theorem exists_joins (request : Request) : ∃ joins, request.joins schema root = .ok joins := by
  rw [Request.exists_joins_iff]
  exact fun path _ => Schema.exists_resolve_of_check hcheck path htable

/-- The columns to order by can be named. -/
theorem exists_orderBy (terms : List OrderTerm) :
    ∃ orderBy, terms.mapM (resolveOrderTerm schema root) = .ok orderBy := by
  refine Except.exists_mapM_eq_ok fun term _ => ?_
  obtain ⟨column, hcolumn⟩ := exists_columnRef hcheck htable term.path
  exact ⟨_, Except.bind_eq_ok.2 ⟨column, hcolumn, rfl⟩⟩

/-! ## Many rows -/

theorem decides_find (request : Request) :
    Except.Decides request.filter.VoidReport request.filter.IsSolid (find schema root request) := by
  obtain ⟨columns, hcolumns⟩ := exists_columnRefs hcheck htable request.selected
  obtain ⟨joins, hjoins⟩ := exists_joins hcheck htable request
  obtain ⟨groupBy, hgroupBy⟩ := Except.exists_mapM_eq_ok fun path (_ : path ∈ request.groupBy) =>
    exists_columnRef hcheck htable path
  obtain ⟨orderBy, horderBy⟩ := exists_orderBy hcheck htable request.orderBy
  unfold find
  rw [hcolumns, Schema.table_eq_ok.2 htable, hjoins, hgroupBy, horderBy]
  exact (Filter.decides_resolve (exists_columnRef hcheck htable) request.filter).bind_ok
    fun _ => ⟨_, rfl⟩

theorem decides_update (item : Item) (request : Request) :
    Except.Decides request.filter.VoidReport request.filter.IsSolid
      (update schema root item request) := by
  unfold update
  rw [Schema.table_eq_ok.2 htable]
  exact (Filter.decides_resolve (exists_columnRef hcheck htable) request.filter).bind_ok
    fun _ => ⟨_, rfl⟩

theorem decides_remove (request : Request) :
    Except.Decides request.filter.VoidReport request.filter.IsSolid
      (remove schema root request) := by
  unfold remove
  rw [Schema.table_eq_ok.2 htable]
  exact (Filter.decides_resolve (exists_columnRef hcheck htable) request.filter).bind_ok
    fun _ => ⟨_, rfl⟩

/-- The calls that concern all rows under the filter of a request. -/
theorem decides_manyRows {request : Request} {item : Item} {call : Call}
    (hcall : call ∈ [Call.find request, .update item request, .remove request]) :
    Except.Decides request.filter.VoidReport request.filter.IsSolid
      (call.statement schema root) := by
  simp only [List.mem_cons, List.not_mem_nil, or_false] at hcall
  rcases hcall with rfl | rfl | rfl
  · exact decides_find hcheck htable request
  · exact decides_update hcheck htable item request
  · exact decides_remove hcheck htable request

/-! ## One row -/

omit hcheck in
/-- A request cannot be narrowed to a key of a table that has none. -/
theorem keyed_of_none (hprimary : table.primaryKey? = none) (key : Literal) (request : Request) :
    keyed schema root key request = .error (.missingPrimaryKey root) := by
  unfold keyed Schema.primaryKey
  rw [Schema.primaryKey?_of_table? htable, hprimary]
  rfl

/-- The calls that concern the row with a given key narrow their request and then concern all rows
under its filter. -/
theorem exists_build_of_byKey {request : Request} {item : Item} {key : Literal} {call : Call}
    (hcall : call ∈ [Call.findOne key request, .updateOne key item request,
      .removeOne key request]) :
    ∃ build : Request → Except Error Statement,
      call.statement schema root = keyed schema root key request >>= build ∧
        ∀ narrowed, Except.Decides narrowed.filter.VoidReport narrowed.filter.IsSolid
          (build narrowed) := by
  simp only [List.mem_cons, List.not_mem_nil, or_false] at hcall
  rcases hcall with rfl | rfl | rfl
  · exact ⟨_, findOne_eq_bind key, fun narrowed => decides_find hcheck htable
      { Request.empty with columns := narrowed.columns, filter := narrowed.filter }⟩
  · exact ⟨_, updateOne_eq_bind key item, decides_update hcheck htable item⟩
  · exact ⟨_, removeOne_eq_bind key, decides_remove hcheck htable⟩

/-- On a schema that passes its check, and for a table that it declares, every path resolves.
A statement on all rows under a filter fails only for a membership in no values, which the filter
has at some depth.  A statement on the row with a key fails for a table without a primary key, and
otherwise only for a membership in no values that is left when the key has been put in.  So a request
that is decoded fails for none of these reasons where it concerns all rows. -/
theorem failures_of_check :
    (∀ path : FieldPath, ∃ resolution, path.resolve schema root = .ok resolution) ∧
    (∀ request item, ∀ call ∈ [Call.find request, .update item request, .remove request],
      FailsOnVoid request.filter (call.statement schema root)) ∧
    (∀ request item key, ∀ call ∈ [Call.findOne key request, .updateOne key item request,
        .removeOne key request],
      (call.statement schema root = .error (.missingPrimaryKey root) ↔
        table.primaryKey? = none) ∧
      ∀ primaryKey, table.primaryKey? = some primaryKey →
        FailsOnVoid (request.filter.withEquality (FieldPath.ofText primaryKey) key)
          (call.statement schema root)) ∧
    (∀ value request, Request.ofJson value = .ok request →
      ∀ item, ∀ call ∈ [Call.find request, .update item request, .remove request],
        ∃ statement, call.statement schema root = .ok statement) := by
  refine ⟨fun path => Schema.exists_resolve_of_check hcheck path htable, ?_, ?_, ?_⟩
  · intro request item call hcall
    exact failsOnVoid_of_decides (decides_manyRows hcheck htable hcall)
  · intro request item key call hcall
    obtain ⟨build, hstatement, hbuild⟩ := exists_build_of_byKey hcheck htable hcall
    rw [hstatement]
    cases hprimary : table.primaryKey? with
    | none =>
      rw [keyed_of_none htable hprimary]
      refine ⟨⟨fun _ => rfl, fun _ => rfl⟩, ?_⟩
      intro primaryKey hsome
      cases hsome
    | some own =>
      rw [keyed_eq_ok.2 ⟨table, own, htable, hprimary, rfl⟩]
      have hnarrowed := hbuild { request with
        filter := request.filter.withEquality (FieldPath.ofText own) key }
      constructor
      · constructor
        · intro hmissing
          obtain ⟨_, _, -, hreport⟩ := hnarrowed.report hmissing
          cases hreport
        · intro hnone
          cases hnone
      · intro primaryKey hsome
        cases hsome
        exact failsOnVoid_of_decides hnarrowed
  · intro value request hvalue item call hcall
    exact (decides_manyRows hcheck htable hcall).ok_iff.2 (Request.isSolid_of_ofJson hvalue)

end Checked

/-- People of a crew, known by a number, have a boss among them and a ship. -/
def crewTable : Table :=
  ⟨"crew", [⟨"id", .int4, true, true, true, none⟩, ⟨"boss_id", .int4, false, false, false, none⟩,
      ⟨"ship_id", .int4, false, false, true, none⟩],
    [⟨"boss", "crew", "boss_id", "id"⟩, ⟨"ship", "ships", "ship_id", "id"⟩]⟩

/-- Ships have a captain of the crew, and no primary key. -/
def shipTable : Table :=
  ⟨"ships", [⟨"id", .int4, false, true, true, none⟩, ⟨"captain_id", .int4, false, false, true, none⟩],
    [⟨"captain", "crew", "captain_id", "id"⟩]⟩

/-- Crew and ships, with relations that lead in circles. -/
def crewSchema : Schema :=
  (Schema.empty.insert crewTable).insert shipTable

/-- A request for the people of a crew with one of no numbers. -/
def nobodyRequest : Request :=
  { Request.empty with filter := ⟨[.field (.column "id") (.among false []) []]⟩ }

theorem failures_of_check_crewSchema :
    crewSchema.check = .ok () ∧
      crewSchema.table? "crew" = some crewTable ∧
      (∃ resolution, (FieldPath.ofText "boss.ship.captain.name").resolve crewSchema "crew" =
        .ok resolution) ∧
      (∃ failure, remove crewSchema "crew" nobodyRequest = .error failure) ∧
      (¬∃ failure, removeOne crewSchema "crew" (.int 7) nobodyRequest = .error failure) ∧
      removeOne crewSchema "ships" (.int 7) nobodyRequest = .error (.missingPrimaryKey "ships") := by
  have hcheck : crewSchema.check = .ok () := rfl
  have hcrew : crewSchema.table? "crew" = some crewTable := rfl
  have hships : crewSchema.table? "ships" = some shipTable := rfl
  have hremove := (failures_of_check hcheck hcrew).2.1 nobodyRequest .empty (.remove nobodyRequest)
    (by simp)
  have hremoveOne := ((failures_of_check hcheck hcrew).2.2.1 nobodyRequest .empty (.int 7)
    (.removeOne (.int 7) nobodyRequest) (by simp)).2 "id" rfl
  have hmissing := ((failures_of_check hcheck hships).2.2.1 nobodyRequest .empty (.int 7)
    (.removeOne (.int 7) nobodyRequest) (by simp)).1
  refine ⟨hcheck, hcrew, (failures_of_check hcheck hcrew).1 _, ?_, ?_, hmissing.2 rfl⟩
  · exact hremove.error_iff.2 ⟨.column "id", false, List.mem_cons_self⟩
  · intro hfailed
    obtain ⟨path, negated, hentry⟩ := hremoveOne.error_iff.1 hfailed
    have hentries : (nobodyRequest.filter.withEquality (FieldPath.ofText "id") (.int 7)).entries =
        [(.column "id", .compare .eq (.int 7))] := rfl
    rw [hentries, List.mem_singleton] at hentry
    cases hentry

end TableQuery.Statement
