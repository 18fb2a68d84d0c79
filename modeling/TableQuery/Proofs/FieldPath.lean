import TableQuery.FieldPath.Resolution
import TableQuery.Proofs.Except
import TableQuery.Proofs.Join

/-!
# Where a field path leads

A path that resolves is a walk along the relations of a schema, and `Walk` has one case for every
way in which a step of it can go.  Its joins are a chain that starts from the root, and the column
is one of the table in which the chain ends.

What a path resolves to is settled by its first segment and by the rest of it: `resolve_column`,
`resolve_all`, `resolve_stray` and `resolve_hop` are the cases.
-/

namespace TableQuery

/-- A name that is looked up with success is the name of the table found. -/
theorem Schema.table_eq_ok {schema : Schema} {name : String} {table : Table} :
    schema.table name = .ok table ↔ schema.table? name = some table := by
  unfold Schema.table
  cases schema.table? name <;> simp

/-- A table is looked up with success under its own name only. -/
theorem Schema.name_of_table {schema : Schema} {name : String} {table : Table}
    (hfound : schema.table name = .ok table) : table.name = name :=
  Schema.name_of_table? (Schema.table_eq_ok.1 hfound)

/-- A table that is looked up with success is the one of its own name. -/
theorem Schema.table?_name_of_table {schema : Schema} {name : String} {table : Table}
    (hfound : schema.table name = .ok table) : schema.table? table.name = some table := by
  rw [Schema.name_of_table hfound]
  exact Schema.table_eq_ok.1 hfound

/-- Looking up a table fails only because it is not declared. -/
theorem Schema.eq_of_table_eq_error {schema : Schema} {name : String} {failure : Error}
    (hmissing : schema.table name = .error failure) : failure = .unknownTable name := by
  unfold Schema.table at hmissing
  split at hmissing
  · cases hmissing
  · cases hmissing
    rfl

/-- The primary key of a declared table is the one of the table. -/
theorem Schema.primaryKey?_of_table? {schema : Schema} {name : String} {table : Table}
    (htable : schema.table? name = some table) :
    schema.primaryKey? name = .ok table.primaryKey? := by
  rw [Schema.primaryKey?, Schema.table_eq_ok.2 htable]
  rfl

namespace FieldPath

/-- A text without a point is the name of a column. -/
theorem ofText_of_notMem {text : String} (hpoint : '.' ∉ text.toList) :
    ofText text = .column text := by
  rw [ofText, List.splitOn_eq_singleton hpoint, List.map_singleton, String.ofList_toList]
  rfl

/-- A path is known by its segments. -/
theorem eq_of_segments_eq {path other : FieldPath} (hsegments : path.segments = other.segments) :
    path = other := by
  induction path generalizing other with
  | column name =>
    cases other with
    | column otherName => rw [List.singleton_inj.1 hsegments]
    | via hop rest =>
      rw [segments, segments, segments_eq_hops_append rest] at hsegments
      simp at hsegments
  | via hop rest ih =>
    cases other with
    | column name =>
      rw [segments, segments, segments_eq_hops_append rest] at hsegments
      simp at hsegments
    | via otherHop otherRest =>
      obtain ⟨rfl, hrest⟩ := List.cons.inj hsegments
      rw [ih hrest]

/-- A point between two texts puts the second path below the first. -/
theorem ofText_append_point (front back : String) :
    ofText (front ++ "." ++ back) = ofText front ++ ofText back := by
  apply eq_of_segments_eq
  have htext : (front ++ "." ++ back).toList = front.toList ++ '.' :: back.toList := by simp
  rw [segments_append, segments_ofText, segments_ofText, segments_ofText, htext,
    List.splitOn_append_cons_self, List.map_append]

/-- A list is cut into one piece more than it has separators. -/
theorem length_splitOn (chars : List Char) (separator : Char) :
    (chars.splitOn separator).length = chars.count separator + 1 := by
  induction chars with
  | nil => rfl
  | cons c rest ih =>
    rw [List.splitOn_cons_eq_if_modifyHead, List.count_cons]
    split
    · rw [List.length_cons, ih]
    · rw [List.length_modifyHead, ih, Nat.add_zero]

/-- A path has one hop for every point of its text. -/
theorem length_hops_ofText (text : String) :
    (ofText text).hops.length = text.toList.count '.' := by
  have hsegments := congrArg List.length (segments_ofText text)
  rw [segments_eq_hops_append, List.length_append, List.length_singleton, List.length_map,
    length_splitOn] at hsegments
  exact Nat.succ.inj hsegments

variable {schema : Schema}

/-! ## Walks -/

/-- The walk that a path takes from a table: what it stands for where the walk stops, and the joins
on the way there. -/
inductive Walk (schema : Schema) : Table → FieldPath → Resolution → Prop where
  /-- The last segment is reached. -/
  | column (table : Table) (name : String) :
      Walk schema table (.column name) ⟨⟨table.name, name⟩, []⟩
  /-- A hop `*` stands for all columns of the table reached. -/
  | all (table : Table) (rest : FieldPath) :
      Walk schema table (.via wildcard rest) ⟨⟨table.name, wildcard⟩, []⟩
  /-- A hop that is no relation of the table reached leaves the last segment. -/
  | stray {table : Table} {hop : String} (rest : FieldPath) (hhop : hop ≠ wildcard)
      (hrelation : table.relation? hop = none) :
      Walk schema table (.via hop rest) ⟨⟨table.name, rest.terminal⟩, []⟩
  /-- A hop along a relation. -/
  | hop {table target : Table} {hop : String} {rest : FieldPath} {relation : Relation}
      {resolved : Resolution} (hhop : hop ≠ wildcard)
      (hrelation : table.relation? hop = some relation)
      (htarget : schema.table relation.target = .ok target)
      (hrest : Walk schema target rest resolved) :
      Walk schema table (.via hop rest)
        { resolved with joins := hopJoin table relation :: resolved.joins }

/-- A path that resolves has taken a walk. -/
theorem walk_of_resolveFrom {path : FieldPath} {table : Table} {resolution : Resolution}
    (hresolve : path.resolveFrom schema table = .ok resolution) :
    Walk schema table path resolution := by
  induction path generalizing table resolution with
  | column name =>
    cases hresolve
    exact .column table name
  | via hop rest ih =>
    unfold resolveFrom at hresolve
    split at hresolve
    · rename_i hwildcard
      cases hresolve
      rw [hwildcard]
      exact .all table rest
    · rename_i hhop
      split at hresolve
      · rename_i hrelation
        cases hresolve
        exact .stray rest hhop hrelation
      · rename_i relation hrelation
        obtain ⟨target, htarget, hrest⟩ := Except.bind_eq_ok.1 hresolve
        obtain ⟨resolved, hresolved, heq⟩ := Except.bind_eq_ok.1 hrest
        cases heq
        exact .hop hhop hrelation htarget (ih hresolved)

/-- A path that resolves from a root has taken a walk from the table of that name. -/
theorem exists_walk_of_resolve {path : FieldPath} {root : String} {resolution : Resolution}
    (hresolve : path.resolve schema root = .ok resolution) :
    ∃ table, schema.table root = .ok table ∧ Walk schema table path resolution := by
  obtain ⟨table, htable, hfrom⟩ := Except.bind_eq_ok.1 hresolve
  exact ⟨table, htable, walk_of_resolveFrom hfrom⟩

/-- The joins of a walk are a chain to the table of its column. -/
theorem Walk.chain {path : FieldPath} {table : Table} {resolution : Resolution}
    (hwalk : Walk schema table path resolution) :
    Join.Chain table.name resolution.joins resolution.column.table := by
  induction hwalk with
  | column table name => exact .nil table.name
  | all table rest => exact .nil table.name
  | stray rest hhop hrelation => exact .nil _
  | @hop table target hop rest relation resolved hhop hrelation htarget hrest ih =>
    rw [Schema.name_of_table htarget] at ih
    exact .cons (hopJoin table relation) ih

/-- The joins of a path from a root are a chain to the table of its column. -/
theorem chain_of_resolve {path : FieldPath} {root : String} {resolution : Resolution}
    (hresolve : path.resolve schema root = .ok resolution) :
    Join.Chain root resolution.joins resolution.column.table := by
  obtain ⟨table, htable, hwalk⟩ := exists_walk_of_resolve hresolve
  rw [← Schema.name_of_table htable]
  exact hwalk.chain

/-- A walk has no more joins than its path has hops. -/
theorem Walk.length_joins_le {path : FieldPath} {table : Table} {resolution : Resolution}
    (hwalk : Walk schema table path resolution) : resolution.joins.length ≤ path.hops.length := by
  induction hwalk with
  | column table name => exact Nat.le_refl 0
  | all table rest => exact Nat.zero_le _
  | stray rest hhop hrelation => exact Nat.zero_le _
  | hop hhop hrelation htarget hrest ih => exact Nat.succ_le_succ ih

/-- A path from a root has no more joins than hops. -/
theorem length_joins_le {path : FieldPath} {root : String} {resolution : Resolution}
    (hresolve : path.resolve schema root = .ok resolution) :
    resolution.joins.length ≤ path.hops.length := by
  obtain ⟨table, -, hwalk⟩ := exists_walk_of_resolve hresolve
  exact hwalk.length_joins_le

/-! ## Paths that do not resolve -/

/-- From a declared table, a path that does not resolve meets a table that is not declared. -/
theorem exists_unknownTable_of_resolveFrom {path : FieldPath} {table : Table} {failure : Error}
    (hresolve : path.resolveFrom schema table = .error failure) :
    ∃ name, failure = .unknownTable name := by
  induction path generalizing table with
  | column name => cases hresolve
  | via hop rest ih =>
    unfold resolveFrom at hresolve
    split at hresolve
    · cases hresolve
    · split at hresolve
      · cases hresolve
      · rename_i relation _
        rcases Except.bind_eq_error.1 hresolve with htarget | ⟨target, -, hrest⟩
        · exact ⟨relation.target, Schema.eq_of_table_eq_error htarget⟩
        · rcases Except.bind_eq_error.1 hrest with hfailed | ⟨resolved, -, hpure⟩
          · exact ih hfailed
          · cases hpure

/-- A path that does not resolve meets a table that is not declared. -/
theorem exists_unknownTable_of_resolve {path : FieldPath} {root : String} {failure : Error}
    (hresolve : path.resolve schema root = .error failure) :
    ∃ name, failure = .unknownTable name := by
  rcases Except.bind_eq_error.1 hresolve with hroot | ⟨table, -, hfrom⟩
  · exact ⟨root, Schema.eq_of_table_eq_error hroot⟩
  · exact exists_unknownTable_of_resolveFrom hfrom

/-! ## Resolution by the first segment -/

section Steps

variable {root hop : String} {table : Table}

theorem resolve_of_missing (hmissing : schema.table? root = none) (path : FieldPath) :
    path.resolve schema root = .error (.unknownTable root) := by
  rw [resolve, Schema.table, hmissing]
  rfl

theorem resolve_column (htable : schema.table? root = some table) (name : String) :
    (column name).resolve schema root = .ok ⟨⟨root, name⟩, []⟩ := by
  rw [resolve, Schema.table_eq_ok.2 htable, ← Schema.name_of_table? htable]
  rfl

theorem resolve_all (htable : schema.table? root = some table) (rest : FieldPath) :
    (via wildcard rest).resolve schema root = .ok ⟨⟨root, wildcard⟩, []⟩ := by
  rw [resolve, Schema.table_eq_ok.2 htable, ← Schema.name_of_table? htable]
  show (via wildcard rest).resolveFrom schema table = _
  rw [resolveFrom, if_pos rfl]

theorem resolve_stray (htable : schema.table? root = some table) (hhop : hop ≠ wildcard)
    (hrelation : table.relation? hop = none) (rest : FieldPath) :
    (via hop rest).resolve schema root = .ok ⟨⟨root, rest.terminal⟩, []⟩ := by
  rw [resolve, Schema.table_eq_ok.2 htable, ← Schema.name_of_table? htable]
  show (via hop rest).resolveFrom schema table = _
  rw [resolveFrom, if_neg hhop, hrelation]

/-- A path whose first hop is a relation takes it, and goes on from the target of that relation. -/
theorem resolve_hop {relation : Relation} (htable : schema.table? root = some table)
    (hhop : hop ≠ wildcard) (hrelation : table.relation? hop = some relation) (rest : FieldPath) :
    (via hop rest).resolve schema root = (do
      let resolved ← rest.resolve schema relation.target
      return { resolved with joins := hopJoin table relation :: resolved.joins }) := by
  rw [resolve, Schema.table_eq_ok.2 htable]
  show (via hop rest).resolveFrom schema table = _
  rw [resolveFrom, if_neg hhop, hrelation, resolve, bind_assoc]

/-- A path whose first hop is a relation stands for what the rest of it stands for at the target of
that relation. -/
theorem columnRef_via {relation : Relation} (htable : schema.table? root = some table)
    (hrelation : table.relation? hop = some relation) (hhop : hop ≠ wildcard) (rest : FieldPath) :
    (via hop rest).columnRef schema root = rest.columnRef schema relation.target := by
  rw [columnRef, resolve_hop htable hhop hrelation, columnRef]
  cases rest.resolve schema relation.target <;> rfl

end Steps

end FieldPath

end TableQuery
