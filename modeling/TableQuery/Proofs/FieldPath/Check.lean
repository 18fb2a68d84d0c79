import TableQuery.Check
import TableQuery.Proofs.FieldPath

/-!
# The strict check of a field path

The check and the resolution of a path are two walks along the same relations.  Where a hop is no
relation the check fails and the resolution stops; they differ in nothing else.  So the check is
a resolution with a judgement on what came of it, and `verdict` is that judgement: it sees how many
hops were taken and which column was reached.

This holds of paths without a hop `*`.  At such a hop the resolution stops on purpose, and means all
columns of the table reached, while the check looks for a relation of that name.
-/

namespace TableQuery

/-- The column is declared on its table, or stands for all columns of it. -/
def ColumnRef.isDeclared (schema : Schema) (column : ColumnRef) : Bool :=
  column.column = wildcard ||
    (schema.table? column.table).any fun table => (table.column? column.column).isSome

namespace FieldPath

variable {schema : Schema} {root : String}

/-- What the check makes of a resolution: a hop that was not taken is no relation of the table
reached, and once all are taken the column has to be declared. -/
def verdict (schema : Schema) (path : FieldPath) (resolution : Resolution) : Except Error Unit :=
  match path.hops[resolution.joins.length]? with
  | some hop => .error (.unknownRelation resolution.column.table hop)
  | none =>
    if resolution.column.isDeclared schema then .ok ()
    else .error (.unknownColumn resolution.column.table resolution.column.column)

/-- A hop that was taken does not count in the judgement. -/
theorem verdict_via (hop : String) (rest : FieldPath) (join : Join) (resolution : Resolution) :
    verdict schema (.via hop rest) { resolution with joins := join :: resolution.joins } =
      verdict schema rest resolution := rfl

/-- From a declared table, the check is the judgement on the resolution. -/
theorem checkFrom_eq_bind {path : FieldPath} {table : Table}
    (hplain : ∀ hop ∈ path.hops, hop ≠ wildcard)
    (htable : schema.table? table.name = some table) :
    path.checkFrom schema table = path.resolveFrom schema table >>= verdict schema path := by
  induction path generalizing table with
  | column name =>
    have hdeclared : (ColumnRef.mk table.name name).isDeclared schema = true ↔
        name = wildcard ∨ (table.column? name).isSome = true := by
      simp [ColumnRef.isDeclared, htable]
    show checkFrom schema table (.column name) =
      if (ColumnRef.mk table.name name).isDeclared schema = true then .ok ()
      else .error (.unknownColumn table.name name)
    rw [checkFrom]
    simp only [hdeclared]
  | via hop rest ih =>
    have hhop : hop ≠ wildcard := hplain hop List.mem_cons_self
    rw [checkFrom, resolveFrom, if_neg hhop]
    cases table.relation? hop with
    | none => rfl
    | some relation =>
      dsimp only
      cases htarget : schema.table relation.target with
      | error failure => rfl
      | ok target =>
        have hrest := ih (fun later hlater => hplain later (List.mem_cons_of_mem hop hlater))
          (Schema.table?_name_of_table htarget)
        show rest.checkFrom schema target = (do
          let resolved ← rest.resolveFrom schema target
          return { resolved with joins := hopJoin table relation :: resolved.joins }) >>=
            verdict schema (.via hop rest)
        rw [hrest]
        cases rest.resolveFrom schema target with
        | error failure => rfl
        | ok resolved => exact (verdict_via hop rest (hopJoin table relation) resolved).symm

/-- The check is the judgement on the resolution. -/
theorem check_eq_bind {path : FieldPath} (hplain : ∀ hop ∈ path.hops, hop ≠ wildcard) :
    path.check schema root = path.resolve schema root >>= verdict schema path := by
  rw [check, resolve, bind_assoc]
  cases htable : schema.table root with
  | error failure => rfl
  | ok table => exact checkFrom_eq_bind hplain (Schema.table?_name_of_table htable)

/-- The judgement has three outcomes, by how far the walk went and what it reached. -/
theorem verdict_cases (schema : Schema) {path : FieldPath} {resolution : Resolution}
    (hlength : resolution.joins.length ≤ path.hops.length) :
    (∃ hop, resolution.joins.length < path.hops.length ∧
        path.segments[resolution.joins.length]? = some hop ∧
        verdict schema path resolution = .error (.unknownRelation resolution.column.table hop)) ∨
      resolution.joins.length = path.hops.length ∧ resolution.column.isDeclared schema = true ∧
        verdict schema path resolution = .ok () ∨
      resolution.joins.length = path.hops.length ∧ resolution.column.isDeclared schema = false ∧
        verdict schema path resolution =
          .error (.unknownColumn resolution.column.table resolution.column.column) := by
  rcases Nat.lt_or_eq_of_le hlength with hstopped | hwhole
  · left
    obtain ⟨hop, hhop⟩ : ∃ hop, path.hops[resolution.joins.length]? = some hop :=
      ⟨_, List.getElem?_eq_getElem hstopped⟩
    refine ⟨hop, hstopped, ?_, ?_⟩
    · rw [segments_eq_hops_append, List.getElem?_append_left hstopped, hhop]
    · rw [verdict, hhop]
  · right
    have hnone : path.hops[resolution.joins.length]? = none :=
      List.getElem?_eq_none (Nat.le_of_eq hwhole.symm)
    cases hdeclared : resolution.column.isDeclared schema with
    | true =>
      left
      refine ⟨hwhole, rfl, ?_⟩
      rw [verdict, hnone]
      exact if_pos hdeclared
    | false =>
      right
      refine ⟨hwhole, rfl, ?_⟩
      rw [verdict, hnone]
      exact if_neg (by rw [hdeclared]; decide)

/-- For a path without a hop `*`, what the check reports is what became of the resolution.  It
accepts a path of which every hop was taken and that ends in a declared column or in `*`.  It knows
no table exactly where the resolution knows none.  It misses a relation where the resolution stopped
early, at the hop that was not taken.  It misses a column where every hop was taken and the column
reached is not declared. -/
theorem check_agrees_resolve {text : String} (hplain : ∀ hop ∈ (ofText text).hops, hop ≠ wildcard) :
    ((ofText text).check schema root = .ok () ↔
      ∃ resolution, (ofText text).resolve schema root = .ok resolution ∧
        resolution.joins.length = text.toList.count '.' ∧
        resolution.column.isDeclared schema = true) ∧
    (∀ name, (ofText text).check schema root = .error (.unknownTable name) ↔
      (ofText text).resolve schema root = .error (.unknownTable name)) ∧
    (∀ table hop, (ofText text).check schema root = .error (.unknownRelation table hop) ↔
      ∃ resolution, (ofText text).resolve schema root = .ok resolution ∧
        resolution.joins.length < text.toList.count '.' ∧ resolution.column.table = table ∧
        (ofText text).segments[resolution.joins.length]? = some hop) ∧
    (∀ table column, (ofText text).check schema root = .error (.unknownColumn table column) ↔
      ∃ resolution, (ofText text).resolve schema root = .ok resolution ∧
        resolution.joins.length = text.toList.count '.' ∧ resolution.column.table = table ∧
        resolution.column.column = column ∧ resolution.column.isDeclared schema = false) := by
  rw [check_eq_bind hplain, ← length_hops_ofText]
  cases hresolve : (ofText text).resolve schema root with
  | error failure =>
    obtain ⟨name, rfl⟩ := exists_unknownTable_of_resolve hresolve
    simp [bind, Except.bind]
  | ok resolution =>
    show (verdict schema (ofText text) resolution = .ok () ↔ _) ∧
      (∀ name, verdict schema (ofText text) resolution = .error (.unknownTable name) ↔ _) ∧
      (∀ table hop, verdict schema (ofText text) resolution = .error (.unknownRelation table hop) ↔
        _) ∧
      (∀ table column, verdict schema (ofText text) resolution =
        .error (.unknownColumn table column) ↔ _)
    rcases verdict_cases schema (length_joins_le hresolve) with
      ⟨hop, hstopped, hhop, hverdict⟩ | ⟨hwhole, hdeclared, hverdict⟩ |
        ⟨hwhole, hdeclared, hverdict⟩
    · simp [hverdict, Nat.ne_of_lt hstopped, hstopped, hhop]
    · simp [hverdict, hwhole, hdeclared]
    · simp [hverdict, hwhole, hdeclared]

/-- Nations lie in regions, and a region has nations. -/
def nationSchema : Schema :=
  (Schema.empty.insert ⟨"nations", [⟨"name", .text, false, false, true, none⟩],
    [⟨"region", "regions", "region_id", "id"⟩]⟩).insert
      ⟨"regions", [], [⟨"nations", "nations", "id", "region_id"⟩]⟩

theorem check_agrees_resolve_moons :
    (ofText "region.nations.moons.name").check nationSchema "nations" =
        .error (.unknownRelation "nations" "moons") ∧
      ∃ resolution,
        (ofText "region.nations.moons.name").resolve nationSchema "nations" = .ok resolution ∧
          resolution.joins.length < "region.nations.moons.name".toList.count '.' ∧
          resolution.column.table = "nations" ∧
          (ofText "region.nations.moons.name").segments[resolution.joins.length]? =
            some "moons" := by
  have hplain : ∀ hop ∈ (ofText "region.nations.moons.name").hops, hop ≠ wildcard := by decide
  have hcheck : (ofText "region.nations.moons.name").check nationSchema "nations" =
      .error (.unknownRelation "nations" "moons") := rfl
  exact ⟨hcheck, ((check_agrees_resolve hplain).2.2.1 "nations" "moons").1 hcheck⟩

end FieldPath

end TableQuery
