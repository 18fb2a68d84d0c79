import TableQuery.Proofs.FieldPath
import TableQuery.Proofs.Filter.Outline
import TableQuery.Request

/-!
# The joins of a request

The joins of a request come from the hops of all its fields, one field after the other: those that
it selects, those of its filter read depth first, those that it groups by and those that it orders
by.  A hop that was taken before, by whichever field, is left out.

`joins_eq_ok` and `joins_eq_error` say what a run of the collection is, and `joins_eq_ok_ownJoins`
takes the joins of each field apart.  From them `joins_firstOccurrences` says which joins come out
and in which order: none is missing, none is there without need or twice, and what fails is the first
field that does not resolve.
-/

namespace TableQuery.Request

variable {schema : Schema} {root : String} {request : Request}

/-- Joins are collected field by field, which is the same as resolving all fields first and taking
their hops one after the other. -/
theorem foldlM_collectJoins (paths : List FieldPath) (collection : Join.Collection) :
    paths.foldlM (collectJoins schema root) collection =
      (paths.mapM (FieldPath.resolve schema root)).map fun resolutions =>
        collection.takeAll (resolutions.flatMap FieldPath.Resolution.joins) := by
  have hread := Except.foldlM_eq_map_mapM (f := FieldPath.resolve schema root)
    (g := fun (kept : Join.Collection) resolution => kept.takeAll resolution.joins) paths collection
  have hstep : collectJoins schema root = fun kept path =>
      (path.resolve schema root).map fun resolution => kept.takeAll resolution.joins := by
    funext kept path
    unfold collectJoins
    cases path.resolve schema root <;> rfl
  rw [hstep, hread]
  congr 1
  funext resolutions
  rw [Join.Collection.takeAll, List.foldl_flatMap]
  rfl

/-- The joins of a request are what is left of the hops of its fields without repetitions. -/
theorem joins_eq_map (schema : Schema) (root : String) (request : Request) :
    request.joins schema root = (request.paths.mapM (FieldPath.resolve schema root)).map
      fun resolutions => (resolutions.flatMap FieldPath.Resolution.joins).eraseDups := by
  unfold Request.joins
  rw [foldlM_collectJoins]
  simp only [← Join.Collection.joins_takeAll_empty]
  cases request.paths.mapM (FieldPath.resolve schema root) <;> rfl

theorem joins_eq_ok {joins : List Join} :
    request.joins schema root = .ok joins ↔ ∃ resolutions,
      List.Forall₂ (fun path resolution => FieldPath.resolve schema root path = .ok resolution)
        request.paths resolutions ∧
      joins = (resolutions.flatMap FieldPath.Resolution.joins).eraseDups := by
  rw [joins_eq_map, Except.map_eq_ok]
  simp only [Except.mapM_eq_ok, eq_comm (a := joins)]

/-- The joins of a request cannot be collected when one of its fields does not resolve. -/
theorem joins_eq_error {failure : Error} :
    request.joins schema root = .error failure ↔
      request.paths.mapM (FieldPath.resolve schema root) = .error failure := by
  rw [joins_eq_map, Except.map_eq_error]

/-- The joins of the hops of a field, none if the field does not resolve. -/
def ownJoins (schema : Schema) (root : String) (path : FieldPath) : List Join :=
  match path.resolve schema root with
  | .ok resolution => resolution.joins
  | .error _ => []

theorem mem_ownJoins_iff {path : FieldPath} {join : Join} :
    join ∈ ownJoins schema root path ↔ ∃ resolution,
      path.resolve schema root = .ok resolution ∧ join ∈ resolution.joins := by
  unfold ownJoins
  cases path.resolve schema root with
  | error failure => simp
  | ok resolution => simp

theorem flatMap_ownJoins {paths : List FieldPath} {resolutions : List FieldPath.Resolution}
    (hresolutions : List.Forall₂
      (fun path resolution => FieldPath.resolve schema root path = .ok resolution)
      paths resolutions) :
    paths.flatMap (ownJoins schema root) = resolutions.flatMap FieldPath.Resolution.joins := by
  induction hresolutions with
  | nil => rfl
  | cons hfirst hrest ih => rw [List.flatMap_cons, List.flatMap_cons, ih, ownJoins, hfirst]

/-- The joins of a request are those of its fields, one field after the other. -/
theorem joins_eq_ok_ownJoins {joins : List Join} :
    request.joins schema root = .ok joins ↔
      (∀ path ∈ request.paths, ∃ resolution, path.resolve schema root = .ok resolution) ∧
        joins = (request.paths.flatMap (ownJoins schema root)).eraseDups := by
  rw [joins_eq_ok]
  constructor
  · intro hjoins
    obtain ⟨resolutions, hresolutions, rfl⟩ := hjoins
    rw [flatMap_ownJoins hresolutions]
    refine ⟨fun path hpath => ?_, rfl⟩
    obtain ⟨resolution, -, hresolve⟩ := Except.exists_of_mem_left hresolutions hpath
    exact ⟨resolution, hresolve⟩
  · intro hboth
    obtain ⟨hall, rfl⟩ := hboth
    obtain ⟨resolutions, hrun⟩ := Except.exists_mapM_eq_ok hall
    have hresolutions := Except.mapM_eq_ok.1 hrun
    exact ⟨resolutions, hresolutions, by rw [flatMap_ownJoins hresolutions]⟩

/-- The joins of a request can be collected when all of its fields resolve. -/
theorem exists_joins_iff :
    (∃ joins, request.joins schema root = .ok joins) ↔
      ∀ path ∈ request.paths, ∃ resolution, path.resolve schema root = .ok resolution := by
  simp only [joins_eq_ok_ownJoins, exists_and_left, exists_eq, and_true]

/-- The join is a hop of a field of the request. -/
def Takes (schema : Schema) (root : String) (request : Request) (join : Join) : Prop :=
  ∃ path ∈ request.paths, ∃ resolution,
    path.resolve schema root = .ok resolution ∧ join ∈ resolution.joins

/-- The joins of a request are the hops of its fields. -/
theorem mem_joins_iff {joins : List Join} (hjoins : request.joins schema root = .ok joins)
    {join : Join} : join ∈ joins ↔ request.Takes schema root join := by
  obtain ⟨-, rfl⟩ := joins_eq_ok_ownJoins.1 hjoins
  rw [List.mem_eraseDups, List.mem_flatMap]
  simp only [mem_ownJoins_iff, Takes]

/-- No join of a request is collected twice. -/
theorem nodup_joins {joins : List Join} (hjoins : request.joins schema root = .ok joins) :
    joins.Nodup := by
  obtain ⟨resolutions, -, rfl⟩ := joins_eq_ok.1 hjoins
  exact Keyed.nodup_eraseDups _

/-- The fields of a request are those that it selects, those of its filter in the order in which the
filter is read depth first, those that it groups by and those that it orders by.  Its joins can be
collected exactly when all of these resolve, and are then the first occurrences of their hops.
Otherwise what fails is the first of them that does not resolve. -/
theorem joins_firstOccurrences (schema : Schema) (root : String) (request : Request) :
    let paths := request.selected ++ request.filter.paths ++ request.groupBy ++
      request.orderBy.map OrderTerm.path
    Filter.Repeats request.filter.paths
      ((request.filter.outline.filterMap Filter.Mark.condition?).map Prod.fst) ∧
    ((∃ joins, request.joins schema root = .ok joins) ↔
      ∀ path ∈ paths, ∃ resolution, path.resolve schema root = .ok resolution) ∧
    (∀ joins, request.joins schema root = .ok joins ↔ ∃ resolutions,
      List.Forall₂ (fun path resolution => FieldPath.resolve schema root path = .ok resolution)
        paths resolutions ∧
      Join.FirstOccurrences (resolutions.flatMap FieldPath.Resolution.joins) joins) ∧
    ∀ failure, request.joins schema root = .error failure ↔ ∃ before path after,
      paths = before ++ path :: after ∧
      (∀ earlier ∈ before, ∃ resolution, earlier.resolve schema root = .ok resolution) ∧
      path.resolve schema root = .error failure := by
  intro paths
  refine ⟨?_, exists_joins_iff, ?_, ?_⟩
  · rw [Filter.conditions_outline]
    exact Filter.repeats_paths request.filter
  · intro joins
    rw [joins_eq_ok]
    refine exists_congr fun resolutions => and_congr_right fun _ => ?_
    exact Join.firstOccurrences_iff.symm
  · intro failure
    rw [joins_eq_error]
    exact Except.mapM_eq_error

/-- Cities with a mayor, in regions of countries. -/
def atlasSchema : Schema :=
  List.foldl Schema.insert Schema.empty
    [⟨"cities", [], [⟨"region", "regions", "region_id", "id"⟩,
        ⟨"mayor", "people", "mayor_id", "id"⟩]⟩,
      ⟨"regions", [], [⟨"country", "countries", "country_id", "id"⟩]⟩,
      ⟨"countries", [], []⟩, ⟨"people", [], []⟩]

/-- The filter goes further than the selected field, and before the mayor who is ordered by. -/
example : joins atlasSchema "cities"
    { empty with
      columns := some [.via "region" (.column "name")]
      filter := ⟨[.group .or [[.field (.via "region" (.via "country" (.column "name")))
        (.compare .eq (.text "Peru")) []]]]⟩
      orderBy := [⟨.via "mayor" (.column "age"), .ascending⟩] } =
    .ok [⟨"cities", "region_id", "regions", "id"⟩, ⟨"regions", "country_id", "countries", "id"⟩,
      ⟨"cities", "mayor_id", "people", "id"⟩] := rfl

end TableQuery.Request
