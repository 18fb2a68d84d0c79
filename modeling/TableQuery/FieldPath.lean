/-!
# Field paths

A field path such as `region.planet.name` names a column by way of relations: every segment but the
last is a hop from one table to the next, and the last is a column of the table reached.  The
written form joins the segments with points.

`FieldPath.ofText` reads every text, since an empty segment is a segment too, and
`text_ofText` says that nothing of it is lost.  Two paths are put one below the other by
`FieldPath.append`, which is how a nested filter names its fields.
-/

namespace TableQuery

/-- A column reached by hops along relations. -/
inductive FieldPath where
  /-- A column of the table at hand. -/
  | column (name : String)
  /-- A path that starts with a hop. -/
  | via (hop : String) (rest : FieldPath)
  deriving DecidableEq, Repr

namespace FieldPath

/-- The path with the given segments, the first one apart. -/
def ofSegments : String → List String → FieldPath
  | name, [] => .column name
  | hop, next :: rest => .via hop (ofSegments next rest)

/-- All segments in order. -/
def segments : FieldPath → List String
  | .column name => [name]
  | .via hop rest => hop :: rest.segments

/-- The hops in order. -/
def hops : FieldPath → List String
  | .column _ => []
  | .via hop rest => hop :: rest.hops

/-- The last segment. -/
def terminal : FieldPath → String
  | .column name => name
  | .via _ rest => rest.terminal

/-- The written form. -/
def text (path : FieldPath) : String :=
  String.intercalate "." path.segments

/-- Reads a written path. -/
def ofText (text : String) : FieldPath :=
  match (text.toList.splitOn '.').map String.ofList with
  | [] => .column ""
  | first :: rest => ofSegments first rest

/-- The second path taken from where the first one ends, whose last segment becomes a hop. -/
def append : FieldPath → FieldPath → FieldPath
  | .column name, path => .via name path
  | .via hop rest, path => .via hop (rest.append path)

instance : Append FieldPath := ⟨append⟩

/-! ## Segments and text -/

@[simp] theorem segments_ofSegments (first : String) (rest : List String) :
    (ofSegments first rest).segments = first :: rest := by
  induction rest generalizing first with
  | nil => rfl
  | cons next rest ih => simp [ofSegments, segments, ih]

/-- A path is its hops and its last segment. -/
theorem segments_eq_hops_append (path : FieldPath) :
    path.segments = path.hops ++ [path.terminal] := by
  induction path with
  | column name => rfl
  | via hop rest ih => simp [segments, hops, terminal, ih]

/-- The segments of a path below another are the segments of both. -/
@[simp] theorem segments_append (path below : FieldPath) :
    (path ++ below).segments = path.segments ++ below.segments := by
  induction path with
  | column name => rfl
  | via hop rest ih => exact congrArg (hop :: ·) ih

/-- The segments of a written path are the pieces between its points. -/
theorem segments_ofText (text : String) :
    (ofText text).segments = (text.toList.splitOn '.').map String.ofList := by
  unfold ofText
  split
  · rename_i hnone
    exact absurd (List.map_eq_nil_iff.1 hnone) (List.splitOn_ne_nil _ _)
  · rename_i hpieces
    rw [hpieces, segments_ofSegments]

/-- Reading a path loses nothing of its text. -/
@[simp] theorem text_ofText (text : String) : (ofText text).text = text := by
  apply String.toList_injective
  unfold FieldPath.text
  rw [segments_ofText, String.toList_intercalate]
  simp [Function.comp_def, List.intercalate_splitOn]

end FieldPath

end TableQuery
