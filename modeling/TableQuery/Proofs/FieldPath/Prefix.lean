import TableQuery.Proofs.FieldPath

/-!
# How far a path is followed

Resolution takes the hops of a path from the left for as long as they lead along relations.
`Follows` says which joins that gives: one for each segment taken, in order, each starting where the
one before it ended.  What stops the walk is one of three things, the `Ending`: all hops were taken,
the next one is `*`, or the next one is no relation of the table reached.

`resolve_iff_follows` puts them together.  A path resolves exactly to where it can be followed to up
to an ending, and it fails exactly where it can be followed to a table that is not declared.
-/

namespace TableQuery.FieldPath

/-- The join follows the relation of the given name away from a declared table. -/
def IsHop (schema : Schema) (hop : String) (join : Join) : Prop :=
  hop ≠ wildcard ∧ ∃ table relation, schema.table? join.fromTable = some table ∧
    table.relation? hop = some relation ∧ join = hopJoin table relation

/-- The first segments of a path, one for each join, are hops along relations that lead from the
root to the last table. -/
structure Follows (schema : Schema) (root : String) (path : FieldPath) (joins : List Join)
    (last : String) : Prop where
  length_le : joins.length ≤ path.hops.length
  chain : Join.Chain root joins last
  hops : List.Forall₂ (IsHop schema) (path.segments.take joins.length) joins

/-- What ends a walk. -/
inductive Ending where
  /-- Every hop was taken. -/
  | arrival
  /-- The next hop is `*`. -/
  | all
  /-- The next hop is no relation of the table reached. -/
  | stray

/-- The ending of a walk in a table, by the number of hops taken and the column meant. -/
def Ends (path : FieldPath) (table : Table) (taken : Nat) (column : String) : Ending → Prop
  | .arrival => taken = path.hops.length ∧ column = path.terminal
  | .all => taken < path.hops.length ∧ path.segments[taken]? = some wildcard ∧ column = wildcard
  | .stray => taken < path.hops.length ∧ ∃ hop, path.segments[taken]? = some hop ∧
      hop ≠ wildcard ∧ table.relation? hop = none ∧ column = path.terminal

/-- A path is followed to the table of a resolution, which is declared, and has one ending there. -/
structure Reaches (schema : Schema) (root : String) (path : FieldPath)
    (resolution : Resolution) : Prop where
  follows : Follows schema root path resolution.joins resolution.column.table
  ends : ∃ table, schema.table? resolution.column.table = some table ∧
    ∃! ending, Ends path table resolution.joins.length resolution.column.column ending

/-- A path is followed to a table that is not declared, which may be the root itself. -/
inductive Breaks (schema : Schema) (root : String) (path : FieldPath) : Error → Prop where
  | intro (joins : List Join) (missing : String)
      (hfollows : Follows schema root path joins missing)
      (hmissing : schema.table? missing = none) : Breaks schema root path (.unknownTable missing)

variable {schema : Schema} {root last hop : String} {path rest : FieldPath} {table : Table}
  {join : Join} {joins : List Join}

/-! ## Following hop by hop -/

theorem follows_nil_iff : Follows schema root path [] last ↔ last = root := by
  constructor
  · intro hfollows
    cases hfollows.chain
    rfl
  · rintro rfl
    exact ⟨Nat.zero_le _, .nil last, .nil⟩

theorem not_follows_column {name : String} :
    ¬Follows schema root (.column name) (join :: joins) last := by
  intro hfollows
  exact absurd hfollows.length_le (Nat.not_succ_le_zero _)

theorem follows_cons_iff :
    Follows schema root (.via hop rest) (join :: joins) last ↔
      IsHop schema hop join ∧ join.fromTable = root ∧
        Follows schema join.toTable rest joins last := by
  constructor
  · intro hfollows
    obtain ⟨hlength, hchain, hhops⟩ := hfollows
    obtain ⟨hhop, hlater⟩ := List.forall₂_cons.1 hhops
    cases hchain with
    | cons _ hrest => exact ⟨hhop, rfl, Nat.le_of_succ_le_succ hlength, hrest, hlater⟩
  · intro hstep
    obtain ⟨hhop, rfl, hlength, hchain, hhops⟩ := hstep
    exact ⟨Nat.succ_le_succ hlength, .cons join hchain, .cons hhop hhops⟩

/-- From a declared table, the first hop that is taken is one along a relation of it. -/
theorem follows_hop_iff (htable : schema.table? root = some table) :
    Follows schema root (.via hop rest) (join :: joins) last ↔
      hop ≠ wildcard ∧ ∃ relation, table.relation? hop = some relation ∧
        join = hopJoin table relation ∧ Follows schema relation.target rest joins last := by
  rw [follows_cons_iff]
  constructor
  · intro htaken
    obtain ⟨⟨hhop, other, relation, hother, hrelation, rfl⟩, rfl, hrest⟩ := htaken
    cases htable.symm.trans hother
    exact ⟨hhop, relation, hrelation, rfl, hrest⟩
  · intro hstep
    obtain ⟨hhop, relation, hrelation, rfl, hrest⟩ := hstep
    have hname : (hopJoin table relation).fromTable = root := Schema.name_of_table? htable
    refine ⟨⟨hhop, table, relation, ?_, hrelation, rfl⟩, hname, hrest⟩
    rw [hname]
    exact htable

/-! ## Endings -/

section Endings

variable {taken : Nat} {column : String} {ending other : Ending}

/-- A walk has one ending. -/
theorem Ends.unique (hends : Ends path table taken column ending)
    (hother : Ends path table taken column other) : ending = other := by
  cases ending <;> cases other <;> simp only [Ends] at hends hother <;> grind

theorem existsUnique_ends_iff :
    (∃! ending, Ends path table taken column ending) ↔
      ∃ ending, Ends path table taken column ending := by
  constructor
  · exact ExistsUnique.exists
  · intro hends
    obtain ⟨ending, hending⟩ := hends
    exact ⟨ending, hending, fun other hother => hother.unique hending⟩

theorem exists_ends_column {name : String} :
    (∃ ending, Ends (.column name) table 0 column ending) ↔ column = name := by
  constructor
  · intro hsome
    obtain ⟨ending, hends⟩ := hsome
    cases ending with
    | arrival => exact hends.2
    | all => exact absurd hends.1 (Nat.not_lt_zero 0)
    | stray => exact absurd hends.1 (Nat.not_lt_zero 0)
  · intro hcolumn
    exact ⟨.arrival, rfl, hcolumn⟩

theorem exists_ends_via :
    (∃ ending, Ends (.via hop rest) table 0 column ending) ↔
      hop = wildcard ∧ column = wildcard ∨
        hop ≠ wildcard ∧ table.relation? hop = none ∧ column = rest.terminal := by
  constructor
  · intro hsome
    obtain ⟨ending, hends⟩ := hsome
    cases ending with
    | arrival => exact absurd hends.1.symm (Nat.succ_ne_zero _)
    | all => exact .inl ⟨Option.some.inj hends.2.1, hends.2.2⟩
    | stray =>
      obtain ⟨-, stray, hstray, hends⟩ := hends
      cases hstray
      exact .inr hends
  · intro hstops
    rcases hstops with ⟨rfl, hcolumn⟩ | hstray
    · exact ⟨.all, Nat.succ_pos _, rfl, hcolumn⟩
    · exact ⟨.stray, Nat.succ_pos _, hop, rfl, hstray⟩

/-- A hop that was taken does not count in how a walk ends. -/
theorem ends_via_succ :
    Ends (.via hop rest) table (taken + 1) column ending ↔
      Ends rest table taken column ending := by
  cases ending <;> simp [Ends, FieldPath.hops, segments, terminal]

end Endings

/-! ## What is reached -/

theorem reaches_nil_iff {column : ColumnRef} (htable : schema.table? root = some table) :
    Reaches schema root path ⟨column, []⟩ ↔
      column.table = root ∧ ∃ ending, Ends path table 0 column.column ending := by
  constructor
  · intro hreaches
    obtain ⟨hfollows, reached, hreached, hends⟩ := hreaches
    have hroot : column.table = root := follows_nil_iff.1 hfollows
    rw [hroot] at hreached
    cases htable.symm.trans hreached
    exact ⟨hroot, existsUnique_ends_iff.1 hends⟩
  · intro hcolumn
    obtain ⟨rfl, hends⟩ := hcolumn
    exact ⟨follows_nil_iff.2 rfl, table, htable, existsUnique_ends_iff.2 hends⟩

theorem reaches_cons_iff {column : ColumnRef} (htable : schema.table? root = some table) :
    Reaches schema root (.via hop rest) ⟨column, join :: joins⟩ ↔
      hop ≠ wildcard ∧ ∃ relation, table.relation? hop = some relation ∧
        join = hopJoin table relation ∧ Reaches schema relation.target rest ⟨column, joins⟩ := by
  have hends : ∀ reached, (∃! ending, Ends (.via hop rest) reached (joins.length + 1)
      column.column ending) ↔ ∃! ending, Ends rest reached joins.length column.column ending :=
    fun reached => existsUnique_congr fun ending => ends_via_succ
  constructor
  · intro hwhole
    obtain ⟨hfollows, reached, hreached, hending⟩ := hwhole
    obtain ⟨hhop, relation, hrelation, hjoin, hrest⟩ := (follows_hop_iff htable).1 hfollows
    exact ⟨hhop, relation, hrelation, hjoin, hrest, reached, hreached, (hends reached).1 hending⟩
  · intro hstep
    obtain ⟨hhop, relation, hrelation, hjoin, hrest, reached, hreached, hending⟩ := hstep
    exact ⟨(follows_hop_iff htable).2 ⟨hhop, relation, hrelation, hjoin, hrest⟩, reached, hreached,
      (hends reached).2 hending⟩

/-- A hop is taken from a declared table only. -/
theorem Follows.exists_root (hfollows : Follows schema root path (join :: joins) last) :
    ∃ table, schema.table? root = some table := by
  cases path with
  | column name => exact absurd hfollows not_follows_column
  | via hop rest =>
    obtain ⟨⟨-, table, -, htable, -⟩, rfl, -⟩ := follows_cons_iff.1 hfollows
    exact ⟨table, htable⟩

/-- From a declared table, one that is not declared is met by a hop. -/
theorem Follows.ne_nil (hfollows : Follows schema root path joins last)
    (htable : schema.table? root = some table) (hmissing : schema.table? last = none) :
    joins ≠ [] := by
  rintro rfl
  rw [follows_nil_iff.1 hfollows, htable] at hmissing
  cases hmissing

/-- Something is reached from a declared table only. -/
theorem Reaches.exists_root {resolution : Resolution}
    (hreaches : Reaches schema root path resolution) :
    ∃ table, schema.table? root = some table := by
  obtain ⟨column, joins⟩ := resolution
  cases joins with
  | nil =>
    obtain ⟨table, htable, -⟩ := hreaches.ends
    rw [follows_nil_iff.1 hreaches.follows] at htable
    exact ⟨table, htable⟩
  | cons join joins => exact hreaches.follows.exists_root

/-! ## Resolution -/

/-- A result succeeds with what a path reaches, and fails where the path breaks off. -/
def Tells (schema : Schema) (root : String) (path : FieldPath)
    (result : Except Error Resolution) : Prop :=
  (∀ resolution, result = .ok resolution ↔ Reaches schema root path resolution) ∧
    ∀ failure, result = .error failure ↔ Breaks schema root path failure

theorem tells_of_missing (hmissing : schema.table? root = none) :
    Tells schema root path (.error (.unknownTable root)) := by
  have hstart : ¬∃ table, schema.table? root = some table := by simp [hmissing]
  refine ⟨?_, ?_⟩
  · intro resolution
    constructor
    · intro hresult
      cases hresult
    · intro hreaches
      exact absurd hreaches.exists_root hstart
  · intro failure
    constructor
    · intro hresult
      cases hresult
      exact ⟨[], root, follows_nil_iff.2 rfl, hmissing⟩
    · intro hbreaks
      obtain ⟨joins, missing, hfollows, -⟩ := hbreaks
      cases joins with
      | nil => rw [follows_nil_iff.1 hfollows]
      | cons join joins => exact absurd hfollows.exists_root hstart

/-- A path of which no hop can be taken stands for a column of the root. -/
theorem tells_of_stays {name : String} (htable : schema.table? root = some table)
    (hstays : ∀ join joins last, ¬Follows schema root path (join :: joins) last)
    (hends : ∀ column, (∃ ending, Ends path table 0 column ending) ↔ column = name) :
    Tells schema root path (.ok ⟨⟨root, name⟩, []⟩) := by
  refine ⟨?_, ?_⟩
  · intro resolution
    obtain ⟨⟨last, column⟩, joins⟩ := resolution
    cases joins with
    | nil =>
      rw [reaches_nil_iff htable, hends]
      simp [eq_comm]
    | cons join joins =>
      constructor
      · intro hresult
        cases hresult
      · intro hreaches
        exact absurd hreaches.follows (hstays join joins last)
  · intro failure
    constructor
    · intro hresult
      cases hresult
    · intro hbreaks
      obtain ⟨joins, missing, hfollows, hmissing⟩ := hbreaks
      cases joins with
      | nil => exact absurd rfl (hfollows.ne_nil htable hmissing)
      | cons join joins => exact absurd hfollows (hstays join joins missing)

section Hop

variable {relation : Relation} (htable : schema.table? root = some table) (hhop : hop ≠ wildcard)
  (hrelation : table.relation? hop = some relation)

include htable hhop hrelation

/-- A path whose first hop is a relation reaches what the rest of it reaches from the target. -/
theorem reaches_hop_iff {resolution : Resolution} :
    Reaches schema root (.via hop rest) resolution ↔
      ∃ resolved, Reaches schema relation.target rest resolved ∧
        { resolved with joins := hopJoin table relation :: resolved.joins } = resolution := by
  obtain ⟨column, joins⟩ := resolution
  constructor
  · intro hwhole
    cases joins with
    | nil =>
      obtain ⟨-, hends⟩ := (reaches_nil_iff htable).1 hwhole
      rcases exists_ends_via.1 hends with ⟨hall, -⟩ | ⟨-, hstray, -⟩
      · exact absurd hall hhop
      · cases hrelation.symm.trans hstray
    | cons join later =>
      obtain ⟨-, other, hother, rfl, hlater⟩ := (reaches_cons_iff htable).1 hwhole
      cases hrelation.symm.trans hother
      exact ⟨⟨column, later⟩, hlater, rfl⟩
  · intro hstep
    obtain ⟨⟨_, later⟩, hlater, heq⟩ := hstep
    cases heq
    exact (reaches_cons_iff htable).2 ⟨hhop, relation, hrelation, rfl, hlater⟩

/-- A path whose first hop is a relation breaks off where the rest of it does from the target. -/
theorem breaks_hop_iff {failure : Error} :
    Breaks schema root (.via hop rest) failure ↔ Breaks schema relation.target rest failure := by
  have htaken : ∀ join joins last, Follows schema root (.via hop rest) (join :: joins) last ↔
      join = hopJoin table relation ∧ Follows schema relation.target rest joins last := by
    simp [follows_hop_iff htable, hhop, hrelation]
  constructor
  · intro hwhole
    obtain ⟨joins, missing, hfollows, hmissing⟩ := hwhole
    cases joins with
    | nil => exact absurd rfl (hfollows.ne_nil htable hmissing)
    | cons join later =>
      obtain ⟨-, hlater⟩ := (htaken join later missing).1 hfollows
      exact ⟨later, missing, hlater, hmissing⟩
  · intro hlater
    obtain ⟨joins, missing, hfollows, hmissing⟩ := hlater
    exact ⟨_ :: joins, missing, (htaken _ joins missing).2 ⟨rfl, hfollows⟩, hmissing⟩

/-- A path whose first hop is a relation leads where the rest of it leads from the target. -/
theorem tells_hop {result : Except Error Resolution}
    (hrest : Tells schema relation.target rest result) :
    Tells schema root (.via hop rest) (do
      let resolved ← result
      return { resolved with joins := hopJoin table relation :: resolved.joins }) := by
  obtain ⟨hreaches, hbreaks⟩ := hrest
  refine ⟨?_, ?_⟩
  · intro resolution
    rw [Except.bind_eq_ok, reaches_hop_iff htable hhop hrelation]
    simp only [hreaches, pure, Except.pure, Except.ok.injEq]
  · intro failure
    rw [Except.bind_eq_error, breaks_hop_iff htable hhop hrelation, hbreaks]
    simp [pure, Except.pure]

end Hop

/-- A path resolves exactly to what it reaches, and fails exactly where it breaks off. -/
theorem tells_resolve (schema : Schema) (root : String) (path : FieldPath) :
    Tells schema root path (path.resolve schema root) := by
  -- Every hop moves the root to the target of its relation, which need not be declared.
  induction path generalizing root with
  | column name =>
    cases htable : schema.table? root with
    | none =>
      rw [resolve_of_missing htable]
      exact tells_of_missing htable
    | some table =>
      rw [resolve_column htable]
      exact tells_of_stays htable (fun _ _ _ => not_follows_column) fun _ => exists_ends_column
  | via hop rest ih =>
    cases htable : schema.table? root with
    | none =>
      rw [resolve_of_missing htable]
      exact tells_of_missing htable
    | some table =>
      by_cases hhop : hop = wildcard
      · subst hhop
        rw [resolve_all htable]
        refine tells_of_stays htable ?_ ?_
        · simp [follows_hop_iff htable]
        · simp [exists_ends_via]
      · cases hrelation : table.relation? hop with
        | none =>
          rw [resolve_stray htable hhop hrelation]
          refine tells_of_stays htable ?_ ?_
          · simp [follows_hop_iff htable, hrelation]
          · simp [exists_ends_via, hhop, hrelation]
        | some relation =>
          rw [resolve_hop htable hhop hrelation]
          exact tells_hop htable hhop hrelation (ih relation.target)

/-- From a declared table a path breaks off at the target of the last hop taken. -/
theorem breaks_iff_of_declared {failure : Error} (htable : schema.table? root = some table) :
    Breaks schema root path failure ↔ ∃ joins final,
      Follows schema root path (joins ++ [final]) final.toTable ∧
      schema.table? final.toTable = none ∧ failure = .unknownTable final.toTable := by
  constructor
  · intro hbreaks
    obtain ⟨joins, missing, hfollows, hmissing⟩ := hbreaks
    rcases List.eq_nil_or_concat joins with rfl | ⟨earlier, final, rfl⟩
    · exact absurd rfl (hfollows.ne_nil htable hmissing)
    · rw [List.concat_eq_append] at hfollows
      obtain rfl := hfollows.chain.eq_toTable
      exact ⟨earlier, final, hfollows, hmissing, rfl⟩
  · intro htarget
    obtain ⟨joins, final, hfollows, hmissing, rfl⟩ := htarget
    exact ⟨joins ++ [final], final.toTable, hfollows, hmissing⟩

/-- From a declared table a path resolves exactly to what it reaches: the joins of its first
segments for as long as these are relations, and the column that its ending means on the table to
which the last of these joins leads.  It fails exactly where it is followed along a relation to a
table that is not declared, of which there is one only. -/
theorem resolve_iff_follows (htable : schema.table? root = some table) (path : FieldPath) :
    (∀ resolution, path.resolve schema root = .ok resolution ↔
      Reaches schema root path resolution) ∧
    ∀ failure, path.resolve schema root = .error failure ↔ ∃ joins final,
      Follows schema root path (joins ++ [final]) final.toTable ∧
      schema.table? final.toTable = none ∧ failure = .unknownTable final.toTable := by
  obtain ⟨hok, herror⟩ := tells_resolve schema root path
  exact ⟨hok, fun failure => (herror failure).trans (breaks_iff_of_declared htable)⟩

/-- Ports lie in countries, and a country may have a crown, a table that is not declared. -/
def portSchema : Schema :=
  (Schema.empty.insert ⟨"ports", [], [⟨"country", "countries", "country_id", "id"⟩]⟩).insert
    ⟨"countries", [],
      [⟨"ports", "ports", "id", "country_id"⟩, ⟨"ruler", "crowns", "crown_id", "id"⟩]⟩

theorem resolve_iff_follows_portSchema :
    Reaches portSchema "ports" (ofText "country.ports.pier.name") ⟨⟨"ports", "name"⟩,
        [⟨"ports", "country_id", "countries", "id"⟩, ⟨"countries", "id", "ports", "country_id"⟩]⟩ ∧
      ∃ joins final,
        Follows portSchema "ports" (ofText "country.ruler.name") (joins ++ [final]) final.toTable ∧
        portSchema.table? final.toTable = none ∧
        Error.unknownTable "crowns" = .unknownTable final.toTable := by
  have htable : portSchema.table? "ports" =
      some ⟨"ports", [], [⟨"country", "countries", "country_id", "id"⟩]⟩ := rfl
  refine ⟨?_, ?_⟩
  · exact ((resolve_iff_follows htable (ofText "country.ports.pier.name")).1 _).1 rfl
  · exact ((resolve_iff_follows htable (ofText "country.ruler.name")).2 _).1 rfl

end TableQuery.FieldPath
