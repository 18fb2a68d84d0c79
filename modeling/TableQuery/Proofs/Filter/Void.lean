import TableQuery.Proofs.Filter.Node
import TableQuery.Proofs.Filter.Outline

/-!
# Memberships in no values

A filter is solid if it has no membership in no values, at any depth.  Where every field has
a column this is all that resolving asks for, and what it reports otherwise is one of these
memberships (`decides_resolve`).

A filter that is decoded is solid, since the decoder refuses such memberships too; and so is the
filter of a request that is decoded.
-/

namespace TableQuery

/-- A condition is void when it is a membership in no values. -/
theorem Condition.isVoid_iff {condition : Condition} :
    condition.isVoid = true ↔ ∃ negated, condition = .among negated [] := by
  cases condition <;> simp [isVoid]

/-- The check of a condition decides whether it is void. -/
theorem Condition.decides_check {reports : Error → Prop} {condition : Condition}
    (hreport : condition.isVoid = true → reports (.invalidFilter (.noValues condition.operator))) :
    Except.Decides reports (condition.isVoid = false) condition.check := by
  unfold check
  cases hvoid : condition.isVoid with
  | false => exact .ok rfl ()
  | true => exact .error (by simp) (hreport hvoid)

namespace Filter

/-- No condition of the filter is void. -/
def IsSolid (filter : Filter) : Prop :=
  ∀ entry ∈ filter.entries, entry.2.isVoid = false

/-- What is reported of the memberships in no values that a filter has. -/
def VoidReport (filter : Filter) (failure : Error) : Prop :=
  ∃ path negated, (path, Condition.among negated []) ∈ filter.entries ∧
    failure = .invalidFilter (.noValues (.among negated))

/-- A filter is solid unless it has a membership in no values. -/
theorem not_isSolid_iff {filter : Filter} :
    ¬filter.IsSolid ↔ ∃ path negated, (path, Condition.among negated []) ∈ filter.entries := by
  simp only [IsSolid, not_forall, Bool.not_eq_false, Condition.isVoid_iff, Prod.exists, exists_prop]
  constructor
  · intro hvoid
    obtain ⟨path, condition, hentry, negated, rfl⟩ := hvoid
    exact ⟨path, negated, hentry⟩
  · intro hentry
    obtain ⟨path, negated, hentry⟩ := hentry
    exact ⟨path, _, hentry, negated, rfl⟩

/-! ## Resolving -/

section Resolving

variable {schema : Schema} {root : String}

/-- Where every field has a column, resolving a node decides whether it is free of void
conditions. -/
theorem decides_resolveNode {reports : Error → Prop} (hcolumns : ∀ path : FieldPath, ∃ column,
      path.columnRef schema root = .ok column) (node : Node)
    (hreport : ∀ entry ∈ node.entries, entry.2.isVoid = true →
      reports (.invalidFilter (.noValues entry.2.operator))) :
    Except.Decides reports (∀ entry ∈ node.entries, entry.2.isVoid = false)
      (node.resolve schema root) := by
  induction node with
  | field path first rest =>
    rw [Node.entries, List.forall_mem_map] at hreport ⊢
    obtain ⟨column, hcolumn⟩ := hcolumns path
    have hchecks : Except.Decides reports (∀ condition ∈ first :: rest, condition.isVoid = false)
        ((first :: rest).forM Condition.check) :=
      .forM fun condition hmem => Condition.decides_check (hreport condition hmem)
    rw [Node.resolve, resolveField, hcolumn]
    exact hchecks.bind_ok fun _ => ⟨_, rfl⟩
  | group connective members ih =>
    rw [Node.entries, forall_mem_memberEntries] at hreport ⊢
    have hmembers : Except.Decides reports
        (∀ member ∈ members, ∀ node ∈ member, ∀ entry ∈ node.entries, entry.2.isVoid = false)
        (resolveMembers schema root members) := by
      rw [resolveMembers_eq_mapM]
      refine .mapM fun member hmember => ?_
      rw [resolveNodes_eq_mapM]
      refine (Except.Decides.mapM fun node hnode => ?_).map _
      exact ih member hmember node hnode (hreport member hmember node hnode)
    rw [Node.resolve]
    exact hmembers.bind_ok fun _ => ⟨_, rfl⟩

/-- Where every field has a column, resolving a filter decides whether it is solid. -/
theorem decides_resolve (hcolumns : ∀ path : FieldPath, ∃ column,
      path.columnRef schema root = .ok column) (filter : Filter) :
    Except.Decides filter.VoidReport filter.IsSolid (filter.resolve schema root) := by
  have hreport : ∀ entry ∈ filter.entries, entry.2.isVoid = true →
      filter.VoidReport (.invalidFilter (.noValues entry.2.operator)) := by
    intro entry hentry hvoid
    obtain ⟨path, condition⟩ := entry
    obtain ⟨negated, heq⟩ := Condition.isVoid_iff.1 hvoid
    cases heq
    exact ⟨path, negated, hentry, rfl⟩
  unfold entries at hreport
  rw [forall_mem_nodeEntries] at hreport
  unfold IsSolid entries
  rw [forall_mem_nodeEntries, resolve, resolveNodes_eq_mapM]
  refine (Except.Decides.mapM fun node hnode => ?_).map _
  exact decides_resolveNode hcolumns node (hreport node hnode)

/-- A filter that resolves is solid. -/
theorem isSolid_of_resolve {filter : Filter} {predicates : List Predicate}
    (hresolve : filter.resolve schema root = .ok predicates) : filter.IsSolid := by
  unfold IsSolid entries
  rw [forall_mem_nodeEntries]
  intro node hnode
  obtain ⟨part, hpart⟩ := exists_resolve_of_mem hresolve hnode
  exact isVoid_of_resolve node hpart

end Resolving

/-! ## Decoding -/

/-- A filter that is decoded is solid. -/
theorem isSolid_of_ofJson {value : Json} {filter : Filter} (hvalue : ofJson value = .ok filter) :
    filter.IsSolid := by
  have hgives := Mark.conditions_rel (outline_rel hvalue)
  rw [conditions_outline] at hgives
  intro entry hentry
  obtain ⟨declared, -, hdeclared⟩ := Except.exists_of_mem hgives hentry
  exact hdeclared.solid

end Filter

namespace Request

/-- An entry of a declaration leaves the filter of a request as it is, or declares another. -/
theorem filter_of_setEntry {request next : Request} {entry : String × Json}
    (hnext : setEntry request entry = .ok next) :
    next.filter = request.filter ∨ Filter.ofJson entry.2 = .ok next.filter := by
  unfold setEntry at hnext
  dsimp only at hnext
  split at hnext
  · cases hnext
    exact .inl rfl
  · cases hpart : Part.ofKey? entry.1 with
    | none =>
      rw [hpart] at hnext
      cases hnext
    | some part =>
      rw [hpart] at hnext
      cases part with
      | filter =>
        obtain ⟨filter, hfilter, heq⟩ := Except.bind_eq_ok.1 hnext
        cases heq
        exact .inr hfilter
      | columns | orderBy | groupBy | limit | offset =>
        obtain ⟨_, -, heq⟩ := Except.bind_eq_ok.1 hnext
        cases heq
        exact .inl rfl

/-- The filter of a request that is decoded is solid. -/
theorem isSolid_of_ofJson {value : Json} {request : Request}
    (hvalue : ofJson value = .ok request) : request.filter.IsSolid := by
  cases value with
  | obj entries =>
    refine Except.of_foldlM_eq_ok (fun request => request.filter.IsSolid) ?_ ?_ hvalue
    · intro request entry next hrequest hnext
      rcases filter_of_setEntry hnext with hsame | hdeclared
      · rw [hsame]
        exact hrequest
      · exact Filter.isSolid_of_ofJson hdeclared
    · intro entry hentry
      cases hentry
  | null | bool | whole | real | str | arr => cases hvalue

end Request

end TableQuery
