import TableQuery.Proofs.FieldPath
import TableQuery.Proofs.Filter.Node
import TableQuery.Proofs.Json

/-!
# Nesting a filter under a relation

The object behind the key of a relation declares a filter on the table that the relation leads to.
Decoding does not know this: it puts every field of the object below the key, and compiling walks
the relation again for each of them.  The two cancel out.

This takes two steps.  Decoding under a hop gives the nodes that decoding gives otherwise, with the
hop in front of each field (`decodesUnder`).  And a node with a relation in front of its fields
resolves to what the node resolves to at the target (`resolve_under`).
-/

namespace TableQuery.Filter

mutual

/-- The node with every field taken from where a hop leads. -/
def Node.under (hop : String) : Node → Node
  | .field path first rest => .field (.via hop path) first rest
  | .group connective members => .group connective (membersUnder hop members)
termination_by structural node => node

/-- The members of a group with every field taken from where a hop leads. -/
def membersUnder (hop : String) : List (List Node) → List (List Node)
  | [] => []
  | member :: rest => nodesUnder hop member :: membersUnder hop rest
termination_by structural members => members

/-- Nodes with every field taken from where a hop leads. -/
def nodesUnder (hop : String) : List Node → List Node
  | [] => []
  | node :: rest => node.under hop :: nodesUnder hop rest
termination_by structural nodes => nodes

end

theorem nodesUnder_eq_map (hop : String) (nodes : List Node) :
    nodesUnder hop nodes = nodes.map (Node.under hop) := by
  induction nodes with
  | nil => rfl
  | cons node rest ih => rw [nodesUnder, ih, List.map_cons]

theorem nodesUnder_append (hop : String) (nodes more : List Node) :
    nodesUnder hop (nodes ++ more) = nodesUnder hop nodes ++ nodesUnder hop more := by
  rw [nodesUnder_eq_map, nodesUnder_eq_map, nodesUnder_eq_map, List.map_append]

/-! ## Resolving -/

section Resolving

variable {schema : Schema} {root target hop : String}

/-- Nodes under a hop resolve to what they resolve to at its target, if each of them does so. -/
theorem resolveNodes_under_of {nodes : List Node}
    (hnodes : ∀ node ∈ nodes, (node.under hop).resolve schema root = node.resolve schema target) :
    resolveNodes schema root (nodesUnder hop nodes) = resolveNodes schema target nodes := by
  induction nodes with
  | nil => rfl
  | cons node rest ih =>
    rw [List.forall_mem_cons] at hnodes
    rw [nodesUnder, resolveNodes, resolveNodes, hnodes.1, ih hnodes.2]

/-- A node under a hop resolves to what it resolves to at the target of the hop. -/
theorem resolve_under
    (hcolumn : ∀ path, (FieldPath.via hop path).columnRef schema root =
      path.columnRef schema target) (node : Node) :
    (node.under hop).resolve schema root = node.resolve schema target := by
  induction node with
  | field path first rest =>
    rw [Node.under, Node.resolve, Node.resolve, resolveField, resolveField, hcolumn]
  | group connective members ih =>
    have hmembers : resolveMembers schema root (membersUnder hop members) =
        resolveMembers schema target members := by
      induction members with
      | nil => rfl
      | cons member rest ihrest =>
        rw [List.forall_mem_cons] at ih
        rw [membersUnder, resolveMembers, resolveMembers, resolveNodes_under_of ih.1, ihrest ih.2]
    rw [Node.under, Node.resolve, Node.resolve, hmembers]

end Resolving

/-! ## Decoding -/

section Decoding

variable (hop : String)

/-- The field under a hop that stands for an enclosing field, or for none. -/
def baseUnder : Option FieldPath → FieldPath
  | none => .column hop
  | some base => .via hop base

/-- What a key gives, under a hop. -/
def Part.under : Part → Part
  | .condition own => .condition own
  | .nodes nested => .nodes (nodesUnder hop nested)

theorem fieldPath_baseUnder (base : Option FieldPath) (key : String) :
    fieldPath (some (baseUnder hop base)) key = .via hop (fieldPath base key) := by
  cases base <;> rfl

theorem nodesUnder_openWith (path : FieldPath) (run : List Condition) (nodes : List Node) :
    nodesUnder hop (openWith path run nodes) =
      openWith (.via hop path) run (nodesUnder hop nodes) := by
  cases run <;> rfl

theorem gather_under (path : FieldPath) (parts : List Part) :
    gather (.via hop path) (parts.map (Part.under hop)) =
      ((gather path parts).1, nodesUnder hop (gather path parts).2) := by
  induction parts with
  | nil => rfl
  | cons part rest ih =>
    rw [List.map_cons]
    cases part with
    | condition condition =>
      rw [Part.under, gather, gather, ih]
    | nodes nested =>
      rw [Part.under, gather, gather, ih]
      show ([], nodesUnder hop nested ++ openWith (.via hop path) (gather path rest).1
        (nodesUnder hop (gather path rest).2)) = _
      rw [← nodesUnder_openWith, ← nodesUnder_append]

/-- The parts of a field under a hop stand for its nodes under the hop. -/
theorem ofParts_under (path : FieldPath) (parts : List Part) :
    ofParts (.via hop path) (parts.map (Part.under hop)) =
      nodesUnder hop (ofParts path parts) := by
  unfold ofParts
  rw [gather_under, nodesUnder_openWith]

/-- A value gives under a hop what it gives otherwise: behind a key, and as a filter if it is an
object. -/
structure DecodesUnder (value : Json) : Prop where
  entry : ∀ base key, Except.Matches (nodesUnder hop) (entryNodes base key value)
    (entryNodes (some (baseUnder hop base)) key value)
  filter : ∀ fields, value = .obj fields → ∀ base, Except.Matches (nodesUnder hop)
    (nodesOf base fields) (nodesOf (some (baseUnder hop base)) fields)

variable {hop}

/-- A filter gives under a hop what it gives otherwise, if the value of each entry does so. -/
theorem nodesOf_under {fields : List (String × Json)}
    (hfields : ∀ entry ∈ fields, DecodesUnder hop entry.2) (base : Option FieldPath) :
    Except.Matches (nodesUnder hop) (nodesOf base fields)
      (nodesOf (some (baseUnder hop base)) fields) := by
  induction fields with
  | nil => exact .ok []
  | cons entry rest ih =>
    rw [List.forall_mem_cons] at hfields
    obtain ⟨key, value⟩ := entry
    rw [nodesOf, nodesOf]
    refine (hfields.1.entry base key).bind fun nodes => ?_
    refine (ih hfields.2).bind fun more => ?_
    rw [← nodesUnder_append]
    exact .ok _

/-- A group gives under a hop what it gives otherwise, if each of its items does so. -/
theorem members_under {items : List Json} (hitems : ∀ item ∈ items, DecodesUnder hop item)
    (base : Option FieldPath) :
    Except.Matches (membersUnder hop) (members base items)
      (members (some (baseUnder hop base)) items) := by
  induction items with
  | nil => exact .ok []
  | cons item rest ih =>
    rw [List.forall_mem_cons] at hitems
    cases item with
    | obj fields =>
      rw [members, members]
      refine (hitems.1.filter fields rfl base).bind fun member => ?_
      exact (ih hitems.2).bind fun more => .ok _
    | null | bool | whole | real | str | arr => exact .error _ _

/-- The object of a field gives under a hop the parts that it gives otherwise, if the value of each
entry does so. -/
theorem parts_under {fields : List (String × Json)}
    (hfields : ∀ entry ∈ fields, DecodesUnder hop entry.2) (path : FieldPath) :
    Except.Matches (List.map (Part.under hop)) (parts path fields)
      (parts (.via hop path) fields) := by
  induction fields with
  | nil => exact .ok []
  | cons entry rest ih =>
    rw [List.forall_mem_cons] at hfields
    obtain ⟨key, value⟩ := entry
    rw [parts, parts]
    cases Operator.ofKey? key with
    | some operator =>
      refine (Except.Matches.refl _).bind fun condition => ?_
      exact (ih hfields.2).bind fun more => .ok _
    | none =>
      by_cases hreserved : isReserved key ∧ Connective.ofKey? key = none
      · simp only [if_pos hreserved]
        exact .error _ _
      · simp only [if_neg hreserved]
        refine (hfields.1.entry (some path) key).bind fun nested => ?_
        exact (ih hfields.2).bind fun more => .ok _

/-- Every value gives under a hop what it gives otherwise. -/
theorem decodesUnder (value : Json) : DecodesUnder hop value := by
  induction value with
  | arr items ih =>
    constructor
    · intro base key
      unfold entryNodes
      cases Connective.ofKey? key with
      | some connective => exact (members_under ih base).bind fun nested => .ok _
      | none => exact .error _ _
    · intro fields heq
      cases heq
  | obj fields ih =>
    constructor
    · intro base key
      unfold entryNodes
      rw [fieldPath_baseUnder]
      cases Connective.ofKey? key with
      | some connective => exact .error _ _
      | none =>
        refine (parts_under ih (fieldPath base key)).bind fun own => ?_
        rw [ofParts_under]
        exact .ok _
    · intro own heq base
      cases heq
      exact nodesOf_under ih base
  | null | bool | whole | real | str =>
    constructor
    · intro base key
      unfold entryNodes
      cases Connective.ofKey? key <;> exact .error _ _
    · intro fields heq
      cases heq

end Decoding

/-! ## Nesting -/

section Nesting

variable {fields : List (String × Json)}

/-- Every operator key is reserved and names no connective. -/
theorem reserved_of_operator {key : String} {operator : Operator}
    (hoperator : Operator.ofKey? key = some operator) :
    isReserved key = true ∧ Connective.ofKey? key = none := by
  have hkey : operator.key = key := by simpa using List.find?_some hoperator
  rw [← hkey]
  cases operator with
  | compare comparison => cases comparison <;> decide
  | among negated => cases negated <;> decide
  | between negated => cases negated <;> decide

/-- An object without keys for operators gives behind the key of a field what it gives as a filter
below that field. -/
theorem map_ofParts_parts
    (hkeys : ∀ entry ∈ fields, isReserved entry.1 = true → entry.1 = "$and" ∨ entry.1 = "$or")
    (path : FieldPath) : (parts path fields).map (ofParts path) = nodesOf (some path) fields := by
  induction fields with
  | nil => rfl
  | cons entry rest ih =>
    rw [List.forall_mem_cons] at hkeys
    obtain ⟨key, value⟩ := entry
    have hplain : ¬(isReserved key = true ∧ Connective.ofKey? key = none) := by
      intro hrefused
      obtain ⟨hreserved, hconnective⟩ := hrefused
      rcases hkeys.1 hreserved with heq | heq
      · rw [show key = "$and" from heq] at hconnective
        exact absurd hconnective (by decide)
      · rw [show key = "$or" from heq] at hconnective
        exact absurd hconnective (by decide)
    have hoperator : Operator.ofKey? key = none := by
      cases hfound : Operator.ofKey? key with
      | none => rfl
      | some operator => exact absurd (reserved_of_operator hfound) hplain
    rw [parts, nodesOf, ← ih hkeys.2, hoperator]
    simp only [if_neg hplain]
    cases entryNodes (some path) key value with
    | error failure => rfl
    | ok nested => cases parts path rest <;> rfl

/-- The key of a field gives what the parts of its object stand for. -/
theorem entryNodes_field {base : Option FieldPath} {key : String}
    (hconnective : Connective.ofKey? key = none) :
    entryNodes base key (.obj fields) =
      (parts (fieldPath base key) fields).map (ofParts (fieldPath base key)) := by
  rw [entryNodes, hconnective]
  dsimp only
  cases parts (fieldPath base key) fields <;> rfl

/-- A filter behind the key of a field is the filter below that field. -/
theorem ofJson_nested {hop : String} (hpoint : '.' ∉ hop.toList) (hand : hop ≠ "$and")
    (hor : hop ≠ "$or")
    (hkeys : ∀ entry ∈ fields, isReserved entry.1 = true → entry.1 = "$and" ∨ entry.1 = "$or") :
    ofJson (.obj [(hop, .obj fields)]) =
      (nodesOf (some (.column hop)) fields).map Filter.mk := by
  have hconnective : Connective.ofKey? hop = none := by
    unfold Connective.ofKey?
    rw [if_neg (show hop ≠ Connective.and.key from hand),
      if_neg (show hop ≠ Connective.or.key from hor)]
  rw [← map_ofParts_parts hkeys, ofJson, nodesOf, nodesOf, entryNodes_field hconnective,
    show fieldPath none hop = .column hop from FieldPath.ofText_of_notMem hpoint]
  cases parts (.column hop) fields with
  | error failure => rfl
  | ok own =>
    show Except.ok (Filter.mk (ofParts (.column hop) own ++ [])) = _
    rw [List.append_nil]
    rfl

/-- A filter behind the key of a relation is declared exactly when the filter itself is, and it
compiles as the filter itself does at the target of the relation: to the same text, or to the same
error. -/
theorem compile_nested {schema : Schema} {root hop : String} {table : Table} {relation : Relation}
    (htable : schema.table? root = some table) (hrelation : table.relation? hop = some relation)
    (hpoint : '.' ∉ hop.toList) (hwildcard : hop ≠ wildcard) (hand : hop ≠ "$and")
    (hor : hop ≠ "$or")
    (hkeys : ∀ entry ∈ fields, isReserved entry.1 = true → entry.1 = "$and" ∨ entry.1 = "$or") :
    ((∃ nested, ofJson (.obj [(hop, .obj fields)]) = .ok nested) ↔
      ∃ plain, ofJson (.obj fields) = .ok plain) ∧
    ∀ nested plain, ofJson (.obj [(hop, .obj fields)]) = .ok nested →
      ofJson (.obj fields) = .ok plain →
        nested.compile schema root = plain.compile schema relation.target := by
  rw [ofJson_nested hpoint hand hor hkeys, show ofJson (.obj fields) =
    (nodesOf none fields).map Filter.mk from rfl]
  have hunder : Except.Matches (nodesUnder hop) (nodesOf none fields)
      (nodesOf (some (.column hop)) fields) :=
    (decodesUnder (.obj fields)).filter fields rfl none
  generalize nodesOf none fields = plainNodes at hunder
  generalize nodesOf (some (.column hop)) fields = nestedNodes at hunder
  cases hunder with
  | error first second =>
    constructor
    · constructor
      · intro hnested
        obtain ⟨nested, hok⟩ := hnested
        cases hok
      · intro hplain
        obtain ⟨plain, hok⟩ := hplain
        cases hok
    · intro nested plain hnested
      cases hnested
  | ok nodes =>
    constructor
    · exact ⟨fun _ => ⟨_, rfl⟩, fun _ => ⟨_, rfl⟩⟩
    · intro nested plain hnested hplain
      cases hnested
      cases hplain
      have hresolve : resolveNodes schema root (nodesUnder hop nodes) =
          resolveNodes schema relation.target nodes :=
        resolveNodes_under_of fun node _ =>
          resolve_under (FieldPath.columnRef_via htable hrelation hwildcard) node
      unfold compile resolve
      rw [hresolve]

end Nesting

/-- People live in towns, and a town has a mayor. -/
def townSchema : Schema :=
  (Schema.empty.insert ⟨"people", [], [⟨"town", "towns", "town_id", "id"⟩]⟩).insert
    ⟨"towns", [], [⟨"mayor", "people", "mayor_id", "id"⟩]⟩

/-- Conditions on a town, one in the middle taken from where its name leads, and an alternative. -/
def townFields : List (String × Json) :=
  [("name", .obj [("$like", .str "A%"), ("mayor", .obj [("$eq", .null)]), ("$neq", .str "A")]),
    ("$or", .arr [.obj [("mayor.age", .obj [("$in", .bool true)])], .obj [("*.x", .obj [])]])]

/-- The filter that `townFields` declares. -/
def townFilter : Filter :=
  ⟨[.field (.column "name") (.compare .like (.text "A%")) [],
    .field (.via "name" (.column "mayor")) (.compare .eq .null) [],
    .field (.column "name") (.compare .ne (.text "A")) [],
    .group .or [[.field (.via "mayor" (.column "age")) (.among false [.bool true]) []], []]]⟩

theorem compile_nested_townFields :
    ofJson (.obj townFields) = .ok townFilter ∧
      ofJson (.obj [("town", .obj townFields)]) = .ok ⟨nodesUnder "town" townFilter.nodes⟩ ∧
      (Filter.mk (nodesUnder "town" townFilter.nodes)).compile townSchema "people" =
        townFilter.compile townSchema "towns" := by
  have hplain : ofJson (.obj townFields) = .ok townFilter := rfl
  have hnested : ofJson (.obj [("town", .obj townFields)]) =
      .ok ⟨nodesUnder "town" townFilter.nodes⟩ := rfl
  have hkeys : ∀ entry ∈ townFields, isReserved entry.1 = true →
      entry.1 = "$and" ∨ entry.1 = "$or" := by
    refine List.forall_mem_cons.2 ⟨fun hname => absurd hname (by decide), ?_⟩
    exact List.forall_mem_cons.2 ⟨fun _ => .inr rfl, fun _ hnone => nomatch hnone⟩
  have hpeople : townSchema.table? "people" =
    some ⟨"people", [], [⟨"town", "towns", "town_id", "id"⟩]⟩ := rfl
  have htown : Table.relation? ⟨"people", [], [⟨"town", "towns", "town_id", "id"⟩]⟩ "town" =
    some ⟨"town", "towns", "town_id", "id"⟩ := rfl
  have hcompile := (compile_nested hpeople htown (by decide) (by decide) (by decide) (by decide)
    hkeys).2 _ _ hnested hplain
  exact ⟨hplain, hnested, hcompile⟩

end TableQuery.Filter
