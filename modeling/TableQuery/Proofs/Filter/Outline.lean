import TableQuery.Filter.Declaration
import TableQuery.Proofs.FieldPath
import TableQuery.Proofs.Filter.Pieces
import TableQuery.Proofs.Json

/-!
# The outline of a declaration

Read depth first, a declaration is a row of conditions, with marks where a group or a member of
a group begins and where a group ends.  So is the filter that it declares.  The two rows agree mark
by mark: nothing of a declaration is lost, repeated or moved.

What makes this more than a matter of course is that conditions in a row share a node.  The nodes
that the object of a field stands for are cut where something else stands between two conditions, and
`marks_ofParts` says that the cuts do not show in the outline.
-/

namespace TableQuery.Filter

/-! ## Marks -/

/-- A step of reading depth first. -/
inductive Mark (α : Type) where
  | condition (condition : α)
  /-- A group begins. -/
  | opening (connective : Connective)
  /-- A member of a group begins. -/
  | member
  /-- A group ends. -/
  | closing

namespace Mark

variable {α β : Type}

/-- The condition that a mark is, if it is one. -/
def condition? : Mark α → Option α
  | condition own => some own
  | _ => none

/-- Two marks of the same kind, with conditions that are related. -/
inductive Rel (R : α → β → Prop) : Mark α → Mark β → Prop where
  | condition {a : α} {b : β} (hrel : R a b) : Rel R (.condition a) (.condition b)
  | opening (connective : Connective) : Rel R (.opening connective) (.opening connective)
  | member : Rel R .member .member
  | closing : Rel R .closing .closing

/-- In rows that agree, the conditions do. -/
theorem conditions_rel {R : α → β → Prop} {marks : List (Mark α)} {others : List (Mark β)}
    (hrel : List.Forall₂ (Rel R) marks others) :
    List.Forall₂ R (marks.filterMap condition?) (others.filterMap condition?) := by
  refine List.rel_filterMap ?_ hrel
  intro mark other hmark
  cases hmark with
  | condition hcondition => exact .some hcondition
  | opening | member | closing => exact .none

end Mark

/-! ## The outline of a filter -/

mutual

/-- The outline of a node. -/
def Node.marks : Node → List (Mark (FieldPath × Condition))
  | .field path first rest => (first :: rest).map fun condition => .condition (path, condition)
  | .group connective members => .opening connective :: memberMarks members ++ [.closing]
termination_by structural node => node

/-- The outline of the members of a group. -/
def memberMarks : List (List Node) → List (Mark (FieldPath × Condition))
  | [] => []
  | member :: rest => .member :: nodeMarks member ++ memberMarks rest
termination_by structural members => members

/-- The outline of a list of nodes. -/
def nodeMarks : List Node → List (Mark (FieldPath × Condition))
  | [] => []
  | node :: rest => node.marks ++ nodeMarks rest
termination_by structural nodes => nodes

end

/-- The outline of a filter. -/
def outline (filter : Filter) : List (Mark (FieldPath × Condition)) :=
  nodeMarks filter.nodes

theorem nodeMarks_eq_flatMap (nodes : List Node) : nodeMarks nodes = nodes.flatMap Node.marks := by
  induction nodes with
  | nil => rfl
  | cons node rest ih => rw [nodeMarks, ih, List.flatMap_cons]

theorem nodeMarks_append (nodes more : List Node) :
    nodeMarks (nodes ++ more) = nodeMarks nodes ++ nodeMarks more := by
  rw [nodeMarks_eq_flatMap, nodeMarks_eq_flatMap, nodeMarks_eq_flatMap, List.flatMap_append]

/-- The conditions in the outline of nodes are theirs, if those in the outline of each are. -/
theorem conditions_nodeMarks_of {nodes : List Node}
    (hnodes : ∀ node ∈ nodes, node.marks.filterMap Mark.condition? = node.entries) :
    (nodeMarks nodes).filterMap Mark.condition? = nodeEntries nodes := by
  induction nodes with
  | nil => rfl
  | cons node rest ih =>
    rw [List.forall_mem_cons] at hnodes
    rw [nodeMarks, nodeEntries, List.filterMap_append, hnodes.1, ih hnodes.2]

/-- The conditions in the outline of a node are its conditions. -/
theorem conditions_marks (node : Node) : node.marks.filterMap Mark.condition? = node.entries := by
  induction node with
  | field path first rest =>
    rw [Node.marks, Node.entries, List.filterMap_map]
    exact congrFun (List.filterMap_eq_map (f := Prod.mk path)) (first :: rest)
  | group connective members ih =>
    have hmembers : (memberMarks members).filterMap Mark.condition? = memberEntries members := by
      induction members with
      | nil => rfl
      | cons member rest ihrest =>
        rw [List.forall_mem_cons] at ih
        rw [memberMarks, memberEntries, List.cons_append, List.filterMap_cons_none rfl,
          List.filterMap_append, conditions_nodeMarks_of ih.1, ihrest ih.2]
    rw [Node.marks, Node.entries, List.cons_append, List.filterMap_cons_none rfl,
      List.filterMap_append, hmembers]
    exact List.append_nil _

/-- The conditions in the outline of a filter are its conditions. -/
theorem conditions_outline (filter : Filter) :
    filter.outline.filterMap Mark.condition? = filter.entries :=
  conditions_nodeMarks_of fun node _ => conditions_marks node

/-! ## The outline of a declaration -/

/-- An operator key in the object of a field as it stands in a declaration, behind the keys of the
enclosing fields, outermost first. -/
structure Declared where
  fields : List String
  operator : Operator
  operand : Json

mutual

/-- The outline of a key that is no operator. -/
def keyOutline (fields : List String) (key : String) (value : Json) : List (Mark Declared) :=
  match Connective.ofKey? key with
  | some connective =>
    match value with
    | .arr items => .opening connective :: itemOutline fields items ++ [.closing]
    | _ => []
  | none =>
    match value with
    | .obj own => fieldOutline (fields ++ [key]) own
    | _ => []
termination_by structural value

/-- The outline of the items of a group. -/
def itemOutline (fields : List String) : List Json → List (Mark Declared)
  | [] => []
  | .obj own :: rest => .member :: objectOutline fields own ++ itemOutline fields rest
  | _ :: rest => itemOutline fields rest
termination_by structural items => items

/-- The outline of an object that is read as a filter. -/
def objectOutline (fields : List String) : List (String × Json) → List (Mark Declared)
  | [] => []
  | (key, value) :: rest => keyOutline fields key value ++ objectOutline fields rest
termination_by structural entries => entries

/-- The outline of the object of a field. -/
def fieldOutline (fields : List String) : List (String × Json) → List (Mark Declared)
  | [] => []
  | (key, value) :: rest =>
    (match Operator.ofKey? key with
      | some operator => [.condition ⟨fields, operator, value⟩]
      | none => keyOutline fields key value) ++ fieldOutline fields rest
termination_by structural entries => entries

end

/-- The outline of a declaration. -/
def outlineOfJson : Json → List (Mark Declared)
  | .obj entries => objectOutline [] entries
  | _ => []

namespace Declared

/-- The path that the enclosing fields are joined to. -/
def path (declared : Declared) : FieldPath :=
  FieldPath.ofText (String.intercalate "." declared.fields)

/-- The operands that the operator takes: for a comparison the literal of the value, otherwise its
elements. -/
def operands (declared : Declared) : List Literal :=
  match declared.operator with
  | .compare _ => [Literal.ofJson declared.operand]
  | .among _ => (Literal.ofJson declared.operand).elements
  | .between _ => (Literal.ofJson declared.operand).elements

/-- A condition on a path is what an operator key declares. -/
structure Gives (declared : Declared) (entry : FieldPath × Condition) : Prop where
  path : entry.1 = declared.path
  operator : entry.2.operator = declared.operator
  operands : entry.2.operands = declared.operands
  /-- A membership has values. -/
  solid : entry.2.isVoid = false

end Declared

/-! ## Decoding -/

/-- The field below which keys are read behind the given keys of fields. -/
def basePath : List String → Option FieldPath
  | [] => none
  | first :: rest => some (FieldPath.ofText (String.intercalate "." (first :: rest)))

/-- A key behind keys of fields names the path that all of them are joined to. -/
theorem fieldPath_basePath (fields : List String) (key : String) :
    fieldPath (basePath fields) key =
      FieldPath.ofText (String.intercalate "." (fields ++ [key])) := by
  cases fields with
  | nil => rfl
  | cons first rest =>
    rw [String.intercalate_append_of_ne_nil (List.cons_ne_nil first rest)
      (List.cons_ne_nil key []), String.intercalate_singleton, FieldPath.ofText_append_point]
    rfl

theorem basePath_concat (fields : List String) (key : String) :
    basePath (fields ++ [key]) =
      some (FieldPath.ofText (String.intercalate "." (fields ++ [key]))) := by
  cases fields <;> rfl

/-- The outline of what one key in the object of a field gives. -/
def Part.marks (path : FieldPath) : Part → List (Mark (FieldPath × Condition))
  | .condition own => [.condition (path, own)]
  | .nodes nested => nodeMarks nested

theorem nodeMarks_openWith (path : FieldPath) (run : List Condition) (nodes : List Node) :
    nodeMarks (openWith path run nodes) =
      run.map (fun own => .condition (path, own)) ++ nodeMarks nodes := by
  cases run <;> rfl

/-- The run that parts begin with and the nodes behind it have the outline of the parts. -/
theorem marks_gather (path : FieldPath) (parts : List Part) :
    (gather path parts).1.map (fun own => .condition (path, own)) ++
        nodeMarks (gather path parts).2 =
      parts.flatMap (Part.marks path) := by
  induction parts with
  | nil => rfl
  | cons part rest ih =>
    rw [List.flatMap_cons, ← ih]
    cases part with
    | condition own => rfl
    | nodes nested =>
      -- The run that follows the nested nodes becomes a node behind them.
      show nodeMarks (nested ++ openWith path (gather path rest).1 (gather path rest).2) = _
      rw [nodeMarks_append, nodeMarks_openWith]
      rfl

/-- The nodes that the parts of a field stand for have the outline of the parts. -/
theorem marks_ofParts (path : FieldPath) (parts : List Part) :
    nodeMarks (ofParts path parts) = parts.flatMap (Part.marks path) := by
  rw [← marks_gather]
  exact nodeMarks_openWith path (gather path parts).1 (gather path parts).2

/-- The condition of an operator and its operand is what the operator key declares. -/
theorem gives_of_ofOperand {declared : Declared} {condition : Condition}
    (hcondition : Condition.ofOperand declared.operator (Literal.ofJson declared.operand) =
      .ok condition) : declared.Gives (declared.path, condition) := by
  obtain ⟨fields, operator, operand⟩ := declared
  cases operator with
  | compare comparison =>
    cases hcondition
    exact ⟨rfl, rfl, rfl, rfl⟩
  | among negated =>
    simp only [Condition.ofOperand] at hcondition
    split at hcondition
    · cases hcondition
    · rename_i hsome
      cases hcondition
      exact ⟨rfl, rfl, rfl, by simpa [Condition.isVoid] using hsome⟩
  | between negated =>
    simp only [Condition.ofOperand] at hcondition
    split at hcondition
    · rename_i low high hbounds
      cases hcondition
      exact ⟨rfl, rfl, hbounds.symm, rfl⟩
    · cases hcondition

/-- What a value declares has its outline: behind a key, and as a filter if it is an object. -/
structure Outlined (value : Json) : Prop where
  entry : ∀ fields key {nodes}, entryNodes (basePath fields) key value = .ok nodes →
    List.Forall₂ (Mark.Rel Declared.Gives) (keyOutline fields key value) (nodeMarks nodes)
  filter : ∀ own, value = .obj own → ∀ fields {nodes}, nodesOf (basePath fields) own = .ok nodes →
    List.Forall₂ (Mark.Rel Declared.Gives) (objectOutline fields own) (nodeMarks nodes)

/-- A filter has the outline of its object, if the values of the entries are outlined. -/
theorem outlined_nodesOf {entries : List (String × Json)}
    (hentries : ∀ entry ∈ entries, Outlined entry.2) (fields : List String) {nodes : List Node}
    (hnodes : nodesOf (basePath fields) entries = .ok nodes) :
    List.Forall₂ (Mark.Rel Declared.Gives) (objectOutline fields entries) (nodeMarks nodes) := by
  induction entries generalizing nodes with
  | nil =>
    cases hnodes
    exact .nil
  | cons entry rest ih =>
    rw [List.forall_mem_cons] at hentries
    obtain ⟨key, value⟩ := entry
    obtain ⟨first, hfirst, hrest⟩ := Except.bind_eq_ok.1 hnodes
    obtain ⟨later, hlater, heq⟩ := Except.bind_eq_ok.1 hrest
    cases heq
    rw [objectOutline, nodeMarks_append]
    exact List.rel_append (hentries.1.entry fields key hfirst) (ih hentries.2 hlater)

/-- The members of a group have the outline of its items, if these are outlined. -/
theorem outlined_members {items : List Json} (hitems : ∀ item ∈ items, Outlined item)
    (fields : List String) {nested : List (List Node)}
    (hnested : members (basePath fields) items = .ok nested) :
    List.Forall₂ (Mark.Rel Declared.Gives) (itemOutline fields items) (memberMarks nested) := by
  induction items generalizing nested with
  | nil =>
    cases hnested
    exact .nil
  | cons item rest ih =>
    rw [List.forall_mem_cons] at hitems
    cases item with
    | obj own =>
      obtain ⟨first, hfirst, hrest⟩ := Except.bind_eq_ok.1 hnested
      obtain ⟨later, hlater, heq⟩ := Except.bind_eq_ok.1 hrest
      cases heq
      rw [itemOutline, memberMarks]
      have hmember := hitems.1.filter own rfl fields hfirst
      exact List.rel_append (.cons .member hmember) (ih hitems.2 hlater)
    | null | bool | whole | real | str | arr => cases hnested

/-- The parts of a field have the outline of its object, if the values of the entries are
outlined. -/
theorem outlined_parts {entries : List (String × Json)}
    (hentries : ∀ entry ∈ entries, Outlined entry.2) {fields : List String} {path : FieldPath}
    (hbase : basePath fields = some path)
    (hpath : path = FieldPath.ofText (String.intercalate "." fields)) {own : List Part}
    (hown : parts path entries = .ok own) :
    List.Forall₂ (Mark.Rel Declared.Gives) (fieldOutline fields entries)
      (own.flatMap (Part.marks path)) := by
  induction entries generalizing own with
  | nil =>
    cases hown
    exact .nil
  | cons entry rest ih =>
    rw [List.forall_mem_cons] at hentries
    obtain ⟨key, value⟩ := entry
    rw [fieldOutline]
    rw [parts] at hown
    cases hoperator : Operator.ofKey? key with
    | some operator =>
      rw [hoperator] at hown
      obtain ⟨condition, hcondition, hrest⟩ := Except.bind_eq_ok.1 hown
      obtain ⟨later, hlater, heq⟩ := Except.bind_eq_ok.1 hrest
      cases heq
      have hgives : (Declared.mk fields operator value).Gives (path, condition) := by
        rw [hpath]
        exact gives_of_ofOperand hcondition
      exact .cons (.condition hgives) (ih hentries.2 hlater)
    | none =>
      rw [hoperator] at hown
      dsimp only at hown
      split at hown
      · cases hown
      · obtain ⟨nested, hnested, hrest⟩ := Except.bind_eq_ok.1 hown
        obtain ⟨later, hlater, heq⟩ := Except.bind_eq_ok.1 hrest
        cases heq
        rw [← hbase] at hnested
        rw [List.flatMap_cons]
        exact List.rel_append (hentries.1.entry fields key hnested) (ih hentries.2 hlater)

/-- Whatever a value declares has its outline. -/
theorem outlined (value : Json) : Outlined value := by
  induction value with
  | arr items ih =>
    constructor
    · intro fields key nodes hnodes
      unfold keyOutline
      unfold entryNodes at hnodes
      cases hconnective : Connective.ofKey? key with
      | some connective =>
        rw [hconnective] at hnodes
        obtain ⟨nested, hnested, heq⟩ := Except.bind_eq_ok.1 hnodes
        cases heq
        have hmembers := outlined_members ih fields hnested
        rw [nodeMarks, Node.marks, nodeMarks, List.append_nil]
        exact List.rel_append (.cons (.opening connective) hmembers) (.cons .closing .nil)
      | none =>
        rw [hconnective] at hnodes
        cases hnodes
    · intro own heq
      cases heq
  | obj entries ih =>
    constructor
    · intro fields key nodes hnodes
      unfold keyOutline
      unfold entryNodes at hnodes
      cases hconnective : Connective.ofKey? key with
      | some connective =>
        rw [hconnective] at hnodes
        cases hnodes
      | none =>
        rw [hconnective, fieldPath_basePath] at hnodes
        obtain ⟨own, hown, heq⟩ := Except.bind_eq_ok.1 hnodes
        cases heq
        rw [marks_ofParts]
        exact outlined_parts ih (basePath_concat fields key) rfl hown
    · intro own heq fields nodes hnodes
      cases heq
      exact outlined_nodesOf ih fields hnodes
  | null | bool | whole | real | str =>
    constructor
    · intro fields key nodes hnodes
      unfold entryNodes at hnodes
      cases hconnective : Connective.ofKey? key <;> (rw [hconnective] at hnodes; cases hnodes)
    · intro own heq
      cases heq

/-- A filter has the outline of its declaration. -/
theorem outline_rel {value : Json} {filter : Filter} (hvalue : ofJson value = .ok filter) :
    List.Forall₂ (Mark.Rel Declared.Gives) (outlineOfJson value) filter.outline := by
  cases value with
  | null =>
    cases hvalue
    exact .nil
  | obj entries =>
    obtain ⟨nodes, hnodes, rfl⟩ := Except.map_eq_ok.1 hvalue
    exact (outlined (.obj entries)).filter entries rfl [] hnodes
  | bool | whole | real | str | arr => cases hvalue

end TableQuery.Filter
