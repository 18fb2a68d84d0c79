import Mathlib.Data.List.Basic
import TableQuery.Filter

/-!
# Equality as the only condition on a field

`Filter.withEquality` puts one node in the place of all that a filter asks of a field outside of
groups.  The new node stands where the first one on the field stood (`replaceOn_of_first`), or at
the end if there was none (`replaceOn_of_absent`), and the other nodes stay as they are
(`without_replaceOn`).

So it is an update of one field.  Only the last of several updates of a field counts
(`replaceOn_replaceOn`), and updates of two fields that are both present can be made in either order
(`replaceOn_comm`).  Where a field is not present the order does count, since the new nodes go to the
end one behind the other.
-/

namespace TableQuery.Filter

variable {path other : FieldPath} {node otherNode first : Node} {nodes before after : List Node}

/-! ## Nodes that are not on a field -/

/-- Nothing is left out of nodes that are not on the field. -/
theorem without_of_absent (habsent : ∀ n ∈ nodes, n.isOn path = false) :
    without path nodes = nodes := by
  rw [without, List.filter_eq_self]
  intro n hn
  simp [habsent n hn]

/-- No node is left that is on the field. -/
theorem isOn_of_mem_without {n : Node} (hmem : n ∈ without path nodes) : n.isOn path = false := by
  have hkept := (List.mem_filter.1 hmem).2
  simpa using hkept

theorem without_comm : without path (without other nodes) = without other (without path nodes) := by
  unfold without
  rw [List.filter_filter, List.filter_filter]
  simp only [Bool.and_comm]

/-- A node is not on two fields. -/
theorem isOn_of_ne (hne : other ≠ path) (hon : node.isOn path = true) :
    node.isOn other = false := by
  cases node with
  | field own _ _ =>
    have hown : own = path := by simpa [Node.isOn] using hon
    simpa [Node.isOn, hown] using hne.symm
  | group connective members => rfl

/-- A list of nodes has none on a field, or a first one. -/
theorem absent_or_exists_first (path : FieldPath) (nodes : List Node) :
    (∀ n ∈ nodes, n.isOn path = false) ∨
      ∃ before first after, nodes = before ++ first :: after ∧
        (∀ n ∈ before, n.isOn path = false) ∧ first.isOn path = true := by
  cases hfound : nodes.find? (Node.isOn path) with
  | none =>
    left
    intro n hn
    simpa using List.find?_eq_none.1 hfound n hn
  | some first =>
    right
    obtain ⟨hfirst, before, after, hsplit, hbefore⟩ := List.find?_eq_some_iff_append.1 hfound
    refine ⟨before, first, after, hsplit, ?_, hfirst⟩
    intro n hn
    simpa using hbefore n hn

/-! ## Where the new node stands -/

/-- Without a node on the field, the new one goes to the end. -/
theorem replaceOn_of_absent (habsent : ∀ n ∈ nodes, n.isOn path = false) :
    replaceOn path node nodes = nodes ++ [node] := by
  induction nodes with
  | nil => rfl
  | cons n rest ih =>
    rw [List.forall_mem_cons] at habsent
    have hoff : ¬n.isOn path = true := by simp [habsent.1]
    rw [replaceOn, if_neg hoff, ih habsent.2, List.cons_append]

/-- The new node stands in the place of the first one on the field, and the later ones are dropped. -/
theorem replaceOn_of_first (hbefore : ∀ n ∈ before, n.isOn path = false)
    (hfirst : first.isOn path = true) :
    replaceOn path node (before ++ first :: after) = before ++ node :: without path after := by
  induction before with
  | nil => rw [List.nil_append, List.nil_append, replaceOn, if_pos hfirst]
  | cons n rest ih =>
    rw [List.forall_mem_cons] at hbefore
    have hoff : ¬n.isOn path = true := by simp [hbefore.1]
    rw [List.cons_append, replaceOn, if_neg hoff, ih hbefore.2, List.cons_append]

/-- The new node stands in one place among the nodes that are not on the field. -/
theorem exists_replaceOn_eq (path : FieldPath) (node : Node) (nodes : List Node) :
    ∃ before after, without path nodes = before ++ after ∧
      replaceOn path node nodes = before ++ node :: after := by
  rcases absent_or_exists_first path nodes with habsent | ⟨before, first, after, rfl, hbefore, hfirst⟩
  · refine ⟨nodes, [], ?_, replaceOn_of_absent habsent⟩
    rw [without_of_absent habsent, List.append_nil]
  · refine ⟨before, without path after, ?_, replaceOn_of_first hbefore hfirst⟩
    have hdropped : without path (first :: after) = without path after := by
      simp [without, hfirst]
    rw [← hdropped, without, List.filter_append, ← without, without_of_absent hbefore]
    rfl

/-! ## Updates -/

section Update

variable (hnode : node.isOn path = true)

include hnode

/-- The new node is the only one on the field. -/
theorem filter_isOn_replaceOn : (replaceOn path node nodes).filter (Node.isOn path) = [node] := by
  obtain ⟨before, after, hwithout, hreplace⟩ := exists_replaceOn_eq path node nodes
  have hnone : ∀ n ∈ before ++ after, ¬n.isOn path = true := by
    intro n hn
    rw [← hwithout] at hn
    simp [isOn_of_mem_without hn]
  rw [List.forall_mem_append] at hnone
  rw [hreplace, List.filter_append, List.filter_cons_of_pos hnode,
    List.filter_eq_nil_iff.2 hnone.1, List.filter_eq_nil_iff.2 hnone.2, List.nil_append]

/-- The nodes that are not on the field stay as they are. -/
theorem without_replaceOn : without path (replaceOn path node nodes) = without path nodes := by
  obtain ⟨before, after, hwithout, hreplace⟩ := exists_replaceOn_eq path node nodes
  have habsent : ∀ n ∈ before ++ after, n.isOn path = false := by
    intro n hn
    rw [← hwithout] at hn
    exact isOn_of_mem_without hn
  have hdropped : without path (before ++ node :: after) = without path (before ++ after) := by
    simp [without, hnode]
  rw [hreplace, hdropped, without_of_absent habsent, hwithout]

/-- Only the last of two updates of a field counts. -/
theorem replaceOn_replaceOn :
    replaceOn path otherNode (replaceOn path node nodes) = replaceOn path otherNode nodes := by
  rcases absent_or_exists_first path nodes with habsent | ⟨before, first, after, rfl, hbefore, hfirst⟩
  · have hlast : replaceOn path otherNode (nodes ++ [node]) = nodes ++ [otherNode] :=
      replaceOn_of_first habsent hnode
    rw [replaceOn_of_absent habsent, replaceOn_of_absent habsent, hlast]
  · have hrest : without path (without path after) = without path after :=
      without_of_absent fun n hn => isOn_of_mem_without hn
    rw [replaceOn_of_first hbefore hfirst, replaceOn_of_first hbefore hfirst,
      replaceOn_of_first hbefore hnode, hrest]

end Update

/-! ## Updates of two fields -/

section Commute

variable (hne : other ≠ path)

include hne

/-- Leaving out what is on a field commutes with an update of another one. -/
theorem without_replaceOn_of_ne (hnode : node.isOn other = true) :
    without path (replaceOn other node nodes) = replaceOn other node (without path nodes) := by
  have hoff : node.isOn path = false := isOn_of_ne hne.symm hnode
  induction nodes with
  | nil => simp [replaceOn, without, hoff]
  | cons n rest ih =>
    by_cases hn : n.isOn path = true
    · have hn' : n.isOn other = false := isOn_of_ne hne hn
      have hdropped : without path (n :: rest) = without path rest := by simp [without, hn]
      rw [hdropped, ← ih, replaceOn, if_neg (by simp [hn'])]
      simp [without, hn]
    · have hkept : without path (n :: rest) = n :: without path rest := by simp [without, hn]
      rw [hkept, replaceOn, replaceOn]
      by_cases hn' : n.isOn other = true
      · have hfront : without path (node :: without other rest) =
            node :: without path (without other rest) := by
          simp [without, hoff]
        rw [if_pos hn', if_pos hn', hfront, without_comm]
      · rw [if_neg hn', if_neg hn', ← ih]
        simp [without, hn]

/-- Updates of two fields that are both present can be made in either order. -/
theorem replaceOn_comm (hnode : node.isOn path = true) (hother : otherNode.isOn other = true)
    (hpath : ∃ n ∈ nodes, n.isOn path = true) (hpresent : ∃ n ∈ nodes, n.isOn other = true) :
    replaceOn other otherNode (replaceOn path node nodes) =
      replaceOn path node (replaceOn other otherNode nodes) := by
  have hoff : node.isOn other = false := isOn_of_ne hne hnode
  have hoff' : otherNode.isOn path = false := isOn_of_ne hne.symm hother
  induction nodes with
  | nil =>
    obtain ⟨n, hn, -⟩ := hpath
    cases hn
  | cons n rest ih =>
    by_cases hn : n.isOn path = true
    · -- the node on `path` is here, and the one on `other` is found behind it on both ways
      have hn' : n.isOn other = false := isOn_of_ne hne hn
      rw [replaceOn, if_pos hn, replaceOn, if_neg (by simp [hoff]), replaceOn, if_neg (by simp [hn']),
        replaceOn, if_pos hn, without_replaceOn_of_ne hne hother]
    · by_cases hn' : n.isOn other = true
      · rw [replaceOn, if_neg hn, replaceOn, if_pos hn', replaceOn, if_pos hn', replaceOn,
          if_neg (by simp [hoff']), without_replaceOn_of_ne hne.symm hnode]
      · rw [List.exists_mem_cons_iff] at hpath hpresent
        have hrest := ih (hpath.resolve_left hn) (hpresent.resolve_left hn')
        rw [replaceOn, if_neg hn, replaceOn, if_neg hn', hrest, replaceOn, if_neg hn', replaceOn,
          if_neg hn]

end Commute

/-! ## Equality -/

/-- The node that asks for equality to a value. -/
def equalityNode (path : FieldPath) (value : Literal) : Node :=
  .field path (.compare .eq value) []

theorem isOn_equalityNode (path : FieldPath) (value : Literal) :
    (equalityNode path value).isOn path = true :=
  decide_eq_true rfl

/-- After an update the only node on the field is equality to the value, and the other nodes are as
they were.  The node stands where the first one on the field stood, or at the end if there was none.
Of two updates of one field the last one counts, and updates of two fields that are both present can
be made in either order. -/
theorem withEquality_laws (filter : Filter) (path : FieldPath) (value : Literal) :
    (filter.withEquality path value).nodes.filter (Node.isOn path) = [equalityNode path value] ∧
    without path (filter.withEquality path value).nodes = without path filter.nodes ∧
    (∀ before first after, filter.nodes = before ++ first :: after →
      (∀ n ∈ before, n.isOn path = false) → first.isOn path = true →
      (filter.withEquality path value).nodes =
        before ++ equalityNode path value :: without path after) ∧
    ((∀ n ∈ filter.nodes, n.isOn path = false) →
      (filter.withEquality path value).nodes = filter.nodes ++ [equalityNode path value]) ∧
    (∀ later, (filter.withEquality path value).withEquality path later =
      filter.withEquality path later) ∧
    ∀ other otherValue, other ≠ path → (∃ n ∈ filter.nodes, n.isOn path = true) →
      (∃ n ∈ filter.nodes, n.isOn other = true) →
      (filter.withEquality path value).withEquality other otherValue =
        (filter.withEquality other otherValue).withEquality path value := by
  have hnode := isOn_equalityNode path value
  refine ⟨filter_isOn_replaceOn hnode, without_replaceOn hnode, ?_, replaceOn_of_absent, ?_, ?_⟩
  · intro before first after hsplit hbefore hfirst
    rw [withEquality, hsplit]
    exact replaceOn_of_first hbefore hfirst
  · intro later
    exact congrArg Filter.mk (replaceOn_replaceOn hnode)
  · intro other otherValue hne hpath hpresent
    have hother := isOn_equalityNode other otherValue
    exact congrArg Filter.mk (replaceOn_comm hne hnode hother hpath hpresent)

/-- Conditions on the number of a ticket in three places, one of them a group, and two on its seat. -/
def ticketFilter : Filter :=
  ⟨[.group .or [[.field (.column "number") (.compare .lt (.int 3)) []], []],
    .field (.column "seat") (.compare .ne .null) [],
    .field (.column "number") (.compare .gt (.int 1)) [.compare .lt (.int 9)],
    .field (.via "seat" (.column "number")) (.compare .eq (.int 4)) [],
    .field (.column "seat") (.among false [.int 5]) [],
    .field (.column "number") (.compare .ne (.int 7)) []]⟩

theorem withEquality_laws_ticketFilter :
    (ticketFilter.withEquality (.column "number") (.int 2)).nodes =
        ticketFilter.nodes.take 2 ++ equalityNode (.column "number") (.int 2) ::
          (ticketFilter.nodes.drop 3).take 2 ∧
      (ticketFilter.withEquality (.column "row") (.int 2)).nodes =
        ticketFilter.nodes ++ [equalityNode (.column "row") (.int 2)] ∧
      (ticketFilter.withEquality (.column "number") (.int 2)).withEquality (.column "seat") .null =
        (ticketFilter.withEquality (.column "seat") .null).withEquality (.column "number") (.int 2) := by
  obtain ⟨-, -, hfirst, -, -, hcomm⟩ := withEquality_laws ticketFilter (.column "number") (.int 2)
  obtain ⟨-, -, -, habsent, -, -⟩ := withEquality_laws ticketFilter (.column "row") (.int 2)
  refine ⟨?_, habsent ?_, hcomm (.column "seat") .null (by decide) ?_ ?_⟩
  · refine hfirst (ticketFilter.nodes.take 2) _ (ticketFilter.nodes.drop 3) rfl ?_ rfl
    exact List.forall_mem_cons.2 ⟨rfl, List.forall_mem_singleton.2 rfl⟩
  · simp [ticketFilter, Node.isOn]
  · exact ⟨_, List.mem_of_getElem? (i := 2) rfl, rfl⟩
  · exact ⟨_, List.mem_of_getElem? (i := 1) rfl, rfl⟩

end TableQuery.Filter
