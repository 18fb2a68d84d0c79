import TableQuery.Json

/-!
# Induction over JSON values

An array holds values and an object holds them behind keys.  `Json.induct` is induction with
a hypothesis for each of them.
-/

namespace TableQuery.Json

/-- Induction over values: an array may assume the claim of its items, an object that of the values
of its entries. -/
@[elab_as_elim, induction_eliminator]
theorem induct {motive : Json → Prop} (null : motive .null) (bool : ∀ value, motive (.bool value))
    (whole : ∀ value, motive (.whole value)) (real : ∀ value, motive (.real value))
    (str : ∀ value, motive (.str value))
    (arr : ∀ items, (∀ item ∈ items, motive item) → motive (.arr items))
    (obj : ∀ fields, (∀ entry ∈ fields, motive entry.2) → motive (.obj fields)) (value : Json) :
    motive value :=
  @Json.rec motive (fun items => ∀ item ∈ items, motive item)
    (fun fields => ∀ entry ∈ fields, motive entry.2) (fun entry => motive entry.2)
    null bool whole real str arr obj
    (fun _ hitem => nomatch hitem)
    (fun _ _ hfirst hrest => List.forall_mem_cons.2 ⟨hfirst, hrest⟩)
    (fun _ hentry => nomatch hentry)
    (fun _ _ hfirst hrest => List.forall_mem_cons.2 ⟨hfirst, hrest⟩)
    (fun _ _ hvalue => hvalue) value

end TableQuery.Json
