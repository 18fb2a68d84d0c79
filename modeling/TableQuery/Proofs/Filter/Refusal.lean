import Mathlib.Logic.Relation
import TableQuery.Filter.Declaration
import TableQuery.Filter.Predicate
import TableQuery.Proofs.Except
import TableQuery.Proofs.Json

/-!
# Declarations that are refused

Decoding reads an object either as a filter or as the object of a field, and each key of it opens
further objects.  Whether one key is refused shows from the key, its value and the place it stands
in (`Refused`).  A declaration is refused exactly when a key is that decoding may get to, however
deep it stands (`decides_ofJson`).

A key that begins with `$` and is neither an operator nor a connective is refused in the object of
a field.  A filter, at the root or as a member of a group, takes such a key for the name of a field.
-/

namespace TableQuery.Filter

/-! ## Keys and places -/

/-- What an object is read as. -/
inductive Place where
  | filter
  /-- The object of a field. -/
  | field
  deriving DecidableEq

/-- An object with what it is read as. -/
structure Scope where
  place : Place
  entries : List (String × Json)

/-- A key that is reserved without being the key of an operator or of a connective. -/
def IsUnknown (key : String) : Prop :=
  isReserved key = true ∧ Operator.ofKey? key = none ∧ Connective.ofKey? key = none

/-- The operator that a key stands for.  In an object that is read as a filter it stands for none. -/
def Place.operator? (place : Place) (key : String) : Option Operator :=
  match place with
  | .filter => none
  | .field => Operator.ofKey? key

/-- The objects that an entry holds for decoding to read. -/
inductive Opens (place : Place) : String × Json → Scope → Prop where
  /-- A member of a group. -/
  | member {key : String} {connective : Connective} {items : List Json}
      {entries : List (String × Json)} (hplain : place.operator? key = none)
      (hkey : Connective.ofKey? key = some connective) (hitem : .obj entries ∈ items) :
      Opens place (key, .arr items) ⟨.filter, entries⟩
  /-- The object of a field. -/
  | field {key : String} {entries : List (String × Json)} (hplain : place.operator? key = none)
      (hkey : Connective.ofKey? key = none) : Opens place (key, .obj entries) ⟨.field, entries⟩

/-- A step of decoding from an object to one that it holds. -/
def Scope.Step (outer inner : Scope) : Prop :=
  ∃ entry ∈ outer.entries, Opens outer.place entry inner

/-- A value that does not fit its key. -/
inductive Malformed (place : Place) : String × Json → Prop where
  /-- The operator does not take the operand. -/
  | operand {key : String} {operator : Operator} {value : Json} {failure : Error}
      (hkey : place.operator? key = some operator)
      (hrefused : Condition.ofOperand operator (Literal.ofJson value) = .error failure) :
      Malformed place (key, value)
  /-- The members of a group are not in an array. -/
  | group {key : String} {connective : Connective} {value : Json}
      (hplain : place.operator? key = none) (hkey : Connective.ofKey? key = some connective)
      (hvalue : ∀ items, value ≠ .arr items) : Malformed place (key, value)
  /-- A member of a group is no object. -/
  | member {key : String} {connective : Connective} {items : List Json} {item : Json}
      (hplain : place.operator? key = none) (hkey : Connective.ofKey? key = some connective)
      (hmem : item ∈ items) (hitem : ∀ entries, item ≠ .obj entries) :
      Malformed place (key, .arr items)
  /-- A field has no object. -/
  | conditions {key : String} {value : Json} (hplain : place.operator? key = none)
      (hkey : Connective.ofKey? key = none) (hvalue : ∀ entries, value ≠ .obj entries) :
      Malformed place (key, value)

/-- An entry that is refused by itself: a key for an operator that there is not, in the object of
a field, or a value that does not fit its key. -/
def Refused (place : Place) (entry : String × Json) : Prop :=
  place = .field ∧ IsUnknown entry.1 ∨ Malformed place entry

/-! ## Sound declarations -/

/-- No entry that decoding may get to is refused. -/
def Scope.Sound (scope : Scope) : Prop :=
  ∀ inner, Relation.ReflTransGen Scope.Step scope inner →
    ∀ entry ∈ inner.entries, ¬Refused inner.place entry

/-- Neither the entry is refused nor any that decoding may get to behind it. -/
def Place.Sound (place : Place) (entry : String × Json) : Prop :=
  ¬Refused place entry ∧ ∀ inner, Opens place entry inner → inner.Sound

/-- An object is sound when its entries are. -/
theorem sound_iff (scope : Scope) :
    scope.Sound ↔ ∀ entry ∈ scope.entries, scope.place.Sound entry := by
  constructor
  · intro hsound entry hentry
    refine ⟨hsound scope .refl entry hentry, ?_⟩
    intro inner hopens last hlast
    exact hsound last (.head ⟨entry, hentry, hopens⟩ hlast)
  · intro hentries inner hreach
    rcases hreach.cases_head with rfl | ⟨next, ⟨entry, hentry, hopens⟩, hrest⟩
    · exact fun entry hentry => (hentries entry hentry).1
    · exact (hentries entry hentry).2 next hopens inner hrest

section Entries

variable {place : Place} {key : String} {value : Json}

/-- A key stands for an operator in the object of a field only. -/
theorem operator?_eq_some_iff {operator : Operator} :
    place.operator? key = some operator ↔
      place = .field ∧ Operator.ofKey? key = some operator := by
  cases place <;> simp [Place.operator?]

/-- An operator is sound with an operand that it takes. -/
theorem sound_operator_iff {operator : Operator} (hkey : place.operator? key = some operator) :
    place.Sound (key, value) ↔
      ∃ condition, Condition.ofOperand operator (Literal.ofJson value) = .ok condition := by
  constructor
  · intro hsound
    cases hcondition : Condition.ofOperand operator (Literal.ofJson value) with
    | ok condition => exact ⟨condition, rfl⟩
    | error failure => exact absurd (.inr (.operand hkey hcondition)) hsound.1
  · intro hcondition
    obtain ⟨condition, hcondition⟩ := hcondition
    constructor
    · intro hrefused
      rcases hrefused with ⟨-, -, hunknown, -⟩ | hmalformed
      · rw [(operator?_eq_some_iff.1 hkey).2] at hunknown
        cases hunknown
      · cases hmalformed with
        | operand hown hfailed =>
          rw [hkey] at hown
          cases hown
          rw [hcondition] at hfailed
          cases hfailed
        | group hplain | member hplain | conditions hplain =>
          rw [hkey] at hplain
          cases hplain
    · intro inner hopens
      cases hopens with
      | member hplain | field hplain =>
        rw [hkey] at hplain
        cases hplain

variable (hplain : place.operator? key = none) (hknown : ¬(place = .field ∧ IsUnknown key))

include hplain hknown

/-- A group is sound when its members are objects that are sound as filters. -/
theorem sound_group_iff {connective : Connective} (hkey : Connective.ofKey? key = some connective)
    {items : List Json} :
    place.Sound (key, .arr items) ↔
      ∀ item ∈ items, ∃ entries, item = .obj entries ∧ Scope.Sound ⟨.filter, entries⟩ := by
  constructor
  · intro hsound item hitem
    cases item with
    | obj entries => exact ⟨entries, rfl, hsound.2 _ (.member hplain hkey hitem)⟩
    | null | bool | whole | real | str | arr =>
      refine absurd (.inr (.member hplain hkey hitem ?_)) hsound.1
      intro entries heq
      cases heq
  · intro hitems
    constructor
    · intro hrefused
      rcases hrefused with hunknown | hmalformed
      · exact hknown hunknown
      · cases hmalformed with
        | operand hown =>
          rw [hplain] at hown
          cases hown
        | group _ _ hvalue => exact hvalue items rfl
        | member _ _ hmem hitem =>
          obtain ⟨entries, heq, -⟩ := hitems _ hmem
          exact hitem entries heq
        | conditions _ hnone =>
          rw [hkey] at hnone
          cases hnone
    · intro inner hopens
      cases hopens with
      | member _ _ hitem =>
        obtain ⟨entries, heq, hsound⟩ := hitems _ hitem
        cases heq
        exact hsound

/-- A field is sound when its object is. -/
theorem sound_field_iff (hkey : Connective.ofKey? key = none) {entries : List (String × Json)} :
    place.Sound (key, .obj entries) ↔ Scope.Sound ⟨.field, entries⟩ := by
  constructor
  · intro hsound
    exact hsound.2 _ (.field hplain hkey)
  · intro hentries
    constructor
    · intro hrefused
      rcases hrefused with hunknown | hmalformed
      · exact hknown hunknown
      · cases hmalformed with
        | operand hown =>
          rw [hplain] at hown
          cases hown
        | group _ hsome =>
          rw [hkey] at hsome
          cases hsome
        | conditions _ _ hvalue => exact hvalue entries rfl
    · intro inner hopens
      cases hopens
      exact hentries

end Entries

/-! ## Decoding decides soundness -/

/-- The failures that say a filter is unusable. -/
def IsInvalidFilter (failure : Error) : Prop :=
  ∃ fault, failure = .invalidFilter fault

/-- An operator takes its operand or says that the filter is unusable. -/
theorem decides_ofOperand (operator : Operator) (operand : Literal) :
    Except.Decides IsInvalidFilter
      (∃ condition, Condition.ofOperand operator operand = .ok condition)
      (Condition.ofOperand operator operand) := by
  cases hcondition : Condition.ofOperand operator operand with
  | ok condition => exact .ok ⟨condition, rfl⟩ condition
  | error failure =>
    refine .error (fun hok => nomatch hok.choose_spec) ?_
    cases operator with
    | compare comparison => cases hcondition
    | among negated =>
      simp only [Condition.ofOperand] at hcondition
      split at hcondition
      · cases hcondition
        exact ⟨_, rfl⟩
      · cases hcondition
    | between negated =>
      simp only [Condition.ofOperand] at hcondition
      split at hcondition
      · cases hcondition
      · cases hcondition
        exact ⟨_, rfl⟩

/-- A value that does not fit its key is not sound, and is refused. -/
theorem decides_of_malformed {α : Type} {place : Place} {entry : String × Json} (fault : FilterFault)
    (hmalformed : Malformed place entry) :
    Except.Decides IsInvalidFilter (place.Sound entry)
      (.error (.invalidFilter fault) : Except Error α) :=
  .error (fun hsound => hsound.1 (.inr hmalformed)) ⟨fault, rfl⟩

/-- Decoding a value decides whether it is sound: behind a key, and as a filter if it is an
object. -/
structure Decided (value : Json) : Prop where
  entry : ∀ (base : Option FieldPath) (key : String) (place : Place),
    place.operator? key = none → ¬(place = .field ∧ IsUnknown key) →
      Except.Decides IsInvalidFilter (place.Sound (key, value)) (entryNodes base key value)
  filter : ∀ (entries : List (String × Json)), value = .obj entries → ∀ base : Option FieldPath,
    Except.Decides IsInvalidFilter (Scope.Sound ⟨.filter, entries⟩) (nodesOf base entries)

/-- Decoding a filter decides whether it is sound, if the values of its entries are decided. -/
theorem decides_nodesOf {entries : List (String × Json)}
    (hentries : ∀ entry ∈ entries, Decided entry.2) (base : Option FieldPath) :
    Except.Decides IsInvalidFilter (Scope.Sound ⟨.filter, entries⟩) (nodesOf base entries) := by
  refine Except.Decides.congr ?_ (sound_iff _).symm
  induction entries with
  | nil => exact .ok (fun _ hentry => nomatch hentry) []
  | cons entry rest ih =>
    rw [List.forall_mem_cons] at hentries
    obtain ⟨key, value⟩ := entry
    have hfirst := hentries.1.entry base key .filter rfl (fun hfield => nomatch hfield.1)
    refine Except.Decides.congr ?_ List.forall_mem_cons.symm
    exact hfirst.bind fun nodes => (ih hentries.2).bind_ok fun more => ⟨_, rfl⟩

/-- Decoding the items of a group decides whether they are objects that are sound as filters, if
the items are decided. -/
theorem decides_members {items : List Json} (hitems : ∀ item ∈ items, Decided item)
    (base : Option FieldPath) :
    Except.Decides IsInvalidFilter
      (∀ item ∈ items, ∃ entries, item = .obj entries ∧ Scope.Sound ⟨.filter, entries⟩)
      (members base items) := by
  induction items with
  | nil => exact .ok (fun _ hitem => nomatch hitem) []
  | cons item rest ih =>
    rw [List.forall_mem_cons] at hitems
    refine Except.Decides.congr ?_ List.forall_mem_cons.symm
    cases item with
    | obj entries =>
      have hitem : Scope.Sound ⟨.filter, entries⟩ ↔
          ∃ own, Json.obj entries = .obj own ∧ Scope.Sound ⟨.filter, own⟩ := by simp
      have hfirst := (hitems.1.filter entries rfl base).congr hitem
      exact hfirst.bind fun member => (ih hitems.2).bind_ok fun more => ⟨_, rfl⟩
    | null | bool | whole | real | str | arr =>
      refine .error ?_ ⟨_, rfl⟩
      intro hall
      obtain ⟨⟨entries, heq, -⟩, -⟩ := hall
      cases heq

/-- Decoding the object of a field decides whether it is sound, if the values of its entries are
decided. -/
theorem decides_parts {entries : List (String × Json)}
    (hentries : ∀ entry ∈ entries, Decided entry.2) (path : FieldPath) :
    Except.Decides IsInvalidFilter (Scope.Sound ⟨.field, entries⟩) (parts path entries) := by
  refine Except.Decides.congr ?_ (sound_iff _).symm
  induction entries with
  | nil => exact .ok (fun _ hentry => nomatch hentry) []
  | cons entry rest ih =>
    rw [List.forall_mem_cons] at hentries
    obtain ⟨key, value⟩ := entry
    refine Except.Decides.congr ?_ List.forall_mem_cons.symm
    rw [parts]
    cases hoperator : Operator.ofKey? key with
    | some operator =>
      have hsound : Place.field.Sound (key, value) ↔ _ := sound_operator_iff hoperator
      have hfirst := (decides_ofOperand operator (Literal.ofJson value)).congr hsound.symm
      exact hfirst.bind fun condition => (ih hentries.2).bind_ok fun more => ⟨_, rfl⟩
    | none =>
      by_cases hunknown : isReserved key = true ∧ Connective.ofKey? key = none
      · simp only [if_pos hunknown]
        refine .error ?_ ⟨_, rfl⟩
        intro hall
        exact hall.1.1 (.inl ⟨rfl, hunknown.1, hoperator, hunknown.2⟩)
      · simp only [if_neg hunknown]
        have hfirst := hentries.1.entry (some path) key .field hoperator
          (fun hfield => hunknown ⟨hfield.2.1, hfield.2.2.2⟩)
        exact hfirst.bind fun nested => (ih hentries.2).bind_ok fun more => ⟨_, rfl⟩

/-- Decoding decides of every value whether it is sound. -/
theorem decided (value : Json) : Decided value := by
  induction value with
  | arr items ih =>
    constructor
    · intro base key place hplain hknown
      unfold entryNodes
      cases hkey : Connective.ofKey? key with
      | some connective =>
        refine Except.Decides.congr ?_ (sound_group_iff hplain hknown hkey).symm
        exact (decides_members ih base).bind_ok fun nested => ⟨_, rfl⟩
      | none =>
        exact decides_of_malformed _ (.conditions hplain hkey fun _ heq => nomatch heq)
    · intro entries heq
      cases heq
  | obj entries ih =>
    constructor
    · intro base key place hplain hknown
      unfold entryNodes
      cases hkey : Connective.ofKey? key with
      | some connective =>
        exact decides_of_malformed _ (.group hplain hkey fun _ heq => nomatch heq)
      | none =>
        refine Except.Decides.congr ?_ (sound_field_iff hplain hknown hkey).symm
        exact (decides_parts ih (fieldPath base key)).bind_ok fun own => ⟨_, rfl⟩
    · intro own heq base
      cases heq
      exact decides_nodesOf ih base
  | null | bool | whole | real | str =>
    constructor
    · intro base key place hplain hknown
      unfold entryNodes
      cases hkey : Connective.ofKey? key with
      | some connective =>
        exact decides_of_malformed _ (.group hplain hkey fun _ heq => nomatch heq)
      | none =>
        exact decides_of_malformed _ (.conditions hplain hkey fun _ heq => nomatch heq)
    · intro entries heq
      cases heq

/-- Decoding an object decides whether it is sound as a filter. -/
theorem decides_ofJson (entries : List (String × Json)) :
    Except.Decides IsInvalidFilter (Scope.Sound ⟨.filter, entries⟩) (ofJson (.obj entries)) :=
  ((decided (.obj entries)).filter entries rfl none).map Filter.mk

/-- A declaration is refused as a filter exactly when an entry is that decoding may get to, however
deep it stands: a key for an operator that there is not in the object of a field, or a value that
does not fit its key.  Such a key in an object that is read as a filter is no reason to refuse. -/
theorem refused_iff (entries : List (String × Json)) :
    (∃ failure, ofJson (.obj entries) = .error failure ∧ IsInvalidFilter failure) ↔
      ∃ scope, Relation.ReflTransGen Scope.Step ⟨.filter, entries⟩ scope ∧
        ∃ entry ∈ scope.entries,
          scope.place = .field ∧ IsUnknown entry.1 ∨ Malformed scope.place entry := by
  rw [(decides_ofJson entries).error_iff]
  simp only [Scope.Sound, Refused, not_forall, not_not, exists_prop]

/-- A condition behind a key for an operator that there is not. -/
def negatedName : List (String × Json) :=
  [("$not", .obj [("name", .obj [("$eq", .str "x")])])]

/-- The filter that `negatedName` declares: the condition that the key seems to negate. -/
def negatedNameFilter : Filter :=
  ⟨[.field (.via "$not" (.column "name")) (.compare .eq (.text "x")) []]⟩

theorem ofJson_negatedName :
    (∃ entry ∈ negatedName, IsUnknown entry.1) ∧
      ofJson (.obj negatedName) = .ok negatedNameFilter ∧
      negatedNameFilter.compile (Schema.empty.insert ⟨"t", [], []⟩) "t" =
        .ok "`t`.`name` = 'x'" := by
  refine ⟨⟨_, List.mem_cons_self, ?_⟩, rfl, rfl⟩
  show IsUnknown "$not"
  exact ⟨by decide, by decide, by decide⟩

end TableQuery.Filter
