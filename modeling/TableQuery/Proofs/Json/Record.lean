import TableQuery.Json.Decode
import TableQuery.Proofs.Except
import TableQuery.Proofs.Keyed

/-!
# Records by their fields

An object is decoded entry by entry, in the order in which it is written and past the keys that are
not known.  Neither counts for the record: if no key comes up twice and no field of the record is in
the way of another, the record is what reading field by field gives, each from the value under its
key (`foldlM_readEntry_iff`).  `decode_eq_ok_iff` adds that no required field is left out, and
`readField_decoded` is the step for one field.
-/

namespace TableQuery.Json

/-- The value is an object with the given entries, and no key comes up twice. -/
def IsObject (value : Json) (entries : List (String × Json)) : Prop :=
  value = .obj entries ∧ (entries.map Prod.fst).Nodup

theorem get?_obj_cons (key : String) (entry : String × Json) (rest : List (String × Json)) :
    (obj (entry :: rest)).get? key = if entry.1 = key then some entry.2 else (obj rest).get? key := by
  rw [get?, get?, Keyed.get?_cons]
  split <;> rfl

theorem get?_obj_eq_none_iff {key : String} {entries : List (String × Json)} :
    (obj entries).get? key = none ↔ key ∉ entries.map Prod.fst := by
  rw [get?, Option.map_eq_none_iff, Keyed.get?_eq_none_iff]

variable {α : Type}

/-- Two fields may be read in either order. -/
def RecordField.Independent (field other : RecordField α) : Prop :=
  ∀ value value' record result,
    (field.read value record >>= other.read value') = .ok result ↔
      (other.read value' record >>= field.read value) = .ok result

/-- Fields are independent if it does not count which one is put in place first. -/
theorem RecordField.independent_decoded {β γ : Type} {key key' : String} {required required' : Bool}
    {decode : Json → Except DecodeFault β} {decode' : Json → Except DecodeFault γ}
    {store : β → α → α} {store' : γ → α → α}
    (hcomm : ∀ content content' record,
      store' content' (store content record) = store content (store' content' record)) :
    (decoded key required decode store).Independent (decoded key' required' decode' store') := by
  intro value value' record result
  simp only [decoded, Except.bind_eq_ok, Except.map_eq_ok]
  constructor
  · rintro ⟨_, ⟨content, hcontent, rfl⟩, content', hcontent', rfl⟩
    exact ⟨_, ⟨content', hcontent', rfl⟩, content, hcontent, (hcomm content content' record).symm⟩
  · rintro ⟨_, ⟨content', hcontent', rfl⟩, content, hcontent, rfl⟩
    exact ⟨_, ⟨content, hcontent, rfl⟩, content', hcontent', hcomm content content' record⟩

namespace RecordShape

/-- Puts the value under the key of a field into the record.  Without one the record stays. -/
def readField (value : Json) (record : α) (field : RecordField α) : Except DecodeFault α :=
  match value.get? field.key with
  | some content => field.read content record
  | none => .ok record

/-- Fields under keys of their own, none of them in the way of another. -/
structure Regular (shape : RecordShape α) : Prop where
  keys : (shape.fields.map RecordField.key).Nodup
  independent : shape.fields.Pairwise RecordField.Independent

variable {shape : RecordShape α} {record result : α}

/-- One more entry does not count for a field under another key. -/
theorem readField_cons_of_ne {entry : String × Json} {rest : List (String × Json)}
    {field : RecordField α} (hkey : entry.1 ≠ field.key) :
    readField (.obj (entry :: rest)) record field = readField (.obj rest) record field := by
  rw [readField, readField, get?_obj_cons, if_neg hkey]

theorem foldlM_readField_cons_of_ne {entry : String × Json} {rest : List (String × Json)}
    {fields : List (RecordField α)} (hkey : entry.1 ∉ fields.map RecordField.key) :
    fields.foldlM (readField (.obj (entry :: rest))) record =
      fields.foldlM (readField (.obj rest)) record := by
  induction fields generalizing record with
  | nil => rfl
  | cons field fields ih =>
    rw [List.map_cons, List.mem_cons, not_or] at hkey
    rw [List.foldlM_cons, List.foldlM_cons, readField_cons_of_ne hkey.1]
    exact congrArg _ (funext fun _ => ih hkey.2)

/-- A field may be read behind others that it is independent of, not only in front of them. -/
theorem foldlM_readField_comm {value content : Json} {field : RecordField α}
    {fields : List (RecordField α)} (hindependent : ∀ other ∈ fields, other.Independent field) :
    (field.read content record >>= fun next => fields.foldlM (readField value) next) =
        .ok result ↔
      (fields.foldlM (readField value) record >>= field.read content) = .ok result := by
  induction fields generalizing record with
  | nil =>
    show (field.read content record >>= Except.ok) = .ok result ↔ field.read content record = _
    simp [Except.bind_eq_ok]
  | cons other fields ih =>
    rw [List.forall_mem_cons] at hindependent
    cases hget : value.get? other.key with
    | none =>
      have hread : ∀ next, readField value next other = .ok next := by
        intro next
        rw [readField, hget]
      simp only [List.foldlM_cons, hread]
      exact ih hindependent.2
    | some content' =>
      have hread : ∀ next, readField value next other = other.read content' next := by
        intro next
        rw [readField, hget]
      simp only [List.foldlM_cons, hread]
      -- The field passes the first of the others here, and the rest of them by induction.
      calc
        _ ↔ ∃ middle, (field.read content record >>= other.read content') = .ok middle ∧
              fields.foldlM (readField value) middle = .ok result := by
          rw [← bind_assoc, Except.bind_eq_ok]
        _ ↔ ∃ middle, (other.read content' record >>= field.read content) = .ok middle ∧
              fields.foldlM (readField value) middle = .ok result := by
          simp only [hindependent.1 content' content record]
        _ ↔ ∃ next, other.read content' record = .ok next ∧
              (field.read content next >>= fun middle => fields.foldlM (readField value) middle) =
                .ok result := by
          rw [← Except.bind_eq_ok, ← Except.bind_eq_ok, bind_assoc]
        _ ↔ _ := by
          simp only [ih hindependent.2]
          rw [← Except.bind_eq_ok, bind_assoc]

/-- Reading an entry and then the fields of the others is reading the fields of all. -/
theorem foldlM_readField_cons_iff (hregular : shape.Regular) {entry : String × Json}
    {rest : List (String × Json)} (hkey : entry.1 ∉ rest.map Prod.fst) :
    shape.fields.foldlM (readField (.obj (entry :: rest))) record = .ok result ↔
      (shape.readEntry record entry >>= fun next =>
        shape.fields.foldlM (readField (.obj rest)) next) = .ok result := by
  cases hfind : shape.fields.find? (fun field => field.key = entry.1) with
  | none =>
    have hunknown : entry.1 ∉ shape.fields.map RecordField.key := by
      intro hmem
      obtain ⟨field, hfield, hsame⟩ := List.mem_map.1 hmem
      exact List.find?_eq_none.1 hfind field hfield (decide_eq_true hsame)
    rw [foldlM_readField_cons_of_ne hunknown, readEntry, hfind]
    rfl
  | some field =>
    obtain ⟨hsame, before, after, hsplit, -⟩ := List.find?_eq_some_iff_append.1 hfind
    rw [decide_eq_true_eq] at hsame
    obtain ⟨hkeys, hindependent⟩ := hregular
    rw [hsplit] at hkeys hindependent ⊢
    rw [List.map_append, List.map_cons, List.nodup_append, List.nodup_cons, hsame] at hkeys
    obtain ⟨-, ⟨hafter, -⟩, hbefore⟩ := hkeys
    have hbefore : entry.1 ∉ before.map RecordField.key :=
      fun hmem => hbefore entry.1 hmem entry.1 List.mem_cons_self rfl
    have hearlier : ∀ other ∈ before, other.Independent field := fun other hother =>
      (List.pairwise_append.1 hindependent).2.2 other hother field List.mem_cons_self
    have hentry : shape.readEntry record entry = field.read entry.2 record := by
      rw [readEntry, hfind]
    have hfield : ∀ next, readField (.obj (entry :: rest)) next field = field.read entry.2 next := by
      intro next
      rw [readField, get?_obj_cons, if_pos hsame.symm]
    have hlater : ∀ next, readField (.obj rest) next field = .ok next := by
      intro next
      rw [readField, hsame, get?_obj_eq_none_iff.2 hkey]
    simp only [hentry, List.foldlM_append, List.foldlM_cons, hfield, hlater,
      foldlM_readField_cons_of_ne hbefore, foldlM_readField_cons_of_ne hafter]
    calc
      _ ↔ ∃ middle, (before.foldlM (readField (.obj rest)) record >>= field.read entry.2) =
              .ok middle ∧ after.foldlM (readField (.obj rest)) middle = .ok result := by
        rw [← Except.bind_eq_ok, bind_assoc]
      _ ↔ ∃ middle, (field.read entry.2 record >>= fun next =>
              before.foldlM (readField (.obj rest)) next) = .ok middle ∧
            after.foldlM (readField (.obj rest)) middle = .ok result := by
        simp only [foldlM_readField_comm hearlier]
      _ ↔ _ := by
        rw [← Except.bind_eq_ok, bind_assoc]
        rfl

/-- Reading the entries in written order is reading the fields in declared order. -/
theorem foldlM_readEntry_iff (hregular : shape.Regular) {entries : List (String × Json)}
    (hdistinct : (entries.map Prod.fst).Nodup) :
    entries.foldlM shape.readEntry record = .ok result ↔
      shape.fields.foldlM (readField (.obj entries)) record = .ok result := by
  induction entries generalizing record with
  | nil =>
    have hnone : ∀ fields : List (RecordField α), fields.foldlM (readField (.obj [])) record =
        .ok record := by
      intro fields
      induction fields with
      | nil => rfl
      | cons field fields ih => exact ih
    rw [hnone]
    rfl
  | cons entry rest ih =>
    rw [List.map_cons, List.nodup_cons] at hdistinct
    rw [foldlM_readField_cons_iff hregular hdistinct.1, List.foldlM_cons, Except.bind_eq_ok,
      Except.bind_eq_ok]
    simp only [ih hdistinct.2]

theorem missing?_eq_none_iff {entries : List (String × Json)} :
    shape.missing? entries = none ↔
      ∀ field ∈ shape.fields, field.required → ((Json.obj entries).get? field.key).isSome := by
  rw [missing?, List.find?_eq_none]
  refine forall₂_congr fun field _ => ?_
  rw [Option.isSome_iff_ne_none, ne_eq, get?_obj_eq_none_iff]
  simp

/-- An object is decoded to the record that its fields make one by one, and no required field may be
left out. -/
theorem decode_eq_ok_iff (hregular : shape.Regular) {value : Json} {entries : List (String × Json)}
    (hobject : value.IsObject entries) :
    shape.decode value = .ok record ↔
      (∀ field ∈ shape.fields, field.required → (value.get? field.key).isSome) ∧
        shape.fields.foldlM (readField value) shape.blank = .ok record := by
  obtain ⟨rfl, hdistinct⟩ := hobject
  rw [← missing?_eq_none_iff, ← foldlM_readEntry_iff hregular hdistinct, decode, ofEntries,
    Except.bind_eq_ok]
  cases shape.missing? entries with
  | none => simp [pure, Except.pure]
  | some field => simp [throw, throwThe, MonadExceptOf.throw]

/-- A field is read to the content that its value has, or that the record has for it already if
there is no value. -/
theorem readField_decoded {β : Type} {key : String} {required : Bool}
    {decode : Json → Except DecodeFault β} {store : β → α → α} {value : Json} {content : β}
    (hread : ∀ found, value.get? key = some found → decode found = .ok content)
    (hkept : value.get? key = none → store content record = record) :
    readField value record (.decoded key required decode store) =
      .ok (store content record) := by
  rw [readField, RecordField.decoded]
  cases hget : value.get? key with
  | none => exact congrArg Except.ok (hkept hget).symm
  | some found =>
    show (decode found).map (fun content => store content record) = _
    rw [hread found hget]
    rfl

end RecordShape

end TableQuery.Json
