import Mathlib.Logic.Function.Basic
import TableQuery.Proofs.Json.Record
import TableQuery.Request

/-!
# What a request declared in JSON asks for

A `RequestDeclaration` is what somebody asks for, part by part, and `RequestDeclaration.request`
makes the request of it by the builders, one call for each thing that is asked.  It is written as an
object with a key for each part that is asked for (`RequestDeclaration.WrittenAs`), in any order and
with null under any other key.

`setEntry_given` is one entry of the object, and `ofJson_eq_ok_iff` the whole of it by induction on
the entries: a request is read from an object exactly if it is the one that is built of what the
object declares.
-/

namespace TableQuery

namespace Json

/-- The value under a key, unless it is null. -/
def given? (value : Json) (key : String) : Option Json :=
  (value.get? key).filter fun content => !content.isNull

/-- The entries that are not null. -/
def givenEntries (entries : List (String × Json)) : List (String × Json) :=
  entries.filter fun entry => !entry.2.isNull

variable {entries others : List (String × Json)} {entry : String × Json}

theorem get?_obj_concat (key : String) :
    (obj (entries ++ [entry])).get? key =
      ((obj entries).get? key).or (if entry.1 = key then some entry.2 else none) := by
  rw [get?, get?, Keyed.get?, List.find?_append, Option.map_or, List.find?_singleton]
  congr 1
  by_cases hkey : entry.1 = key <;> simp [hkey]

/-- One more entry does not count for other keys. -/
theorem given?_concat_of_ne {key : String} (hkey : entry.1 ≠ key) :
    (obj (entries ++ [entry])).given? key = (obj entries).given? key := by
  rw [given?, given?, get?_obj_concat, if_neg hkey, Option.or_none]

theorem given?_eq_none_of_notMem {key : String} (hnew : key ∉ entries.map Prod.fst) :
    (obj entries).given? key = none := by
  rw [given?, get?_obj_eq_none_iff.2 hnew, Option.filter_none]

/-- One more entry gives its value under its key, unless it is null. -/
theorem given?_concat_self (hnew : entry.1 ∉ entries.map Prod.fst) :
    (obj (entries ++ [entry])).given? entry.1 = if entry.2.isNull then none else some entry.2 := by
  rw [given?, get?_obj_concat, get?_obj_eq_none_iff.2 hnew, if_pos rfl, Option.none_or]
  cases hnull : entry.2.isNull <;> simp [Option.filter, hnull]

theorem mem_givenEntries :
    entry ∈ givenEntries entries ↔ entry ∈ entries ∧ entry.2.isNull = false := by
  simp [givenEntries]

theorem nodup_givenEntries (hdistinct : (entries.map Prod.fst).Nodup) :
    ((givenEntries entries).map Prod.fst).Nodup :=
  hdistinct.sublist (List.filter_sublist.map Prod.fst)

/-- What is given under a key is found among the entries that are not null. -/
theorem given?_eq_map (hdistinct : (entries.map Prod.fst).Nodup) (key : String) :
    (obj entries).given? key = (Keyed.get? Prod.fst key (givenEntries entries)).map Prod.snd := by
  ext content
  simp only [given?, get?, Option.filter_eq_some_iff, Option.map_eq_some_iff, Bool.not_eq_true',
    Keyed.get?_eq_some_iff hdistinct, Keyed.get?_eq_some_iff (nodup_givenEntries hdistinct),
    mem_givenEntries]
  constructor
  · rintro ⟨⟨entry, ⟨hmem, hkey⟩, rfl⟩, hcontent⟩
    exact ⟨entry, ⟨⟨hmem, hcontent⟩, hkey⟩, rfl⟩
  · rintro ⟨entry, ⟨⟨hmem, hcontent⟩, hkey⟩, rfl⟩
    exact ⟨⟨entry, ⟨hmem, hkey⟩, rfl⟩, hcontent⟩

/-- Neither the order of the entries counts for what is given nor those that are null. -/
theorem given?_perm (hdistinct : (entries.map Prod.fst).Nodup)
    (hdistinct' : (others.map Prod.fst).Nodup)
    (hperm : (givenEntries entries).Perm (givenEntries others)) (key : String) :
    (obj entries).given? key = (obj others).given? key := by
  rw [given?_eq_map hdistinct, given?_eq_map hdistinct',
    Keyed.get?_perm hperm (nodup_givenEntries hdistinct)]

end Json

namespace Request

/-! ## Parts and their contents -/

/-- The key of a part. -/
def Part.key : Part → String
  | .columns => "columns"
  | .filter => "where"
  | .orderBy => "orderBy"
  | .groupBy => "groupBy"
  | .limit => "limit"
  | .offset => "offset"

/-- What is declared for a part. -/
abbrev Part.Content : Part → Type
  | .columns => List String
  | .filter => Filter
  | .orderBy => List String
  | .groupBy => List String
  | .limit => UInt64
  | .offset => UInt64

/-- The value declares the content of the part. -/
def Part.Declares : (part : Part) → Json → part.Content → Prop
  | .columns, value, texts => value = .arr (texts.map .str)
  | .filter, value, wanted => Filter.ofJson value = .ok wanted
  | .orderBy, value, texts => value = .arr (texts.map .str)
  | .groupBy, value, texts => value = .arr (texts.map .str)
  | .limit, value, count => value = .whole (.ofUInt64 count)
  | .offset, value, count => value = .whole (.ofUInt64 count)

/-- The request with the content of one part, in place of what it had for that part. -/
def Part.store : (part : Part) → part.Content → Request → Request
  | .columns, texts, request => { request with columns := some (texts.map FieldPath.ofText) }
  | .filter, wanted, request => { request with filter := wanted }
  | .orderBy, texts, request => { request with orderBy := texts.map OrderTerm.ofText }
  | .groupBy, texts, request => { request with groupBy := texts.map FieldPath.ofText }
  | .limit, count, request => { request with limit := some count }
  | .offset, count, request => { request with offset := some count }

theorem Part.ofKey?_eq_some_iff {key : String} {part : Part} :
    Part.ofKey? key = some part ↔ part.key = key := by
  constructor
  · intro hpart
    unfold Part.ofKey? at hpart
    split_ifs at hpart
    all_goals
      cases hpart
      symm
      assumption
  · rintro rfl
    cases part <;> rfl

theorem Part.key_injective : Function.Injective Part.key := by
  intro part other hkey
  have hpart := Part.ofKey?_eq_some_iff.2 hkey
  rw [Part.ofKey?_eq_some_iff.2 rfl] at hpart
  exact (Option.some.inj hpart).symm

theorem textsOfJson_eq_ok {key : String} {value : Json} {texts : List String} :
    textsOfJson key value = .ok texts ↔ value = .arr (texts.map .str) := by
  cases value with
  | arr items =>
    have hall : List.Forall₂ (fun item text => item = .str text) items texts ↔
        items = texts.map .str := by
      rw [← List.forall₂_map_right_iff (R := Eq), List.forall₂_eq_eq_eq]
    rw [textsOfJson, Except.mapM_eq_ok, Json.arr.injEq, ← hall]
    constructor
    · intro hread
      refine hread.imp fun item text hitem => ?_
      cases item <;> cases hitem
      rfl
    · intro hitems
      refine hitems.imp fun item text hitem => ?_
      cases hitem
      rfl
  | null | bool | whole | real | str | obj => exact ⟨nofun, nofun⟩

theorem countOfJson_eq_ok {key : String} {value : Json} {count : UInt64} :
    countOfJson key value = .ok count ↔ value = .whole (.ofUInt64 count) := by
  cases value with
  | whole n =>
    have hupper := n.upper
    have hsame : n = .ofUInt64 count ↔ n.val = count.toNat := by
      constructor
      · rintro rfl
        rfl
      · intro hval
        cases n
        cases hval
        rfl
    rw [countOfJson, Json.whole.injEq, hsame]
    split
    · have hfits : n.val.toNat < UInt64.size := by
        show n.val.toNat < 0x10000000000000000
        omega
      rw [Except.ok.injEq, ← UInt64.toNat_inj, UInt64.toNat_ofNat_of_lt' hfits]
      omega
    · simp only [reduceCtorEq, false_iff]
      omega
  | null | bool | real | str | arr | obj => exact ⟨nofun, nofun⟩

/-- An entry that is null says nothing. -/
theorem setEntry_null {request : Request} {entry : String × Json} (hnull : entry.2.isNull) :
    setEntry request entry = .ok request := by
  unfold setEntry
  exact if_pos hnull

/-- Any other entry has to declare the content of the part that its key names, which the request
then has. -/
theorem setEntry_given {request next : Request} {entry : String × Json}
    (hgiven : entry.2.isNull = false) :
    setEntry request entry = .ok next ↔ ∃ part : Part, part.key = entry.1 ∧
      ∃ content, part.Declares entry.2 content ∧ part.store content request = next := by
  unfold setEntry
  dsimp only
  rw [if_neg (by simp [hgiven])]
  cases hpart : Part.ofKey? entry.1 with
  | none =>
    constructor
    · intro hset
      cases hset
    · rintro ⟨part, hkey, -⟩
      rw [Part.ofKey?_eq_some_iff.2 hkey] at hpart
      cases hpart
  | some part =>
    have hkey := Part.ofKey?_eq_some_iff.1 hpart
    have hother : ∀ other : Part, other.key = entry.1 ↔ other = part := by
      intro other
      rw [← hkey]
      exact Part.key_injective.eq_iff
    simp only [hother, exists_eq_left]
    cases part
    all_goals
      simp only [Except.bind_eq_ok, textsOfJson_eq_ok, countOfJson_eq_ok, pure, Except.pure,
        Except.ok.injEq]
      rfl

end Request

/-! ## Declarations -/

open Request (Part)

/-- What is asked for, part by part. -/
structure RequestDeclaration where
  asked : (part : Part) → Option part.Content

namespace RequestDeclaration

/-- The request that is built of what is asked for, one call for each thing. -/
def request (declared : RequestDeclaration) : Request :=
  let selected := (declared.asked .columns).elim Request.empty Request.empty.select
  let filtered := (declared.asked .filter).elim selected selected.under
  let ordered := ((declared.asked .orderBy).getD []).foldl Request.thenOrderBy filtered
  let grouped := ((declared.asked .groupBy).getD []).foldl Request.thenGroupBy ordered
  let taken := (declared.asked .limit).elim grouped grouped.take
  (declared.asked .offset).elim taken taken.skip

/-- What is asked for is what is given under the keys of the parts, and no other key is given. -/
structure WrittenAs (declared : RequestDeclaration) (value : Json) : Prop where
  known : ∀ key content, value.given? key = some content → ∃ part : Part, part.key = key
  parts : ∀ part : Part, Option.Rel part.Declares (value.given? part.key) (declared.asked part)

/-- The declaration with one part changed. -/
def set (declared : RequestDeclaration) (part : Part) (content : Option part.Content) :
    RequestDeclaration :=
  ⟨Function.update declared.asked part content⟩

section

variable (declared : RequestDeclaration) (part : Part) (content : Option part.Content)

@[simp] theorem asked_set_self : (declared.set part content).asked part = content := by
  simp [set]

theorem asked_set_of_ne {other : Part} (hother : other ≠ part) :
    (declared.set part content).asked other = declared.asked other := by
  simp [set, hother]

theorem set_set (earlier : Option part.Content) :
    (declared.set part earlier).set part content = declared.set part content := by
  simp [set]

theorem set_eq_self : declared.set part (declared.asked part) = declared := by
  simp [set]

end

theorem foldl_thenOrderBy (terms : List String) (request : Request) :
    terms.foldl Request.thenOrderBy request =
      { request with orderBy := request.orderBy ++ terms.map OrderTerm.ofText } := by
  induction terms generalizing request with
  | nil => simp
  | cons term terms ih => simp [ih, Request.thenOrderBy]

theorem foldl_thenGroupBy (paths : List String) (request : Request) :
    paths.foldl Request.thenGroupBy request =
      { request with groupBy := request.groupBy ++ paths.map FieldPath.ofText } := by
  induction paths generalizing request with
  | nil => simp
  | cons path paths ih => simp [ih, Request.thenGroupBy]

/-- The builders put every part in its place. -/
theorem request_eq (declared : RequestDeclaration) :
    declared.request = {
      columns := (declared.asked .columns).map (List.map FieldPath.ofText)
      filter := (declared.asked .filter).getD .empty
      orderBy := ((declared.asked .orderBy).getD []).map OrderTerm.ofText
      groupBy := ((declared.asked .groupBy).getD []).map FieldPath.ofText
      limit := declared.asked .limit
      offset := declared.asked .offset } := by
  rw [request, foldl_thenOrderBy, foldl_thenGroupBy]
  cases declared.asked .columns <;> cases declared.asked .filter <;> cases declared.asked .limit <;>
    cases declared.asked .offset <;> rfl

/-- More that is asked for is put in its place. -/
theorem request_set (declared : RequestDeclaration) (part : Part) (content : part.Content) :
    (declared.set part (some content)).request = part.store content declared.request := by
  rw [request_eq, request_eq]
  cases part <;> rfl

/-! ### Entry by entry -/

section

variable {declared : RequestDeclaration} {entries : List (String × Json)} {entry : String × Json}

/-- What is asked for depends on what is given only. -/
theorem writtenAs_congr {value other : Json} (hsame : ∀ key, value.given? key = other.given? key) :
    declared.WrittenAs value ↔ declared.WrittenAs other := by
  have hmove : ∀ {value other : Json}, (∀ key, value.given? key = other.given? key) →
      declared.WrittenAs value → declared.WrittenAs other := by
    intro value other hsame hwritten
    refine ⟨fun key content hgiven => hwritten.known key content ((hsame key).trans hgiven), ?_⟩
    intro part
    rw [← hsame]
    exact hwritten.parts part
  exact ⟨hmove hsame, hmove fun key => (hsame key).symm⟩

theorem writtenAs_nil_iff : declared.WrittenAs (.obj []) ↔ declared = ⟨fun _ => none⟩ := by
  have hnone : ∀ key, (Json.obj []).given? key = none := fun _ => rfl
  constructor
  · intro hwritten
    have hasked : declared.asked = fun _ => none := by
      funext part
      have hpart := hwritten.parts part
      rw [hnone] at hpart
      cases hasked : declared.asked part with
      | none => rfl
      | some content =>
        rw [hasked] at hpart
        cases hpart
    exact congrArg mk hasked
  · rintro rfl
    refine ⟨fun key content hgiven => ?_, fun part => ?_⟩
    · cases (hnone key).symm.trans hgiven
    · exact hnone part.key ▸ .none

/-- An entry that is null asks for nothing. -/
theorem writtenAs_concat_null (hnew : entry.1 ∉ entries.map Prod.fst) (hnull : entry.2.isNull) :
    declared.WrittenAs (.obj (entries ++ [entry])) ↔ declared.WrittenAs (.obj entries) := by
  refine writtenAs_congr fun key => ?_
  by_cases hkey : entry.1 = key
  · subst hkey
    rw [Json.given?_concat_self hnew, if_pos hnull, Json.given?_eq_none_of_notMem hnew]
  · exact Json.given?_concat_of_ne hkey

/-- What is given under the key of a part is asked for. -/
theorem WrittenAs.exists_asked {value content : Json} {part : Part}
    (hwritten : declared.WrittenAs value) (hgiven : value.given? part.key = some content) :
    ∃ wanted, declared.asked part = some wanted ∧ part.Declares content wanted := by
  have hpart := hwritten.parts part
  rw [hgiven] at hpart
  cases hasked : declared.asked part with
  | none =>
    rw [hasked] at hpart
    cases hpart
  | some wanted =>
    rw [hasked] at hpart
    cases hpart with
    | some hdeclares => exact ⟨wanted, rfl, hdeclares⟩

/-- Without the last entry, all but the part that it is about is asked for. -/
theorem WrittenAs.init {part : Part} (hkey : part.key = entry.1)
    (hnew : entry.1 ∉ entries.map Prod.fst)
    (hwritten : declared.WrittenAs (.obj (entries ++ [entry]))) :
    (declared.set part none).WrittenAs (.obj entries) := by
  have hnone : (Json.obj entries).given? entry.1 = none := Json.given?_eq_none_of_notMem hnew
  refine ⟨fun key found hfound => ?_, fun other => ?_⟩
  · have hne : entry.1 ≠ key := by
      rintro rfl
      cases hnone.symm.trans hfound
    exact hwritten.known key found ((Json.given?_concat_of_ne hne).trans hfound)
  · by_cases hother : other = part
    · subst hother
      rw [hkey, hnone, asked_set_self]
      exact .none
    · have hne : entry.1 ≠ other.key := hkey ▸ Part.key_injective.ne (Ne.symm hother)
      rw [asked_set_of_ne _ _ _ hother, ← Json.given?_concat_of_ne hne]
      exact hwritten.parts other

/-- One more entry asks for the part that it is about. -/
theorem WrittenAs.concat {part : Part} {content : part.Content} (hkey : part.key = entry.1)
    (hlast : (Json.obj (entries ++ [entry])).given? entry.1 = some entry.2)
    (hdeclares : part.Declares entry.2 content) (hwritten : declared.WrittenAs (.obj entries)) :
    (declared.set part (some content)).WrittenAs (.obj (entries ++ [entry])) := by
  refine ⟨fun key found hfound => ?_, fun other => ?_⟩
  · by_cases hsame : entry.1 = key
    · exact ⟨part, hkey.trans hsame⟩
    · rw [Json.given?_concat_of_ne hsame] at hfound
      exact hwritten.known key found hfound
  · by_cases hother : other = part
    · subst hother
      rw [hkey, hlast, asked_set_self]
      exact .some hdeclares
    · have hne : entry.1 ≠ other.key := hkey ▸ Part.key_injective.ne (Ne.symm hother)
      rw [asked_set_of_ne _ _ _ hother, Json.given?_concat_of_ne hne]
      exact hwritten.parts other

/-- Any other entry asks for the part that its key names, besides what the entries before it ask
for. -/
theorem writtenAs_concat_given (hnew : entry.1 ∉ entries.map Prod.fst)
    (hgiven : entry.2.isNull = false) :
    declared.WrittenAs (.obj (entries ++ [entry])) ↔ ∃ before : RequestDeclaration,
      before.WrittenAs (.obj entries) ∧ ∃ part : Part, part.key = entry.1 ∧
        ∃ content, part.Declares entry.2 content ∧ before.set part (some content) = declared := by
  have hlast : (Json.obj (entries ++ [entry])).given? entry.1 = some entry.2 := by
    rw [Json.given?_concat_self hnew, hgiven]
    rfl
  constructor
  · intro hwritten
    obtain ⟨part, hkey⟩ := hwritten.known entry.1 entry.2 hlast
    obtain ⟨content, hasked, hdeclares⟩ := hwritten.exists_asked (hkey ▸ hlast)
    refine ⟨_, hwritten.init hkey hnew, part, hkey, content, hdeclares, ?_⟩
    rw [set_set, ← hasked, set_eq_self]
  · rintro ⟨before, hbefore, part, hkey, content, hdeclares, rfl⟩
    exact hbefore.concat hkey hlast hdeclares

end

end RequestDeclaration

namespace Request

theorem foldlM_setEntry_concat {entries : List (String × Json)} {entry : String × Json}
    {request : Request} :
    (entries ++ [entry]).foldlM setEntry empty = .ok request ↔
      ∃ before, entries.foldlM setEntry empty = .ok before ∧ setEntry before entry = .ok request := by
  rw [List.foldlM_append, Except.bind_eq_ok]
  simp only [List.foldlM_cons, List.foldlM_nil, bind_pure]

/-- A request is read from the entries of an object exactly if it is built of what they ask for. -/
theorem foldlM_setEntry_iff {entries : List (String × Json)}
    (hdistinct : (entries.map Prod.fst).Nodup) {request : Request} :
    entries.foldlM setEntry empty = .ok request ↔ ∃ declared : RequestDeclaration,
      declared.WrittenAs (.obj entries) ∧ declared.request = request := by
  induction entries using List.reverseRecOn generalizing request with
  | nil =>
    simp only [RequestDeclaration.writtenAs_nil_iff, exists_eq_left]
    show Except.ok empty = Except.ok request ↔ _
    rw [Except.ok.injEq]
    exact Iff.rfl
  | append_singleton init entry ih =>
    rw [List.map_append, List.map_singleton, ← List.concat_eq_append, List.nodup_concat]
      at hdistinct
    obtain ⟨hnew, hdistinct⟩ := hdistinct
    rw [foldlM_setEntry_concat]
    simp only [ih hdistinct]
    cases hnull : entry.2.isNull with
    | true =>
      simp only [RequestDeclaration.writtenAs_concat_null hnew hnull, setEntry_null hnull,
        Except.ok.injEq]
      constructor
      · rintro ⟨_, hdeclared, rfl⟩
        exact hdeclared
      · intro hdeclared
        exact ⟨request, hdeclared, rfl⟩
    | false =>
      simp only [RequestDeclaration.writtenAs_concat_given hnew hnull, setEntry_given hnull]
      constructor
      · rintro ⟨_, ⟨before, hbefore, rfl⟩, part, hkey, content, hdeclares, rfl⟩
        exact ⟨_, ⟨before, hbefore, part, hkey, content, hdeclares, rfl⟩,
          before.request_set part content⟩
      · rintro ⟨_, ⟨before, hbefore, part, hkey, content, hdeclares, rfl⟩, rfl⟩
        exact ⟨_, ⟨before, hbefore, rfl⟩, part, hkey, content, hdeclares,
          (before.request_set part content).symm⟩

theorem ofJson_eq_ok_iff {value : Json} {entries : List (String × Json)}
    (hvalue : value.IsObject entries) {request : Request} :
    ofJson value = .ok request ↔ ∃ declared : RequestDeclaration,
      declared.WrittenAs value ∧ declared.request = request := by
  obtain ⟨rfl, hdistinct⟩ := hvalue
  exact foldlM_setEntry_iff hdistinct

/-- Neither the order of the keys of an object counts for the request that is read from it nor what
is null: either both objects are refused, or the same request is read from both.  It is the one that
the builders make of what is given under the keys: the columns selected, the filter put on, every
term added to the ordering and every path to the grouping, the rows limited and passed over. -/
theorem ofJson_reordered {value other : Json} {entries others : List (String × Json)}
    (hvalue : value.IsObject entries) (hother : other.IsObject others)
    (hsame : (Json.givenEntries entries).Perm (Json.givenEntries others)) :
    Except.Matches id (ofJson value) (ofJson other) ∧
      ∀ request, ofJson value = .ok request ↔ ∃ declared : RequestDeclaration,
        declared.WrittenAs value ∧ declared.request = request := by
  refine ⟨Except.Matches.of_ok_iff fun request => ?_, fun request => ofJson_eq_ok_iff hvalue⟩
  rw [ofJson_eq_ok_iff hvalue, ofJson_eq_ok_iff hother]
  have hgiven : ∀ key, value.given? key = other.given? key := by
    obtain ⟨rfl, hdistinct⟩ := hvalue
    obtain ⟨rfl, hdistinct'⟩ := hother
    exact Json.given?_perm hdistinct hdistinct' hsame
  simp only [RequestDeclaration.writtenAs_congr hgiven]

/-- The towns of a region. -/
def townsWhere : Json :=
  .obj [("region.name", .obj [("$eq", .str "Asia")])]

/-- Some towns in an order, as somebody may ask for them. -/
def townsFields : List (String × Json) :=
  [("orderBy", .arr [.str "-size", .str "name"]), ("limit", .whole (.ofUInt64 5)), ("group", .null),
    ("where", townsWhere)]

/-- The same with the keys in another order, and with another key that is null. -/
def townsFields' : List (String × Json) :=
  [("offset", .null), ("where", townsWhere), ("limit", .whole (.ofUInt64 5)),
    ("orderBy", .arr [.str "-size", .str "name"])]

theorem ofJson_reordered_townsFields :
    (Json.givenEntries townsFields).Perm (Json.givenEntries townsFields') ∧
      ∃ wanted request, Filter.ofJson townsWhere = .ok wanted ∧
        ofJson (.obj townsFields) = .ok request ∧ ofJson (.obj townsFields') = .ok request ∧
        request = (((empty.under wanted).thenOrderBy "-size").thenOrderBy "name").take 5 := by
  have hobject : (Json.obj townsFields).IsObject townsFields := ⟨rfl, by simp [townsFields]⟩
  have hobject' : (Json.obj townsFields').IsObject townsFields' := ⟨rfl, by simp [townsFields']⟩
  have hperm : (Json.givenEntries townsFields).Perm (Json.givenEntries townsFields') :=
    (List.reverse_perm _).symm
  obtain ⟨wanted, hwanted⟩ : ∃ wanted, Filter.ofJson townsWhere = .ok wanted := ⟨_, rfl⟩
  obtain ⟨request, hrequest⟩ : ∃ request, ofJson (.obj townsFields) = .ok request := ⟨_, rfl⟩
  have hmatches := (ofJson_reordered hobject hobject' hperm).1
  refine ⟨hperm, wanted, request, hwanted, hrequest, hmatches.ok_iff.1 hrequest, ?_⟩
  cases hwanted
  cases hrequest
  rfl

end Request

end TableQuery
