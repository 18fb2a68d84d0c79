/-!
# Lists kept as ordered maps

The columns of an item, the tables of a schema, the entries of a JSON object and the columns of a
result row are all the same shape: a list in which every key occurs once and the order of first
appearance is kept.  `put` is the one way an entry enters such a list: the first entry with the
same key is replaced where it stands, and an entry with a new key goes to the end.

The lemmas say what `put` does to the three views a caller has of the list: the keys
(`map_key_put_of_mem`, `map_key_put_of_notMem`), their being distinct (`nodup_put`,
`nodup_foldl_put`), and the look-up of one key (`get?_put_self`, `get?_put_of_ne`).
-/

namespace TableQuery.Keyed

variable {α κ : Type} [DecidableEq κ]

/-- Replaces the first entry with the key of `a` by `a`, or appends `a` when there is none. -/
def put (key : α → κ) (a : α) : List α → List α
  | [] => [a]
  | b :: rest => if key b = key a then a :: rest else b :: put key a rest

/-- The first entry with the key `k`. -/
def get? (key : α → κ) (k : κ) (entries : List α) : Option α :=
  entries.find? (fun a => key a = k)

/-! ## The keys -/

/-- Putting an entry whose key is present leaves the keys as they are. -/
theorem map_key_put_of_mem (key : α → κ) (a : α) (entries : List α)
    (hpresent : key a ∈ entries.map key) :
    (put key a entries).map key = entries.map key := by
  induction entries with
  | nil => simp at hpresent
  | cons b rest ih =>
    by_cases hsame : key b = key a
    · simp [put, hsame]
    · have hlater : key a ∈ rest.map key := by
        rcases List.mem_cons.1 hpresent with hhere | hlater
        · exact absurd hhere.symm hsame
        · exact hlater
      simp [put, hsame, ih hlater]

/-- Putting an entry with a new key adds that key at the end. -/
theorem map_key_put_of_notMem (key : α → κ) (a : α) (entries : List α)
    (habsent : key a ∉ entries.map key) :
    (put key a entries).map key = entries.map key ++ [key a] := by
  induction entries with
  | nil => simp [put]
  | cons b rest ih =>
    simp only [List.map_cons, List.mem_cons, not_or] at habsent
    have hdiffers : ¬key b = key a := fun hsame => habsent.1 hsame.symm
    simp [put, hdiffers, ih habsent.2]

/-- Distinct keys stay distinct. -/
theorem nodup_put (key : α → κ) (a : α) (entries : List α)
    (hdistinct : (entries.map key).Nodup) : ((put key a entries).map key).Nodup := by
  by_cases hpresent : key a ∈ entries.map key
  · rwa [map_key_put_of_mem key a entries hpresent]
  · rw [map_key_put_of_notMem key a entries hpresent, List.nodup_append]
    refine ⟨hdistinct, by simp, ?_⟩
    intro k hinside k' hlast
    rw [List.mem_singleton.1 hlast]
    exact fun hsame => hpresent (hsame ▸ hinside)

/-- Entries put one after the other have distinct keys, whatever their own keys are. -/
theorem nodup_foldl_put (key : α → κ) (entries kept : List α) (hdistinct : (kept.map key).Nodup) :
    ((entries.foldl (fun kept a => put key a kept) kept).map key).Nodup := by
  induction entries generalizing kept with
  | nil => exact hdistinct
  | cons a rest ih => exact ih (put key a kept) (nodup_put key a kept hdistinct)

/-- An entry with a new key is appended. -/
theorem put_of_notMem (key : α → κ) (a : α) (entries : List α)
    (habsent : key a ∉ entries.map key) : put key a entries = entries ++ [a] := by
  induction entries with
  | nil => rfl
  | cons b rest ih =>
    simp only [List.map_cons, List.mem_cons, not_or] at habsent
    have hdiffers : ¬key b = key a := fun hsame => habsent.1 hsame.symm
    simp [put, hdiffers, ih habsent.2]

/-! ## Looking a key up -/

/-- The entry put last under a key is the one that is found. -/
theorem get?_put_self (key : α → κ) (a : α) (entries : List α) :
    get? key (key a) (put key a entries) = some a := by
  induction entries with
  | nil => simp [put, get?]
  | cons b rest ih =>
    by_cases hsame : key b = key a
    · simp [put, hsame, get?]
    · simpa [put, hsame, get?] using ih

/-- Putting an entry leaves every other key as it was. -/
theorem get?_put_of_ne (key : α → κ) (a : α) (entries : List α) (k : κ) (hother : k ≠ key a) :
    get? key k (put key a entries) = get? key k entries := by
  have hdiffers : ¬key a = k := fun hsame => hother hsame.symm
  induction entries with
  | nil => simp [put, get?, hdiffers]
  | cons b rest ih =>
    by_cases hsame : key b = key a
    · simp [put, hsame, get?, hdiffers]
    · by_cases hhere : key b = k
      · subst hhere
        simp [put, hsame, get?]
      · simpa [put, hsame, get?, hhere] using ih

end TableQuery.Keyed
