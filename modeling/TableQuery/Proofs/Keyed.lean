import Mathlib.Data.List.Induction
import Mathlib.Data.List.Nodup
import TableQuery.Keyed

/-!
# What a list of entries leaves in an ordered map

When entries are put into an empty map one after the other, each key stands where it came up first
and has the entry that came last.  `KeepsLast` says so of the entries and of what is left of them.

`KeepsLast.concat` is what one more entry does, and `keepsLast_foldl` follows for any number of them.
Under a key is found the entry that `IsLast` among all, and none exactly when the key never came up
(`KeepsLast.get?_eq_some_iff`, `KeepsLast.get?_eq_none_iff`).  Nothing else keeps the last entries in
that order (`KeepsLast.unique`), and they are all kept exactly when no key comes up twice
(`KeepsLast.eq_iff`).
-/

namespace TableQuery.Keyed

variable {α κ : Type} [DecidableEq κ]

/-- The value behind a list stays out if it is in the list already. -/
theorem eraseDups_concat (keys : List κ) (k : κ) :
    (keys ++ [k]).eraseDups = if k ∈ keys then keys.eraseDups else keys.eraseDups ++ [k] := by
  rw [List.eraseDups_append]
  split
  · rename_i hrepeated
    have hnone : [k].removeAll keys = [] := by simp [List.removeAll, hrepeated]
    rw [hnone, List.eraseDups_nil, List.append_nil]
  · rename_i hnew
    have hkept : [k].removeAll keys = [k] := by simp [List.removeAll, hnew]
    rw [hkept, List.eraseDups_cons, List.filter_nil, List.eraseDups_nil]

/-- What is in a list already can be left out behind it. -/
theorem eraseDups_append_append {before repeated : List κ} (after : List κ)
    (hrepeated : ∀ k ∈ repeated, k ∈ before) :
    (before ++ repeated ++ after).eraseDups = (before ++ after).eraseDups := by
  have hnone : repeated.filter (fun k => !before.elem k) = [] := by
    rw [List.filter_eq_nil_iff]
    intro k hk
    simpa using hrepeated k hk
  rw [List.append_assoc, List.eraseDups_append, List.eraseDups_append]
  unfold List.removeAll
  rw [List.filter_append, hnone, List.nil_append]

theorem nodup_eraseDups (keys : List κ) : keys.eraseDups.Nodup := by
  induction keys using List.reverseRecOn with
  | nil => exact List.nodup_nil
  | append_singleton init k ih =>
    rw [eraseDups_concat]
    split
    · exact ih
    · rename_i hnew
      rw [← List.concat_eq_append, List.nodup_concat]
      exact ⟨fun hmem => hnew (List.mem_eraseDups.1 hmem), ih⟩

/-- Every key of the entries is kept once, where it comes up first, with the entry that comes
last. -/
structure KeepsLast (key : α → κ) (entries kept : List α) : Prop where
  keys : kept.map key = (entries.map key).eraseDups
  last : ∀ k, get? key k kept = get? key k entries.reverse

theorem get?_cons (key : α → κ) (k : κ) (a : α) (rest : List α) :
    get? key k (a :: rest) = if key a = k then some a else get? key k rest := by
  unfold get?
  by_cases hkey : key a = k
  · rw [if_pos hkey, List.find?_cons_of_pos (by simpa using hkey)]
  · rw [if_neg hkey, List.find?_cons_of_neg (by simpa using hkey)]

theorem get?_eq_none_iff {key : α → κ} {k : κ} {entries : List α} :
    get? key k entries = none ↔ k ∉ entries.map key := by
  simp [get?]

/-- Under distinct keys, every entry is found under its own key. -/
theorem get?_eq_some_iff {key : α → κ} {k : κ} {entries : List α} {a : α}
    (hdistinct : (entries.map key).Nodup) : get? key k entries = some a ↔ a ∈ entries ∧ key a = k := by
  constructor
  · intro hfound
    exact ⟨List.mem_of_find?_eq_some hfound, by simpa using List.find?_some hfound⟩
  · intro hmem
    obtain ⟨hmem, rfl⟩ := hmem
    cases hfound : get? key (key a) entries with
    | none => exact absurd (List.mem_map_of_mem hmem) (get?_eq_none_iff.1 hfound)
    | some b =>
      have hkey : key b = key a := by simpa using List.find?_some hfound
      rw [List.inj_on_of_nodup_map hdistinct (List.mem_of_find?_eq_some hfound) hmem hkey]

/-- The order of entries with distinct keys does not count for what is found. -/
theorem get?_perm {key : α → κ} {entries others : List α} (hperm : entries.Perm others)
    (hdistinct : (entries.map key).Nodup) (k : κ) : get? key k entries = get? key k others := by
  have hdistinct' : (others.map key).Nodup := (hperm.map key).nodup_iff.1 hdistinct
  ext a
  rw [get?_eq_some_iff hdistinct, get?_eq_some_iff hdistinct', hperm.mem_iff]

/-- The entry is the last one under its key. -/
def IsLast (key : α → κ) (a : α) (entries : List α) : Prop :=
  ∃ before after, entries = before ++ a :: after ∧ key a ∉ after.map key

/-- What is found first from the end is the last entry under its key. -/
theorem get?_reverse_eq_some_iff {key : α → κ} {k : κ} {entries : List α} {a : α} :
    get? key k entries.reverse = some a ↔ key a = k ∧ IsLast key a entries := by
  unfold get?
  rw [List.find?_eq_some_iff_append]
  simp only [decide_eq_true_eq, Bool.not_eq_true', decide_eq_false_iff_not]
  constructor
  · intro hfound
    obtain ⟨hkey, after, before, hsplit, hlater⟩ := hfound
    refine ⟨hkey, before.reverse, after.reverse, ?_, ?_⟩
    · rw [← List.reverse_reverse entries, hsplit]
      simp
    · intro hmem
      obtain ⟨b, hb, hsame⟩ := List.mem_map.1 hmem
      exact hlater b (List.mem_reverse.1 hb) (hsame.trans hkey)
  · intro hlast
    obtain ⟨hkey, before, after, rfl, hlater⟩ := hlast
    refine ⟨hkey, after.reverse, before.reverse, by simp, ?_⟩
    intro b hb hsame
    exact hlater (List.mem_map.2 ⟨b, List.mem_reverse.1 hb, hsame.trans hkey.symm⟩)

/-- An entry takes the place of the one that has its key. -/
theorem exists_put_eq_of_mem {key : α → κ} {a : α} {entries : List α}
    (hpresent : key a ∈ entries.map key) :
    ∃ before old after, entries = before ++ old :: after ∧ key old = key a ∧
      put key a entries = before ++ a :: after := by
  induction entries with
  | nil => cases hpresent
  | cons b rest ih =>
    by_cases hkey : key b = key a
    · exact ⟨[], b, rest, rfl, hkey, by simp [put, hkey]⟩
    · have hlater : key a ∈ rest.map key :=
        (List.mem_cons.1 hpresent).resolve_left fun hsame => hkey hsame.symm
      obtain ⟨before, old, after, rfl, hold, hput⟩ := ih hlater
      exact ⟨b :: before, old, after, rfl, hold, by simp [put, hkey, hput]⟩

/-- Entries that are related one by one, under the same keys, are found together. -/
theorem get?_rel {key : α → κ} {R : α → α → Prop} {entries others : List α}
    (hkey : ∀ a b, R a b → key a = key b) (hall : List.Forall₂ R entries others) (k : κ) :
    Option.Rel R (get? key k entries) (get? key k others) := by
  induction hall with
  | nil => exact .none
  | @cons a b _ _ hfirst hrest ih =>
    rw [get?_cons, get?_cons, hkey a b hfirst]
    split
    · exact .some hfirst
    · exact ih

/-- Distinct keys in one order with the same entry each make one list. -/
theorem eq_of_get?_eq {key : α → κ} {entries others : List α} (hdistinct : (entries.map key).Nodup)
    (hkeys : entries.map key = others.map key) (hsame : ∀ k, get? key k entries = get? key k others) :
    entries = others := by
  induction entries generalizing others with
  | nil => exact (List.map_eq_nil_iff.1 hkeys.symm).symm
  | cons a rest ih =>
    cases others with
    | nil => cases hkeys
    | cons b others =>
      rw [List.map_cons, List.map_cons] at hkeys
      obtain ⟨hkey, hrest⟩ := List.cons.inj hkeys
      rw [List.map_cons, List.nodup_cons] at hdistinct
      have hfirst := hsame (key a)
      rw [get?_cons, get?_cons, if_pos rfl, if_pos hkey.symm] at hfirst
      rw [Option.some.inj hfirst, ih hdistinct.2 hrest]
      intro k
      by_cases hk : key a = k
      · subst hk
        rw [get?_eq_none_iff.2 hdistinct.1, get?_eq_none_iff.2 (hrest ▸ hdistinct.1)]
      · have hlater := hsame k
        rwa [get?_cons, get?_cons, if_neg hk, if_neg (hkey ▸ hk)] at hlater

namespace KeepsLast

variable {key : α → κ} {entries kept : List α}

theorem nil (key : α → κ) : KeepsLast key [] [] := ⟨rfl, fun _ => rfl⟩

theorem nodup (hkept : KeepsLast key entries kept) : (kept.map key).Nodup := by
  rw [hkept.keys]
  exact nodup_eraseDups _

/-- One more entry replaces the one that is kept under its key, or goes to the end. -/
theorem concat (hkept : KeepsLast key entries kept) (a : α) :
    KeepsLast key (entries ++ [a]) (put key a kept) := by
  have hmem : key a ∈ kept.map key ↔ key a ∈ entries.map key := by
    rw [hkept.keys, List.mem_eraseDups]
  constructor
  · rw [List.map_append, List.map_singleton, eraseDups_concat, ← hkept.keys]
    split
    · rename_i hpresent
      exact map_key_put_of_mem key a kept (hmem.2 hpresent)
    · rename_i habsent
      exact map_key_put_of_notMem key a kept (fun hpresent => habsent (hmem.1 hpresent))
  · intro k
    rw [List.reverse_append, List.reverse_singleton, List.singleton_append, get?_cons]
    split
    · rename_i hkey
      rw [← hkey, get?_put_self]
    · rename_i hkey
      rw [get?_put_of_ne key a kept k (fun hsame => hkey hsame.symm), hkept.last]

theorem get?_eq_some_iff (hkept : KeepsLast key entries kept) {k : κ} {a : α} :
    get? key k kept = some a ↔ key a = k ∧ IsLast key a entries := by
  rw [hkept.last, get?_reverse_eq_some_iff]

theorem get?_eq_none_iff (hkept : KeepsLast key entries kept) {k : κ} :
    get? key k kept = none ↔ k ∉ entries.map key := by
  rw [Keyed.get?_eq_none_iff, hkept.keys, List.mem_eraseDups]

/-- What is kept is the last entry under its key. -/
theorem isLast_of_mem (hkept : KeepsLast key entries kept) {a : α} (hmem : a ∈ kept) :
    IsLast key a entries :=
  (hkept.get?_eq_some_iff.1 ((Keyed.get?_eq_some_iff hkept.nodup).2 ⟨hmem, rfl⟩)).2

/-- Only one list keeps the last entries in the order of their keys. -/
theorem unique (hkept : KeepsLast key entries kept) {other : List α}
    (hother : KeepsLast key entries other) : kept = other := by
  refine eq_of_get?_eq hkept.nodup (hkept.keys.trans hother.keys.symm) ?_
  intro k
  rw [hkept.last, hother.last]

end KeepsLast

/-- Putting entries one after the other keeps the last one of each key. -/
theorem keepsLast_foldl (key : α → κ) (entries : List α) :
    KeepsLast key entries (entries.foldl (fun kept a => put key a kept) []) := by
  induction entries using List.reverseRecOn with
  | nil => exact .nil key
  | append_singleton init a ih =>
    rw [List.foldl_append]
    exact ih.concat a

/-- Entries may be read before or after they are put, as long as their keys stay. -/
theorem map_put {β : Type} {key : α → κ} {key' : β → κ} (f : α → β) (hkey : ∀ a, key' (f a) = key a)
    (a : α) (entries : List α) :
    (put key a entries).map f = put key' (f a) (entries.map f) := by
  induction entries with
  | nil => rfl
  | cons b rest ih =>
    rw [List.map_cons, put, put, hkey, hkey]
    split
    · rfl
    · rw [List.map_cons, ih]

/-- Entries of distinct keys are put behind one another. -/
theorem foldl_put_eq_self (key : α → κ) {entries : List α} (hdistinct : (entries.map key).Nodup) :
    entries.foldl (fun kept a => put key a kept) [] = entries := by
  induction entries using List.reverseRecOn with
  | nil => rfl
  | append_singleton init a ih =>
    rw [List.map_append, List.map_singleton, ← List.concat_eq_append, List.nodup_concat] at hdistinct
    rw [List.foldl_append, ih hdistinct.2]
    exact put_of_notMem key a init hdistinct.1

/-- All entries are kept as they are exactly when no key comes up twice. -/
theorem KeepsLast.eq_iff {key : α → κ} {entries kept : List α}
    (hkept : KeepsLast key entries kept) : kept = entries ↔ (entries.map key).Nodup := by
  constructor
  · rintro rfl
    exact hkept.nodup
  · intro hdistinct
    rw [hkept.unique (keepsLast_foldl key entries), foldl_put_eq_self key hdistinct]

end TableQuery.Keyed
