import TableQuery.Join
import TableQuery.Proofs.Keyed

/-!
# Joins that lead from a root

A join can be written only where the table that it starts from is there already: it is the root of
the selection or the target of a join further left.  `Join.Grounded` says so of a list of joins.

The joins of one path are a chain, each starting where the one before it ended.  A chain that starts
from a table that is there keeps a list grounded (`Grounded.append_chain`), and so does leaving out
every repetition (`Grounded.eraseDups`), since of equal joins the leftmost one stays.  What stays
is every join once, in the order of the first occurrences (`firstOccurrences_iff`).

A collection takes hops one by one.  `Collection.Holds` is what it keeps at every step: it has taken
the first occurrences of the hops, and it has seen all of them.
-/

namespace TableQuery.Join

/-- The tables that a selection can refer to: its root and what is joined to it. -/
def tables (root : String) (joins : List Join) : List String :=
  root :: joins.map toTable

/-- Joins that lead from one table to another, each starting where the one before it ended. -/
inductive Chain : String → List Join → String → Prop where
  /-- No join leads from a table to itself. -/
  | nil (table : String) : Chain table [] table
  /-- A join leads to where a chain starts. -/
  | cons (join : Join) {rest : List Join} {last : String} (hrest : Chain join.toTable rest last) :
      Chain join.fromTable (join :: rest) last

/-- Every join starts from the root or from the target of a join further left. -/
def Grounded (root : String) (joins : List Join) : Prop :=
  ∀ earlier join later, joins = earlier ++ join :: later → join.fromTable ∈ tables root earlier

section Tables

variable {root : String} {joins more : List Join}

theorem tables_append :
    tables root (joins ++ more) = tables root joins ++ more.map toTable := by
  rw [tables, tables, List.map_append, List.cons_append]

/-- Tables stay there when joins are added. -/
theorem tables_mono (hsubset : ∀ join ∈ joins, join ∈ more) {table : String}
    (hmem : table ∈ tables root joins) : table ∈ tables root more := by
  rcases List.mem_cons.1 hmem with rfl | hjoined
  · exact List.mem_cons_self
  · obtain ⟨join, hjoin, rfl⟩ := List.mem_map.1 hjoined
    exact List.mem_cons_of_mem root (List.mem_map_of_mem (hsubset join hjoin))

/-- A chain ends in a table that is there. -/
theorem Chain.mem_tables {first last : String} (hchain : Chain first joins last) :
    last ∈ tables first joins := by
  induction hchain with
  | nil table => exact List.mem_cons_self
  | cons join hrest ih => exact List.mem_cons_of_mem join.fromTable ih

/-- A chain ends in the last of its tables. -/
theorem Chain.getLast?_tables {first last : String} (hchain : Chain first joins last) :
    (tables first joins).getLast? = some last := by
  induction hchain with
  | nil table => rfl
  | cons join hrest ih =>
    rw [tables, List.map_cons, List.getLast?_cons_cons]
    exact ih

/-- A chain ends where its last join leads. -/
theorem Chain.eq_toTable {first last : String} {final : Join}
    (hchain : Chain first (joins ++ [final]) last) : last = final.toTable := by
  have hlast := hchain.getLast?_tables
  rw [tables_append, List.map_singleton, List.getLast?_concat] at hlast
  exact (Option.some.inj hlast).symm

/-- Different joins introduce different tables, unless they lead to the same table or to the
root. -/
theorem nodup_tables_iff (hdistinct : joins.Nodup) :
    (tables root joins).Nodup ↔ (∀ join ∈ joins, join.toTable ≠ root) ∧
      ∀ join ∈ joins, ∀ other ∈ joins, join.toTable = other.toTable → join = other := by
  have hroot : root ∉ joins.map toTable ↔ ∀ join ∈ joins, join.toTable ≠ root := by
    simp only [List.mem_map, not_exists, not_and, ne_eq]
  rw [tables, List.nodup_cons, List.nodup_map_iff_inj_on hdistinct, hroot]

end Tables

/-! ## First occurrences -/

/-- The joins of a list of hops, each once, in the order in which they occur there first. -/
structure FirstOccurrences (hops joins : List Join) : Prop where
  nodup : joins.Nodup
  mem_iff : ∀ join, join ∈ joins ↔ join ∈ hops
  order : joins.Pairwise fun earlier later => hops.idxOf earlier < hops.idxOf later

namespace FirstOccurrences

variable {hops joins : List Join}

/-- A hop that is added at the end does not move the first occurrences of the others. -/
theorem order_concat (hfirst : FirstOccurrences hops joins) (join : Join) :
    joins.Pairwise fun earlier later =>
      (hops ++ [join]).idxOf earlier < (hops ++ [join]).idxOf later := by
  refine hfirst.order.imp_of_mem ?_
  intro earlier later hearlier hlater hlt
  rwa [List.idxOf_append_of_mem ((hfirst.mem_iff earlier).1 hearlier),
    List.idxOf_append_of_mem ((hfirst.mem_iff later).1 hlater)]

/-- A hop that was taken before changes nothing. -/
theorem concat_of_mem (hfirst : FirstOccurrences hops joins) {join : Join} (hmem : join ∈ hops) :
    FirstOccurrences (hops ++ [join]) joins := by
  refine ⟨hfirst.nodup, ?_, hfirst.order_concat join⟩
  intro other
  rw [hfirst.mem_iff, List.mem_append, List.mem_singleton]
  constructor
  · exact .inl
  · rintro (hother | rfl)
    · exact hother
    · exact hmem

/-- A hop that is new is the last one to occur. -/
theorem concat_of_notMem (hfirst : FirstOccurrences hops joins) {join : Join}
    (hnew : join ∉ hops) : FirstOccurrences (hops ++ [join]) (joins ++ [join]) := by
  have hlast : join ∉ joins := fun hmem => hnew ((hfirst.mem_iff join).1 hmem)
  refine ⟨?_, ?_, ?_⟩
  · rw [← List.concat_eq_append, List.nodup_concat]
    exact ⟨hlast, hfirst.nodup⟩
  · intro other
    rw [List.mem_append, List.mem_append, hfirst.mem_iff]
  · rw [List.pairwise_append]
    refine ⟨hfirst.order_concat join, List.pairwise_singleton _ _, ?_⟩
    intro earlier hearlier last hmem
    have htaken := (hfirst.mem_iff earlier).1 hearlier
    rw [List.mem_singleton.1 hmem, List.idxOf_append_of_mem htaken,
      List.idxOf_append_of_notMem hnew]
    exact Nat.lt_add_right _ (List.idxOf_lt_length_of_mem htaken)

/-- Leaving out repetitions from the left keeps the first occurrences. -/
theorem eraseDups (hops : List Join) : FirstOccurrences hops hops.eraseDups := by
  induction hops using List.reverseRecOn with
  | nil => exact ⟨List.nodup_nil, fun _ => Iff.rfl, .nil⟩
  | append_singleton init join ih =>
    rw [Keyed.eraseDups_concat]
    split
    · rename_i hrepeated
      exact ih.concat_of_mem hrepeated
    · rename_i hnew
      exact ih.concat_of_notMem hnew

/-- The first occurrences of hops stand in one order only. -/
theorem eq_eraseDups (hfirst : FirstOccurrences hops joins) : joins = hops.eraseDups := by
  have hkept := FirstOccurrences.eraseDups hops
  have hperm : joins.Perm hops.eraseDups := by
    rw [List.perm_ext_iff_of_nodup hfirst.nodup hkept.nodup]
    intro join
    rw [hfirst.mem_iff, hkept.mem_iff]
  refine hperm.eq_of_pairwise ?_ hfirst.order hkept.order
  intro earlier later _ _ hlt hgt
  exact absurd hlt (Nat.lt_asymm hgt)

end FirstOccurrences

/-- The first occurrences of hops are what is left of them without repetitions. -/
theorem firstOccurrences_iff {hops joins : List Join} :
    FirstOccurrences hops joins ↔ joins = hops.eraseDups := by
  constructor
  · exact FirstOccurrences.eq_eraseDups
  · rintro rfl
    exact .eraseDups hops

/-! ## Collections -/

namespace Collection

variable {hops : List Join} {collection : Collection}

/-- What has been taken are the first occurrences of the hops, and what has been seen are the
hops. -/
structure Holds (hops : List Join) (collection : Collection) : Prop where
  taken : FirstOccurrences hops collection.joins
  seen : ∀ join, join ∈ collection.seen ↔ join ∈ hops

theorem holds_empty : Holds [] empty :=
  ⟨.eraseDups [], fun _ => Iff.rfl⟩

/-- One more hop is taken if it occurs for the first time. -/
theorem Holds.take (hholds : Holds hops collection) (join : Join) :
    Holds (hops ++ [join]) (collection.take join) := by
  unfold Collection.take
  split
  · rename_i hseen
    have hmem : join ∈ hops := (hholds.seen join).1 hseen
    refine ⟨hholds.taken.concat_of_mem hmem, fun other => ?_⟩
    rw [hholds.seen, List.mem_append, List.mem_singleton]
    constructor
    · exact .inl
    · rintro (hother | rfl)
      · exact hother
      · exact hmem
  · rename_i hunseen
    have hnew : join ∉ hops := fun hmem => hunseen ((hholds.seen join).2 hmem)
    refine ⟨hholds.taken.concat_of_notMem hnew, fun other => ?_⟩
    rw [List.mem_cons, hholds.seen, List.mem_append, List.mem_singleton, or_comm]

theorem Holds.takeAll (hholds : Holds hops collection) (more : List Join) :
    Holds (hops ++ more) (collection.takeAll more) := by
  induction more generalizing hops collection with
  | nil =>
    rw [List.append_nil]
    exact hholds
  | cons join more ih =>
    rw [← List.singleton_append, ← List.append_assoc]
    exact ih (hholds.take join)

/-- Hops that are taken one by one leave their first occurrences. -/
theorem joins_takeAll_empty (hops : List Join) : (empty.takeAll hops).joins = hops.eraseDups :=
  (holds_empty.takeAll hops).taken.eq_eraseDups

end Collection

/-! ## Grounded lists -/

namespace Grounded

variable {root : String} {joins : List Join}

theorem nil (root : String) : Grounded root [] := by
  intro earlier join later hsplit
  exact absurd hsplit.symm (List.append_ne_nil_of_right_ne_nil _ (List.cons_ne_nil _ _))

/-- A join starts from a table that is there. -/
theorem fromTable_mem (hgrounded : Grounded root joins) {join : Join} (hmem : join ∈ joins) :
    join.fromTable ∈ tables root joins := by
  obtain ⟨earlier, later, rfl⟩ := List.append_of_mem hmem
  have hfrom := hgrounded earlier join later rfl
  exact tables_mono (fun _ hearlier => List.mem_append_left _ hearlier) hfrom

/-- A list stays grounded exactly when what is added at its end starts from a table that is
there. -/
theorem concat_iff {join : Join} :
    Grounded root (joins ++ [join]) ↔ Grounded root joins ∧ join.fromTable ∈ tables root joins := by
  constructor
  · intro hgrounded
    refine ⟨?_, hgrounded joins join [] rfl⟩
    intro earlier inner later hsplit
    refine hgrounded earlier inner (later ++ [join]) ?_
    rw [hsplit, List.append_assoc, List.cons_append]
  · intro hboth earlier inner later hsplit
    obtain ⟨hgrounded, hfrom⟩ := hboth
    rcases List.eq_nil_or_concat later with rfl | ⟨init, last, rfl⟩
    · obtain ⟨rfl, hlast⟩ := List.append_inj' hsplit rfl
      rw [← List.singleton_inj.1 hlast]
      exact hfrom
    · rw [List.concat_eq_append, ← List.cons_append, ← List.append_assoc] at hsplit
      obtain ⟨hinit, -⟩ := List.append_inj' hsplit rfl
      exact hgrounded earlier inner init hinit

/-- A chain from a table that is there can be added. -/
theorem append_chain (hgrounded : Grounded root joins) {first last : String} {chain : List Join}
    (hchain : Chain first chain last) (hfirst : first ∈ tables root joins) :
    Grounded root (joins ++ chain) := by
  induction hchain generalizing joins with
  | nil table =>
    rw [List.append_nil]
    exact hgrounded
  | cons join hrest ih =>
    have hnext : join.toTable ∈ tables root (joins ++ [join]) := by
      rw [tables_append]
      exact List.mem_append_right _ List.mem_cons_self
    have hstep := ih (concat_iff.2 ⟨hgrounded, hfirst⟩) hnext
    rw [List.append_assoc, List.singleton_append] at hstep
    exact hstep

/-- Leaving out repetitions keeps a list grounded. -/
theorem eraseDups (hgrounded : Grounded root joins) : Grounded root joins.eraseDups := by
  induction joins using List.reverseRecOn with
  | nil => exact hgrounded
  | append_singleton init join ih =>
    obtain ⟨hinit, hfrom⟩ := concat_iff.1 hgrounded
    rw [Keyed.eraseDups_concat]
    split
    · exact ih hinit
    · have hthere : join.fromTable ∈ tables root init.eraseDups :=
        tables_mono (fun _ hmem => List.mem_eraseDups.2 hmem) hfrom
      exact concat_iff.2 ⟨ih hinit, hthere⟩

end Grounded

end TableQuery.Join
