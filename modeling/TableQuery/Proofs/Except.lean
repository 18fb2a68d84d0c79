import Mathlib.Data.List.Forall2

/-!
# Opening computations that may fail

Resolution, checking and decoding all run in `Except`.  The lemmas here take a run that has
succeeded apart into its steps, so that a proof about a function in `do` notation names the results
of the steps and never unfolds the monad.
-/

namespace TableQuery.Except

variable {ε α β : Type}

/-- A sequence that succeeded ran both of its steps. -/
theorem bind_eq_ok {x : Except ε α} {f : α → Except ε β} {b : β} :
    (x >>= f) = .ok b ↔ ∃ a, x = .ok a ∧ f a = .ok b := by
  cases x <;> simp [bind, Except.bind]

/-- A sequence that failed did so in one of its steps. -/
theorem bind_eq_error {x : Except ε α} {f : α → Except ε β} {failure : ε} :
    (x >>= f) = .error failure ↔ x = .error failure ∨ ∃ a, x = .ok a ∧ f a = .error failure := by
  cases x <;> simp [bind, Except.bind]

/-- A mapped computation succeeds with the image of what it maps. -/
theorem map_eq_ok {x : Except ε α} {f : α → β} {b : β} :
    x.map f = .ok b ↔ ∃ a, x = .ok a ∧ f a = b := by
  cases x <;> simp [Except.map]

/-- A mapped computation fails as what it maps. -/
theorem map_eq_error {x : Except ε α} {f : α → β} {failure : ε} :
    x.map f = .error failure ↔ x = .error failure := by
  cases x <;> simp [Except.map]

/-- Another wording of failures leaves the results as they are. -/
theorem mapError_eq_ok {δ : Type} {x : Except ε α} {f : ε → δ} {a : α} :
    x.mapError f = .ok a ↔ x = .ok a := by
  cases x <;> simp [Except.mapError]

/-- A computation over a list succeeds when it does so on every element. -/
theorem mapM_eq_ok {f : α → Except ε β} {xs : List α} {ys : List β} :
    xs.mapM f = .ok ys ↔ List.Forall₂ (fun x y => f x = .ok y) xs ys := by
  induction xs generalizing ys with
  | nil => cases ys <;> simp [pure, Except.pure]
  | cons x xs ih =>
    rw [List.mapM_cons, bind_eq_ok]
    constructor
    · intro hrun
      obtain ⟨y, hy, hrest⟩ := hrun
      obtain ⟨ys', hys, heq⟩ := bind_eq_ok.1 hrest
      cases heq
      exact .cons hy (ih.1 hys)
    · intro hall
      cases hall with
      | @cons _ y _ ys hy hys =>
        exact ⟨y, hy, bind_eq_ok.2 ⟨ys, ih.2 hys, rfl⟩⟩

/-- A check of a list succeeds when it does so on every element. -/
theorem forM_eq_ok {f : α → Except ε Unit} {xs : List α} :
    xs.forM f = .ok () ↔ ∀ x ∈ xs, f x = .ok () := by
  induction xs with
  | nil =>
    constructor
    · intro _ x hx
      cases hx
    · intro _
      rfl
  | cons x xs ih =>
    rw [List.forall_mem_cons, ← ih]
    constructor
    · intro hrun
      obtain ⟨_, hfirst, hrest⟩ := bind_eq_ok.1 hrun
      exact ⟨hfirst, hrest⟩
    · intro hsteps
      exact bind_eq_ok.2 ⟨(), hsteps⟩

/-- A computation that succeeds on every element has results for the list. -/
theorem exists_mapM_eq_ok {f : α → Except ε β} {xs : List α}
    (hall : ∀ x ∈ xs, ∃ y, f x = .ok y) : ∃ ys, xs.mapM f = .ok ys := by
  induction xs with
  | nil => exact ⟨[], rfl⟩
  | cons x xs ih =>
    rw [List.forall_mem_cons] at hall
    obtain ⟨y, hy⟩ := hall.1
    obtain ⟨ys, hys⟩ := ih hall.2
    exact ⟨y :: ys, mapM_eq_ok.2 (.cons hy (mapM_eq_ok.1 hys))⟩

/-- Computations that are the same on every element are the same over the list. -/
theorem mapM_congr {f g : α → Except ε β} {xs : List α} (hsame : ∀ x ∈ xs, f x = g x) :
    xs.mapM f = xs.mapM g := by
  induction xs with
  | nil => rfl
  | cons x xs ih =>
    rw [List.forall_mem_cons] at hsame
    rw [List.mapM_cons, List.mapM_cons, hsame.1, ih hsame.2]

/-- A computation over a list fails where it fails first. -/
theorem mapM_eq_error {f : α → Except ε β} {xs : List α} {failure : ε} :
    xs.mapM f = .error failure ↔ ∃ before x after, xs = before ++ x :: after ∧
      (∀ y ∈ before, ∃ b, f y = .ok b) ∧ f x = .error failure := by
  induction xs with
  | nil =>
    constructor
    · intro hrun
      cases hrun
    · intro hfirst
      obtain ⟨before, x, after, hsplit, -⟩ := hfirst
      exact absurd hsplit.symm (List.append_ne_nil_of_right_ne_nil _ (List.cons_ne_nil _ _))
  | cons x xs ih =>
    rw [List.mapM_cons, bind_eq_error]
    constructor
    · intro hrun
      rcases hrun with hx | ⟨y, hy, hlater⟩
      · exact ⟨[], x, xs, rfl, by simp, hx⟩
      · rcases bind_eq_error.1 hlater with hrest | ⟨ys, -, hpure⟩
        · obtain ⟨before, z, after, rfl, hbefore, hz⟩ := ih.1 hrest
          exact ⟨x :: before, z, after, rfl, List.forall_mem_cons.2 ⟨⟨y, hy⟩, hbefore⟩, hz⟩
        · cases hpure
    · intro hfirst
      obtain ⟨before, z, after, hsplit, hbefore, hz⟩ := hfirst
      cases before with
      | nil =>
        obtain ⟨rfl, -⟩ := List.cons.inj hsplit
        exact .inl hz
      | cons y before =>
        obtain ⟨rfl, rfl⟩ := List.cons.inj hsplit
        rw [List.forall_mem_cons] at hbefore
        obtain ⟨⟨b, hb⟩, hbefore⟩ := hbefore
        exact .inr ⟨b, hb, bind_eq_error.2 (.inl (ih.2 ⟨before, z, after, rfl, hbefore, hz⟩))⟩

/-- What every step of a computation preserves holds of its result. -/
theorem of_foldlM_eq_ok (holds : β → Prop) {f : β → α → Except ε β} {xs : List α} {b result : β}
    (hstep : ∀ b a next, holds b → f b a = .ok next → holds next) (hfirst : holds b)
    (hrun : xs.foldlM f b = .ok result) : holds result := by
  induction xs generalizing b with
  | nil =>
    cases hrun
    exact hfirst
  | cons x xs ih =>
    rw [List.foldlM_cons] at hrun
    obtain ⟨next, hnext, hrest⟩ := bind_eq_ok.1 hrun
    exact ih (hstep b x next hfirst hnext) hrest

/-- A fold that reads each element before it uses it may read all of them first. -/
theorem foldlM_eq_map_mapM {γ : Type} {f : α → Except ε β} {g : γ → β → γ} (xs : List α) (c : γ) :
    xs.foldlM (fun c x => (f x).map (g c)) c = (xs.mapM f).map (List.foldl g c) := by
  induction xs generalizing c with
  | nil => rfl
  | cons x xs ih =>
    rw [List.foldlM_cons, List.mapM_cons]
    cases f x with
    | error failure => rfl
    | ok y =>
      show xs.foldlM (fun c x => (f x).map (g c)) (g c y) = _
      rw [ih]
      cases xs.mapM f <;> rfl

/-- Every result of a computation over a list comes from one of its elements. -/
theorem exists_of_mem {R : α → β → Prop} {xs : List α} {ys : List β} (hall : List.Forall₂ R xs ys)
    {y : β} (hy : y ∈ ys) : ∃ x ∈ xs, R x y := by
  induction hall with
  | nil => cases hy
  | @cons x y' _ _ hfirst hrest ih =>
    rcases List.mem_cons.1 hy with rfl | hlater
    · exact ⟨x, List.mem_cons_self, hfirst⟩
    · obtain ⟨x', hmem, hx'⟩ := ih hlater
      exact ⟨x', List.mem_cons_of_mem x hmem, hx'⟩

/-- Every element has a result. -/
theorem exists_of_mem_left {R : α → β → Prop} {xs : List α} {ys : List β}
    (hall : List.Forall₂ R xs ys) {x : α} (hx : x ∈ xs) : ∃ y ∈ ys, R x y := by
  induction hall with
  | nil => cases hx
  | @cons _ y _ _ hfirst hrest ih =>
    rcases List.mem_cons.1 hx with rfl | hlater
    · exact ⟨y, List.mem_cons_self, hfirst⟩
    · obtain ⟨y', hmem, hy'⟩ := ih hlater
      exact ⟨y', List.mem_cons_of_mem y hmem, hy'⟩

/-! ## Computations that succeed together -/

/-- Both computations fail, or both succeed and the second result is the image of the first. -/
inductive Matches (f : α → β) : Except ε α → Except ε β → Prop where
  | ok (a : α) : Matches f (.ok a) (.ok (f a))
  | error (first second : ε) : Matches f (.error first) (.error second)

theorem Matches.refl (x : Except ε α) : Matches id x x := by
  cases x with
  | error failure => exact .error failure failure
  | ok a => exact .ok a

/-- Computations match when they succeed with the same results. -/
theorem Matches.of_ok_iff {x y : Except ε α} (hsame : ∀ a, x = .ok a ↔ y = .ok a) :
    Matches id x y := by
  cases x with
  | ok a =>
    rw [(hsame a).1 rfl]
    exact .ok a
  | error first =>
    cases y with
    | ok a => cases (hsame a).2 rfl
    | error second => exact .error first second

/-- Computations that match succeed with the same results. -/
theorem Matches.ok_iff {x y : Except ε α} (hmatches : Matches id x y) {a : α} :
    x = .ok a ↔ y = .ok a := by
  cases hmatches with
  | ok b => exact Iff.rfl
  | error first second => exact ⟨nofun, nofun⟩

/-- Computations match step by step. -/
theorem Matches.bind {γ δ : Type} {f : α → β} {g : γ → δ} {x : Except ε α} {y : Except ε β}
    {k : α → Except ε γ} {l : β → Except ε δ} (hfirst : Matches f x y)
    (hnext : ∀ a, Matches g (k a) (l (f a))) : Matches g (x >>= k) (y >>= l) := by
  cases hfirst with
  | ok a => exact hnext a
  | error first second => exact .error first second

/-! ## Computations that decide -/

/-- The computation succeeds if a condition holds, and fails with one of some reports if not. -/
inductive Decides (reports : ε → Prop) (sound : Prop) : Except ε α → Prop where
  | ok (hsound : sound) (a : α) : Decides reports sound (.ok a)
  | error (hfaulty : ¬sound) {failure : ε} (hreport : reports failure) :
      Decides reports sound (.error failure)

namespace Decides

variable {reports : ε → Prop} {sound other : Prop} {x : Except ε α}

theorem ok_iff (hx : Decides reports sound x) : (∃ a, x = .ok a) ↔ sound := by
  cases hx with
  | ok hsound a => exact ⟨fun _ => hsound, fun _ => ⟨a, rfl⟩⟩
  | error hfaulty hreport =>
    constructor
    · intro hok
      obtain ⟨a, heq⟩ := hok
      cases heq
    · intro hsound
      exact absurd hsound hfaulty

theorem error_iff (hx : Decides reports sound x) :
    (∃ failure, x = .error failure ∧ reports failure) ↔ ¬sound := by
  cases hx with
  | ok hsound a =>
    constructor
    · intro herror
      obtain ⟨failure, heq, -⟩ := herror
      cases heq
    · intro hfaulty
      exact absurd hsound hfaulty
  | error hfaulty hreport => exact ⟨fun _ => hfaulty, fun _ => ⟨_, rfl, hreport⟩⟩

/-- Every failure is one of the reports. -/
theorem report (hx : Decides reports sound x) {failure : ε} (hfailed : x = .error failure) :
    reports failure := by
  cases hx with
  | ok hsound a => cases hfailed
  | error hfaulty hreport =>
    cases hfailed
    exact hreport

/-- A condition may be replaced by an equivalent one. -/
theorem congr (hx : Decides reports sound x) (hiff : sound ↔ other) : Decides reports other x := by
  rw [← hiff]
  exact hx

/-- A sequence decides what both of its steps do. -/
theorem bind {f : α → Except ε β} (hx : Decides reports sound x)
    (hnext : ∀ a, Decides reports other (f a)) : Decides reports (sound ∧ other) (x >>= f) := by
  cases hx with
  | ok hsound a => exact (hnext a).congr ⟨fun hother => ⟨hsound, hother⟩, And.right⟩
  | error hfaulty hreport => exact .error (fun hboth => hfaulty hboth.1) hreport

theorem map (f : α → β) (hx : Decides reports sound x) : Decides reports sound (x.map f) := by
  cases hx with
  | ok hsound a => exact .ok hsound (f a)
  | error hfaulty hreport => exact .error hfaulty hreport

/-- Steps that cannot fail decide nothing further. -/
theorem bind_ok {f : α → Except ε β} (hx : Decides reports sound x)
    (hnext : ∀ a, ∃ b, f a = .ok b) : Decides reports sound (x >>= f) := by
  cases hx with
  | ok hsound a =>
    obtain ⟨b, hb⟩ := hnext a
    show Decides reports sound (f a)
    rw [hb]
    exact .ok hsound b
  | error hfaulty hreport => exact .error hfaulty hreport

/-- A computation over a list decides what it does for each element. -/
theorem mapM {holds : α → Prop} {f : α → Except ε β} {xs : List α}
    (hall : ∀ x ∈ xs, Decides reports (holds x) (f x)) :
    Decides reports (∀ x ∈ xs, holds x) (xs.mapM f) := by
  induction xs with
  | nil => exact .ok (fun _ hx => nomatch hx) []
  | cons x xs ih =>
    rw [List.forall_mem_cons] at hall
    rw [List.mapM_cons]
    refine Decides.congr ?_ List.forall_mem_cons.symm
    exact hall.1.bind fun y => (ih hall.2).bind_ok fun ys => ⟨_, rfl⟩

/-- A check of a list decides what it does for each element. -/
theorem forM {holds : α → Prop} {f : α → Except ε Unit} {xs : List α}
    (hall : ∀ x ∈ xs, Decides reports (holds x) (f x)) :
    Decides reports (∀ x ∈ xs, holds x) (xs.forM f) := by
  induction xs with
  | nil => exact .ok (fun _ hx => nomatch hx) ()
  | cons x xs ih =>
    rw [List.forall_mem_cons] at hall
    exact (hall.1.bind fun _ => ih hall.2).congr List.forall_mem_cons.symm

end Decides

end TableQuery.Except
