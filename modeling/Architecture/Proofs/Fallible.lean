import Mathlib.Data.List.Forall2

/-!
# Steps that may fail

A computation in steps gives what its last step gives, if all steps before it have come off. A
list of steps comes off exactly if each of them does, and a search through a list exactly if
each step up to the first that finds something does.
-/

namespace Architecture

variable {ε α β : Type}

theorem bind_eq_ok_iff {x : Except ε α} {f : α → Except ε β} {b : β} :
    (x >>= f) = .ok b ↔ ∃ a, x = .ok a ∧ f a = .ok b := by
  cases x with
  | error e => simp [bind, Except.bind]
  | ok a => simp [bind, Except.bind]

theorem bind_eq_error_iff {x : Except ε α} {f : α → Except ε β} {e : ε} :
    (x >>= f) = .error e ↔ x = .error e ∨ ∃ a, x = .ok a ∧ f a = .error e := by
  cases x with
  | error e => simp [bind, Except.bind]
  | ok a => simp [bind, Except.bind]

theorem exists_bind_eq_ok {x : Except ε α} {f : α → Except ε β} (first : ∃ a, x = .ok a)
    (next : ∀ a, ∃ b, f a = .ok b) : ∃ b, (x >>= f) = .ok b := by
  obtain ⟨a, rfl⟩ := first
  exact next a

theorem map_eq_ok_iff {x : Except ε α} {f : α → β} {b : β} :
    x.map f = .ok b ↔ ∃ a, x = .ok a ∧ f a = b := by
  cases x <;> simp [Except.map]

theorem map_eq_error_iff {x : Except ε α} {f : α → β} {e : ε} :
    x.map f = .error e ↔ x = .error e := by
  cases x <;> simp [Except.map]

theorem mapM_eq_ok_iff {f : α → Except ε β} {xs : List α} {ys : List β} :
    xs.mapM f = .ok ys ↔ List.Forall₂ (fun x y => f x = .ok y) xs ys := by
  induction xs generalizing ys with
  | nil => simp [pure, Except.pure, eq_comm]
  | cons x rest inductionHypothesis =>
      simp only [List.mapM_cons, bind_eq_ok_iff, inductionHypothesis, List.forall₂_cons_left_iff]
      constructor
      · rintro ⟨y, first, others, follow, made⟩
        cases made
        exact ⟨y, others, first, follow, rfl⟩
      · rintro ⟨y, others, first, follow, rfl⟩
        exact ⟨y, first, others, follow, rfl⟩

theorem exists_right_of_forall₂ {related : α → β → Prop} {xs : List α} {ys : List β}
    (pairs : List.Forall₂ related xs ys) {x : α} (member : x ∈ xs) : ∃ y ∈ ys, related x y := by
  induction pairs with
  | nil => cases member
  | cons first _ inductionHypothesis =>
      rcases List.mem_cons.mp member with rfl | later
      · exact ⟨_, List.mem_cons_self, first⟩
      · obtain ⟨y, yMember, pair⟩ := inductionHypothesis later
        exact ⟨y, List.mem_cons_of_mem _ yMember, pair⟩

theorem exists_left_of_forall₂ {related : α → β → Prop} {xs : List α} {ys : List β}
    (pairs : List.Forall₂ related xs ys) {y : β} (member : y ∈ ys) : ∃ x ∈ xs, related x y :=
  exists_right_of_forall₂ (List.Forall₂.flip pairs) member

theorem mapM_congr {f g : α → Except ε β} {xs : List α} (same : ∀ x ∈ xs, f x = g x) :
    xs.mapM f = xs.mapM g := by
  induction xs with
  | nil => rfl
  | cons x rest inductionHypothesis =>
      rcases List.forall_mem_cons.mp same with ⟨first, others⟩
      rw [List.mapM_cons, List.mapM_cons, first, inductionHypothesis others]

theorem exists_mapM_eq_ok {f : α → Except ε β} {xs : List α}
    (each : ∀ x ∈ xs, ∃ y, f x = .ok y) : ∃ ys, xs.mapM f = .ok ys := by
  induction xs with
  | nil => exact ⟨[], rfl⟩
  | cons x rest inductionHypothesis =>
      rcases List.forall_mem_cons.mp each with ⟨⟨y, first⟩, others⟩
      obtain ⟨ys, follow⟩ := inductionHypothesis others
      exact ⟨y :: ys, by rw [List.mapM_cons, first, follow]; rfl⟩

/-! ### Searches -/

section Searches

variable {f g : α → Except ε (Option β)} {earlier later items : List α}

theorem findSomeM?_eq_none (nothing : ∀ item ∈ items, f item = .ok none) :
    items.findSomeM? f = .ok none := by
  induction items with
  | nil => rfl
  | cons item rest inductionHypothesis =>
      rcases List.forall_mem_cons.mp nothing with ⟨first, others⟩
      rw [List.findSomeM?, first]
      exact inductionHypothesis others

theorem findSomeM?_append_of_none (nothing : earlier.findSomeM? f = .ok none) :
    (earlier ++ later).findSomeM? f = later.findSomeM? f := by
  induction earlier with
  | nil => rfl
  | cons item rest inductionHypothesis =>
      rw [List.findSomeM?, bind_eq_ok_iff] at nothing
      obtain ⟨found, first, others⟩ := nothing
      cases found with
      | some value => cases others
      | none =>
          rw [List.cons_append, List.findSomeM?, first]
          exact inductionHypothesis others

theorem findSomeM?_append_of_ne (stops : earlier.findSomeM? f ≠ .ok none) :
    (earlier ++ later).findSomeM? f = earlier.findSomeM? f := by
  induction earlier with
  | nil => exact absurd rfl stops
  | cons item rest inductionHypothesis =>
      rw [List.cons_append, List.findSomeM?, List.findSomeM?]
      rw [List.findSomeM?] at stops
      cases first : f item with
      | error e => rfl
      | ok found =>
          rw [first] at stops
          cases found with
          | some value => rfl
          | none => exact inductionHypothesis stops

/-- A search fails that meets a failure before it finds anything. -/
theorem findSomeM?_eq_error {failure : ε} {item : α}
    (passed : ∀ other ∈ earlier, f other = .ok none ∨ f other = .error failure)
    (fails : f item = .error failure) :
    (earlier ++ item :: later).findSomeM? f = .error failure := by
  induction earlier with
  | nil => rw [List.nil_append, List.findSomeM?, fails]; rfl
  | cons other rest inductionHypothesis =>
      rcases List.forall_mem_cons.mp passed with ⟨first, others⟩
      rw [List.cons_append, List.findSomeM?]
      rcases first with skipped | failed
      · rw [skipped]
        exact inductionHypothesis others
      · rw [failed]
        rfl

theorem exists_findSomeM?_eq_ok (each : ∀ item ∈ items, ∃ found, f item = .ok found) :
    ∃ found, items.findSomeM? f = .ok found := by
  induction items with
  | nil => exact ⟨none, rfl⟩
  | cons item rest inductionHypothesis =>
      rcases List.forall_mem_cons.mp each with ⟨⟨found, first⟩, others⟩
      rw [List.findSomeM?, first]
      cases found with
      | some value => exact ⟨some value, rfl⟩
      | none => exact inductionHypothesis others

/-- Where a search does not fail in a certain way, it comes to the same with steps that may differ
where they do. -/
theorem findSomeM?_eq_of_ne (failure : ε)
    (same : ∀ item ∈ items, f item ≠ .error failure → g item = f item)
    (ended : items.findSomeM? f ≠ .error failure) :
    items.findSomeM? g = items.findSomeM? f := by
  induction items with
  | nil => rfl
  | cons item rest inductionHypothesis =>
      rcases List.forall_mem_cons.mp same with ⟨first, others⟩
      rw [List.findSomeM?] at ended
      have firstEnded : f item ≠ .error failure := by
        intro failed
        rw [failed] at ended
        exact ended rfl
      rw [List.findSomeM?, List.findSomeM?, first firstEnded]
      cases found : f item with
      | error e => rfl
      | ok found? =>
          rw [found] at ended
          cases found? with
          | some value => rfl
          | none => exact inductionHypothesis others ended

end Searches

end Architecture
