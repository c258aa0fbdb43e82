import Architecture.Files.Walk

/-!
# Computations that only read

A computation that leaves all files as they are has a value in each world, and the value of
a sequence is found by taking values one after another in the same world.
-/

namespace Architecture.Files

variable {α β ε : Type}

/-- The computation leaves all files as they are. -/
def IsReadOnly (x : StateM World α) : Prop := ∀ w, (x.run w).2 = w

/-- The value of a computation in a world. -/
def valueIn (w : World) (x : StateM World α) : α := (x.run w).1

theorem IsReadOnly.valueIn_bind {x : StateM World α} (readOnly : IsReadOnly x)
    (f : α → StateM World β) (w : World) :
    valueIn w (x >>= f) = valueIn w (f (valueIn w x)) := by
  have unfolded : (x >>= f).run w = (f (x.run w).1).run (x.run w).2 := rfl
  rw [valueIn, unfolded, readOnly w]
  rfl

namespace IsReadOnly

theorem pure (a : α) : IsReadOnly (pure a) := fun _ => rfl

theorem bind {x : StateM World α} {f : α → StateM World β} (first : IsReadOnly x)
    (rest : ∀ a, IsReadOnly (f a)) : IsReadOnly (x >>= f) := by
  intro w
  have unfolded : (x >>= f).run w = (f (x.run w).1).run (x.run w).2 := rfl
  rw [unfolded, first w]
  exact rest _ w

theorem kind? (path : String) : IsReadOnly (FileAccess.kind? path) := fun _ => rfl

theorem readText (path : String) : IsReadOnly (FileAccess.readText path) := fun _ => rfl

theorem names (path : String) : IsReadOnly (FileAccess.names path) := fun _ => rfl

theorem current : IsReadOnly FileAccess.current := fun _ => rfl

theorem mapM {xs : List α} {f : α → StateM World β} (each : ∀ x ∈ xs, IsReadOnly (f x)) :
    IsReadOnly (xs.mapM f) := by
  induction xs with
  | nil => exact pure []
  | cons x rest inductionHypothesis =>
      rcases List.forall_mem_cons.mp each with ⟨first, others⟩
      rw [List.mapM_cons]
      exact first.bind fun _ => (inductionHypothesis others).bind fun _ => pure _

theorem findM? {xs : List α} {p : α → StateM World Bool} (each : ∀ x ∈ xs, IsReadOnly (p x)) :
    IsReadOnly (xs.findM? p) := by
  induction xs with
  | nil => exact pure none
  | cons x rest inductionHypothesis =>
      rcases List.forall_mem_cons.mp each with ⟨first, others⟩
      refine first.bind ?_
      intro found
      cases found with
      | true => exact pure (some x)
      | false => exact inductionHypothesis others

theorem isFile (path : String) : IsReadOnly (isFile path) := (kind? path).bind fun _ => pure _

theorem pathExists (path : String) : IsReadOnly (pathExists path) :=
  (kind? path).bind fun _ => pure _

theorem absolutePieces (path : String) : IsReadOnly (absolutePieces path) :=
  current.bind fun _ => pure _

section Walks

variable [PathNotations]

theorem rulesOf (path : String) : IsReadOnly (rulesOf path) := by
  refine (readText path).bind ?_
  intro found
  cases found <;> exact pure _

theorem levelOf (path : String) (home : List String) : IsReadOnly (levelOf path home) :=
  (rulesOf _).bind fun _ => (rulesOf _).bind fun _ => (rulesOf _).bind fun _ =>
    (pathExists _).bind fun _ => pure _

theorem levelsAbove (home : List String) : IsReadOnly (levelsAbove home) :=
  mapM fun _ _ => levelOf _ _

theorem filesBelow (depth : Nat) (levels : List Level) (path : String) (home : List String) :
    IsReadOnly (filesBelow depth levels path home) := by
  induction depth generalizing levels path home with
  | zero => exact pure []
  | succ depth inductionHypothesis =>
      refine (levelOf path home).bind fun level => (names path).bind fun found => ?_
      refine (mapM ?_).bind fun _ => pure _
      intro name _
      refine (kind? _).bind ?_
      rintro (_ | _ | _)
      · exact pure []
      · exact pure _
      · dsimp only
        split
        next => exact pure []
        next => exact (inductionHypothesis _ _ _).bind fun _ => pure _

theorem walk (path : String) : IsReadOnly (walk path) := by
  refine (kind? path).bind ?_
  rintro (_ | _ | _)
  · exact pure _
  · exact pure _
  · exact (absolutePieces path).bind fun home => (levelsAbove home).bind fun levels =>
      (filesBelow _ _ _ _).bind fun _ => pure _

end Walks

variable {x : ExceptT ε (StateM World) α}

theorem run_pure (a : α) : IsReadOnly (Pure.pure a : ExceptT ε (StateM World) α).run := pure _

theorem run_throw (e : ε) : IsReadOnly (throw e : ExceptT ε (StateM World) α).run := pure _

theorem run_lift {y : StateM World α} (readOnly : IsReadOnly y) :
    IsReadOnly (liftM y : ExceptT ε (StateM World) α).run :=
  readOnly.bind fun _ => pure _

theorem run_bind {f : α → ExceptT ε (StateM World) β} (first : IsReadOnly x.run)
    (rest : ∀ a, IsReadOnly (f a).run) : IsReadOnly (x >>= f).run := by
  rw [ExceptT.run_bind]
  refine first.bind ?_
  rintro (e | a)
  · exact pure _
  · exact rest a

theorem run_mapM {xs : List α} {f : α → ExceptT ε (StateM World) β}
    (each : ∀ x ∈ xs, IsReadOnly (f x).run) : IsReadOnly (xs.mapM f).run := by
  induction xs with
  | nil => exact run_pure []
  | cons x rest inductionHypothesis =>
      rcases List.forall_mem_cons.mp each with ⟨first, others⟩
      rw [List.mapM_cons]
      exact first.run_bind fun _ => (inductionHypothesis others).run_bind fun _ => run_pure _

/-- A first part that cannot fail gives its value to the rest. -/
theorem valueIn_run_lift_bind {y : StateM World α} (first : IsReadOnly y)
    (f : α → ExceptT ε (StateM World) β) (w : World) :
    valueIn w (liftM y >>= f).run = valueIn w (f (valueIn w y)).run := by
  have split : (liftM y >>= f).run = y >>= fun a => (f a).run := ExceptT.run_bind_lift y f
  rw [split]
  exact first.valueIn_bind _ w

/-- A sequence that may fail is one of values that may fail. -/
theorem valueIn_run_bind (first : IsReadOnly x.run) (f : α → ExceptT ε (StateM World) β)
    (w : World) :
    valueIn w (x >>= f).run = (valueIn w x.run >>= fun a => valueIn w (f a).run) := by
  rw [ExceptT.run_bind, first.valueIn_bind]
  cases valueIn w x.run with
  | error e => rfl
  | ok a => rfl

end IsReadOnly

@[simp]
theorem valueIn_run_pure (w : World) (a : α) :
    valueIn w (pure a : ExceptT ε (StateM World) α).run = .ok a := rfl

theorem valueIn_run_mapM {xs : List α} {f : α → ExceptT ε (StateM World) β}
    (each : ∀ x ∈ xs, IsReadOnly (f x).run) (w : World) :
    valueIn w (xs.mapM f).run = xs.mapM fun x => valueIn w (f x).run := by
  induction xs with
  | nil => rfl
  | cons x rest inductionHypothesis =>
      rcases List.forall_mem_cons.mp each with ⟨first, others⟩
      have readOnly := IsReadOnly.run_mapM others
      rw [List.mapM_cons, List.mapM_cons, first.valueIn_run_bind]
      simp only [readOnly.valueIn_run_bind, inductionHypothesis others, valueIn_run_pure]
      rfl

@[simp]
theorem valueIn_readText (w : World) (path : String) :
    valueIn w (FileAccess.readText path) = w.readText path := rfl

@[simp]
theorem valueIn_isFile (w : World) (path : String) :
    valueIn w (isFile path) = decide (w.kind? path = some .file) := rfl

@[simp]
theorem valueIn_pathExists (w : World) (path : String) :
    valueIn w (pathExists path) = (w.kind? path).isSome := rfl

theorem valueIn_findM? {xs : List α} {p : α → StateM World Bool}
    (each : ∀ x ∈ xs, IsReadOnly (p x)) (w : World) :
    valueIn w (xs.findM? p) = xs.find? fun x => valueIn w (p x) := by
  induction xs with
  | nil => rfl
  | cons x rest inductionHypothesis =>
      rcases List.forall_mem_cons.mp each with ⟨first, others⟩
      rw [List.findM?, first.valueIn_bind, List.find?_cons]
      cases valueIn w (p x) with
      | true => rfl
      | false => exact inductionHypothesis others

end Architecture.Files
