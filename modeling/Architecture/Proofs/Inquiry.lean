import Architecture.References.Inquiry

/-!
# Outcomes of inquiries

Taking the outcome of an inquiry commutes with sequencing, so a rule that is
written as a sequence of questions has a plain list function as its outcome.
-/

namespace Architecture.Inquiry

variable {α β : Type}

@[simp]
theorem value_pure (a : α) : (pure a : Inquiry α).value = a := rfl

@[simp]
theorem value_bind (x : Inquiry α) (f : α → Inquiry β) :
    (x >>= f).value = (f x.value).value := by
  induction x with
  | done a => rfl
  | ask q next inductionHypothesis => exact inductionHypothesis q.references

@[simp]
theorem value_map (f : α → β) (x : Inquiry α) : (f <$> x).value = f x.value := by
  rw [map_eq_pure_bind, value_bind, value_pure]

@[simp]
theorem value_mapM (f : β → Inquiry α) (items : List β) :
    (items.mapM f).value = items.map fun item => (f item).value := by
  induction items with
  | nil => rfl
  | cons item rest inductionHypothesis =>
      simp [List.mapM_cons, inductionHypothesis]

@[simp]
theorem value_foldlM (f : α → β → Inquiry α) (start : α) (items : List β) :
    (items.foldlM f start).value =
      items.foldl (fun a item => (f a item).value) start := by
  induction items generalizing start with
  | nil => rfl
  | cons item rest inductionHypothesis =>
      simp [List.foldlM_cons, inductionHypothesis]

end Architecture.Inquiry
