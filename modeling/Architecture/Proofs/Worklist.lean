/-!
# Searches with a queue and marks

A search takes elements from the front of a queue. One whose mark is known already
is dropped. Any other is marked and followed up: what comes next after it joins the
end of the queue. Where several elements share a mark, only the first of them to be
taken is followed up, so marks stand for all that can be met only if such elements
lead on to the same marks.
-/

namespace Architecture.Worklist

variable {α β : Type} (mark : α → β) (next : α → List α) (visit : α → Prop)

/-- What can be met from a queue. -/
inductive Reachable (queue : List α) : α → Prop where
  | queued {a : α} : a ∈ queue → Reachable queue a
  | step {a b : α} : Reachable queue a → b ∈ next a → Reachable queue b

/-- A search that has come to its end, from the marks and the queue it started with
to its final marks. All elements that it followed up meet a condition. -/
inductive Search : List β → List α → List β → Prop where
  | done {marked : List β} : Search marked [] marked
  | skip {marked final : List β} {a : α} {queue : List α} : mark a ∈ marked →
      Search marked queue final → Search marked (a :: queue) final
  | follow {marked final : List β} {a : α} {queue : List α} : mark a ∉ marked → visit a →
      Search (mark a :: marked) (queue ++ next a) final → Search marked (a :: queue) final

variable {mark next visit} {marked final : List β} {queue : List α}

theorem Reachable.of_queue {start : List α} {a : α} (reached : Reachable next queue a)
    (met : ∀ b ∈ queue, Reachable next start b) : Reachable next start a := by
  induction reached with
  | queued member => exact met _ member
  | step _ member inductionHypothesis => exact .step inductionHypothesis member

theorem Reachable.cons {a b : α} (reached : Reachable next queue b) :
    Reachable next (a :: queue) b :=
  reached.of_queue fun _ member => .queued (List.mem_cons_of_mem a member)

theorem Reachable.followed {a b : α} (reached : Reachable next (queue ++ next a) b) :
    Reachable next (a :: queue) b := by
  refine reached.of_queue ?_
  intro c member
  rcases List.mem_append.mp member with queued | new
  · exact .queued (List.mem_cons_of_mem a queued)
  · exact .step (.queued List.mem_cons_self) new

namespace Search

theorem marked_subset (search : Search mark next visit marked queue final) : marked ⊆ final := by
  induction search with
  | done => exact List.Subset.refl _
  | skip _ _ inductionHypothesis => exact inductionHypothesis
  | follow _ _ _ inductionHypothesis =>
      exact List.Subset.trans (List.subset_cons_self _ _) inductionHypothesis

theorem mark_mem (search : Search mark next visit marked queue final) :
    ∀ a ∈ queue, mark a ∈ final := by
  induction search with
  | done => simp
  | skip known search inductionHypothesis =>
      exact List.forall_mem_cons.mpr ⟨search.marked_subset known, inductionHypothesis⟩
  | follow _ _ search inductionHypothesis =>
      refine List.forall_mem_cons.mpr ⟨search.marked_subset (List.mem_cons_self), ?_⟩
      exact fun b member => inductionHypothesis b (List.mem_append_left _ member)

theorem mem_marked_or_exists_followed (search : Search mark next visit marked queue final) :
    ∀ m ∈ final, m ∈ marked ∨ ∃ a, Reachable next queue a ∧ mark a = m ∧ visit a ∧
      ∀ b ∈ next a, mark b ∈ final := by
  induction search with
  | done => exact fun m member => .inl member
  | skip _ _ inductionHypothesis =>
      intro m member
      refine (inductionHypothesis m member).imp_right ?_
      rintro ⟨b, reached, followed⟩
      exact ⟨b, reached.cons, followed⟩
  | @follow _ _ a queue _ visited search inductionHypothesis =>
      intro m member
      rcases inductionHypothesis m member with known | ⟨b, reached, followed⟩
      · rcases List.mem_cons.mp known with rfl | known
        · -- What comes next after `a` has joined the queue, and a search marks its whole queue.
          refine .inr ⟨a, .queued List.mem_cons_self, rfl, visited, ?_⟩
          exact fun c member => search.mark_mem c (List.mem_append_right _ member)
        · exact .inl known
      · exact .inr ⟨b, reached.followed, followed⟩

/-- Every mark was set for an element that was met and followed up to its end. -/
theorem exists_followed (search : Search mark next visit [] queue final) {m : β}
    (member : m ∈ final) :
    ∃ a, Reachable next queue a ∧ mark a = m ∧ visit a ∧ ∀ b ∈ next a, mark b ∈ final :=
  (search.mem_marked_or_exists_followed m member).resolve_left List.not_mem_nil

/-- If elements that share a mark lead on to the same marks, all that can be met is
marked, and nothing else. -/
theorem mem_iff (search : Search mark next visit [] queue final)
    (alike : ∀ a b, Reachable next queue a → Reachable next queue b → mark a = mark b →
      (next a).map mark ⊆ (next b).map mark) (m : β) :
    m ∈ final ↔ ∃ a, Reachable next queue a ∧ mark a = m := by
  constructor
  · intro member
    rcases search.exists_followed member with ⟨a, reached, sameMark, _⟩
    exact ⟨a, reached, sameMark⟩
  · rintro ⟨a, reached, rfl⟩
    induction reached with
    | queued member => exact search.mark_mem _ member
    | @step a b reached member inductionHypothesis =>
        -- It need not be `a` that was followed up, but something of the same mark was.
        rcases search.exists_followed inductionHypothesis with ⟨c, met, sameMark, _, led⟩
        have shared := alike a c reached met sameMark.symm (List.mem_map_of_mem member)
        rcases List.mem_map.mp shared with ⟨d, dMember, sameNext⟩
        rw [← sameNext]
        exact led d dMember

end Search

end Architecture.Worklist
