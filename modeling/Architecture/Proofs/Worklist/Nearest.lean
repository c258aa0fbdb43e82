import Architecture.Proofs.Worklist
import Mathlib.Data.List.Shortlex

/-!
# The nearest goal

A search that stops at its first goal goes through its elements breadth first. What it
finds is the goal at the end of the least way: shorter ways come before longer ones, and
ways of one length are compared step by step. An element whose mark is known is dropped,
and nothing is lost by that, because whatever it leads to can be reached in fewer steps
from an element that is still in the queue.
-/

namespace Architecture.Worklist

variable {α β γ : Type} (mark : α → β) (next : α → List α) (goal : α → Option γ)

/-- A search that has come to its end, with the goal of the first element that has one. -/
inductive Finds : List β → List α → Option γ → Prop where
  | exhausted {marked : List β} : Finds marked [] none
  | skip {marked : List β} {a : α} {queue : List α} {outcome : Option γ} : mark a ∈ marked →
      Finds marked queue outcome → Finds marked (a :: queue) outcome
  | here {marked : List β} {a : α} {queue : List α} {c : γ} : mark a ∉ marked → goal a = some c →
      Finds marked (a :: queue) (some c)
  | follow {marked : List β} {a : α} {queue : List α} {outcome : Option γ} : mark a ∉ marked →
      goal a = none → Finds (mark a :: marked) (queue ++ next a) outcome →
      Finds marked (a :: queue) outcome

/-- A way from one element to another. Each step is a position among what comes next. -/
inductive Leads : α → List Nat → α → Prop where
  | stay {a : α} : Leads a [] a
  | step {a b c : α} {i : Nat} {way : List Nat} : (next a)[i]? = some b → Leads b way c →
      Leads a (i :: way) c

/-- The first goal that is a given number of steps away. -/
def goalAt : Nat → α → Option γ
  | 0, a => goal a
  | k + 1, a => (next a).findSome? (goalAt k)

/-- The first goal at the least number of steps from a queue. -/
structure Nearest (queue : List α) (k : Nat) (c : γ) : Prop where
  found : queue.findSome? (goalAt next goal k) = some c
  earlier : ∀ j < k, queue.findSome? (goalAt next goal j) = none

variable {mark next goal} {marked : List β} {queue start : List α} {a b : α} {c : γ}
  {outcome : Option γ} {k : Nat} {way : List Nat}

theorem Leads.reachable (leads : Leads next a way b) (met : Reachable next start a) :
    Reachable next start b := by
  induction leads with
  | stay => exact met
  | step first _ inductionHypothesis =>
      apply inductionHypothesis
      exact .step met (List.mem_of_getElem? first)

theorem goalAt_succ_eq_none_iff :
    goalAt next goal (k + 1) a = none ↔ ∀ b ∈ next a, goalAt next goal k b = none := by
  rw [goalAt, List.findSome?_eq_none_iff]

theorem goalAt_eq_none_iff :
    goalAt next goal k a = none ↔
      ∀ way b, Leads next a way b → way.length = k → goal b = none := by
  induction k generalizing a with
  | zero =>
      constructor
      · intro absent way b leads length
        cases List.length_eq_zero_iff.mp length
        cases leads
        exact absent
      · intro barren
        exact barren [] a .stay rfl
  | succ k inductionHypothesis =>
      rw [goalAt_succ_eq_none_iff]
      constructor
      · intro absent way b leads length
        cases leads with
        | stay => simp at length
        | @step _ d _ i rest first onward =>
            have absentThere := absent d (List.mem_of_getElem? first)
            exact inductionHypothesis.mp absentThere rest b onward (by simpa using length)
      · intro barren b member
        rcases List.mem_iff_getElem?.mp member with ⟨i, first⟩
        apply inductionHypothesis.mpr
        intro way d leads length
        exact barren (i :: way) d (.step first leads) (by simp [length])

section Lists

variable {xs : List α} {f : α → Option γ}

theorem findSome?_cons_eq_or : (a :: xs).findSome? f = (f a).or (xs.findSome? f) := by
  rw [← List.singleton_append, List.findSome?_append, List.findSome?_singleton]

theorem findSome?_eq_some_iff_getElem? :
    xs.findSome? f = some c ↔ ∃ (i : Nat) (a : α), xs[i]? = some a ∧ f a = some c ∧
      ∀ (j : Nat) (b : α), xs[j]? = some b → j < i → f b = none := by
  rw [List.findSome?_eq_some_iff]
  constructor
  · rintro ⟨before, a, after, rfl, found, earlier⟩
    refine ⟨before.length, a, by simp, found, ?_⟩
    intro j b isThere sooner
    rw [List.getElem?_append_left sooner] at isThere
    exact earlier b (List.mem_of_getElem? isThere)
  · rintro ⟨i, a, isAt, found, earlier⟩
    rcases List.getElem?_eq_some_iff.mp isAt with ⟨bound, rfl⟩
    refine ⟨xs.take i, xs[i], xs.drop (i + 1), ?_, found, ?_⟩
    · rw [List.getElem_cons_drop, List.take_append_drop]
    · intro b member
      rcases List.mem_take_iff_getElem.mp member with ⟨j, inside, rfl⟩
      exact earlier j _ (List.getElem?_eq_getElem _) (by omega)

end Lists

/-- The first goal at a distance stands at the end of the least way of that length. -/
theorem goalAt_eq_some_iff :
    goalAt next goal k a = some c ↔
      ∃ way b, Leads next a way b ∧ way.length = k ∧ goal b = some c ∧
        ∀ other d, Leads next a other d → other.length = k → List.Lex (· < ·) other way →
          goal d = none := by
  induction k generalizing a c with
  | zero =>
      constructor
      · intro here
        refine ⟨[], a, .stay, rfl, here, ?_⟩
        intro other d _ _ less
        cases less
      · rintro ⟨way, b, leads, length, here, _⟩
        cases List.length_eq_zero_iff.mp length
        cases leads
        exact here
  | succ k inductionHypothesis =>
      rw [goalAt, findSome?_eq_some_iff_getElem?]
      constructor
      · rintro ⟨i, b, first, found, earlier⟩
        rcases inductionHypothesis.mp found with ⟨way, d, leads, length, here, least⟩
        refine ⟨i :: way, d, .step first leads, by simp [length], here, ?_⟩
        intro other e otherLeads otherLength less
        cases otherLeads with
        | stay => simp at otherLength
        | @step _ u _ j rest firstThere onward =>
            have restLength : rest.length = k := by simpa using otherLength
            rcases List.cons_lex_cons_iff.mp less with sooner | ⟨rfl, restLess⟩
            · exact goalAt_eq_none_iff.mp (earlier j u firstThere sooner) rest e onward restLength
            · cases first.symm.trans firstThere
              exact least rest e onward restLength restLess
      · rintro ⟨way, d, leads, length, here, least⟩
        cases leads with
        | stay => simp at length
        | @step _ b _ i rest first onward =>
            refine ⟨i, b, first, ?_, ?_⟩
            · apply inductionHypothesis.mpr
              refine ⟨rest, d, onward, by simpa using length, here, ?_⟩
              intro other e otherLeads otherLength less
              exact least (i :: other) e (.step first otherLeads) (by simp [otherLength])
                (.cons less)
            · intro j u firstThere sooner
              apply goalAt_eq_none_iff.mpr
              intro other e otherLeads otherLength
              exact least (j :: other) e (.step firstThere otherLeads) (by simp [otherLength])
                (.rel sooner)

/-- Following up an element that has no goal moves the queue on by one step and no more. -/
theorem exists_nearest_follow (barren : goal a = none) :
    (∃ k, Nearest next goal (a :: queue) k c) ↔ ∃ k, Nearest next goal (queue ++ next a) k c := by
  -- By distance, what `a` leads to and what the queue leads to take turns. The step takes away
  -- the first turn of `a`, which is empty, and leaves the order of the others as it was.
  have after : ∀ j, (queue ++ next a).findSome? (goalAt next goal j) =
      (queue.findSome? (goalAt next goal j)).or (goalAt next goal (j + 1) a) := by
    intro j
    rw [List.findSome?_append, goalAt]
  constructor
  · rintro ⟨k, found, earlier⟩
    simp only [findSome?_cons_eq_or, Option.or_eq_none_iff] at earlier
    rw [findSome?_cons_eq_or, Option.or_eq_some_iff] at found
    rcases found with found | ⟨absent, found⟩
    · cases k with
      | zero =>
          rw [goalAt, barren] at found
          cases found
      | succ k =>
          refine ⟨k, ?_, ?_⟩
          · rw [after, (earlier k (Nat.lt_succ_self k)).2, Option.none_or, found]
          · intro j less
            rw [after, (earlier j (by omega)).2, Option.none_or, (earlier (j + 1) (by omega)).1]
    · refine ⟨k, ?_, ?_⟩
      · rw [after, found, Option.some_or]
      · intro j less
        rw [after, (earlier j less).2, Option.none_or]
        by_cases last : j + 1 = k
        · rw [last, absent]
        · exact (earlier (j + 1) (by omega)).1
  · rintro ⟨k, found, earlier⟩
    simp only [after, Option.or_eq_none_iff] at earlier
    rw [after, Option.or_eq_some_iff] at found
    have passed : ∀ j ≤ k, goalAt next goal j a = none := by
      intro j atMost
      cases j with
      | zero => exact barren
      | succ j => exact (earlier j (by omega)).2
    rcases found with found | ⟨absent, found⟩
    · refine ⟨k, ?_, ?_⟩
      · rw [findSome?_cons_eq_or, passed k (Nat.le_refl k), Option.none_or, found]
      · intro j less
        rw [findSome?_cons_eq_or, passed j (by omega), Option.none_or, (earlier j less).1]
    · refine ⟨k + 1, ?_, ?_⟩
      · rw [findSome?_cons_eq_or, found, Option.some_or]
      · intro j less
        rw [findSome?_cons_eq_or, passed j (by omega), Option.none_or]
        by_cases last : j = k
        · rw [last, absent]
        · exact (earlier j (by omega)).1

theorem exists_nearest (present : goalAt next goal k a ≠ none) :
    ∃ c k, Nearest next goal [a] k c := by
  induction k using Nat.strong_induction_on with
  | h k inductionHypothesis =>
      by_cases sooner : ∃ j < k, goalAt next goal j a ≠ none
      · rcases sooner with ⟨j, less, present⟩
        exact inductionHypothesis j less present
      · push Not at sooner
        rcases Option.ne_none_iff_exists'.mp present with ⟨c, found⟩
        exact ⟨c, k, by rwa [List.findSome?_singleton],
          fun j less => by rw [List.findSome?_singleton, sooner j less]⟩

variable (mark next goal) in
/-- What a search knows on its way: what is marked has no goal, and what comes next after it
is marked too or waits in the queue. -/
structure Explored (start : List α) (marked : List β) (queue : List α) : Prop where
  met : ∀ a ∈ queue, Reachable next start a
  barren : ∀ a, Reachable next start a → mark a ∈ marked → goal a = none
  onward : ∀ a, Reachable next start a → mark a ∈ marked →
    ∀ b ∈ next a, mark b ∈ marked ∨ b ∈ queue

namespace Explored

theorem initial (start : List α) : Explored mark next goal start [] start where
  met := fun _ member => .queued member
  barren := fun _ _ member => absurd member List.not_mem_nil
  onward := fun _ _ member => absurd member List.not_mem_nil

theorem skip (explored : Explored mark next goal start marked (a :: queue))
    (known : mark a ∈ marked) : Explored mark next goal start marked queue where
  met := (List.forall_mem_cons.mp explored.met).2
  barren := explored.barren
  onward := by
    intro b reached bKnown d member
    rcases explored.onward b reached bKnown d member with dKnown | queued
    · exact .inl dKnown
    · rcases List.mem_cons.mp queued with rfl | queued
      · exact .inl known
      · exact .inr queued

theorem follow (faithful : ∀ a b, Reachable next start a → Reachable next start b →
      mark a = mark b → a = b)
    (explored : Explored mark next goal start marked (a :: queue)) (barren : goal a = none) :
    Explored mark next goal start (mark a :: marked) (queue ++ next a) where
  met := by
    rcases List.forall_mem_cons.mp explored.met with ⟨here, others⟩
    intro b member
    rcases List.mem_append.mp member with queued | new
    · exact others b queued
    · exact .step here new
  barren := by
    have here := explored.met a List.mem_cons_self
    intro b reached bKnown
    rcases List.mem_cons.mp bKnown with same | bKnown
    · rwa [faithful b a reached here same]
    · exact explored.barren b reached bKnown
  onward := by
    have here := explored.met a List.mem_cons_self
    intro b reached bKnown d member
    rcases List.mem_cons.mp bKnown with same | bKnown
    · cases faithful b a reached here same
      exact .inr (List.mem_append_right _ member)
    · rcases explored.onward b reached bKnown d member with dKnown | queued
      · exact .inl (List.mem_cons_of_mem _ dKnown)
      · rcases List.mem_cons.mp queued with rfl | queued
        · exact .inl List.mem_cons_self
        · exact .inr (List.mem_append_left _ queued)

/-- Each way from a marked element to a goal goes through the queue. -/
theorem exists_nearer (explored : Explored mark next goal start marked queue)
    (reached : Reachable next start a) (known : mark a ∈ marked)
    (present : goalAt next goal k a ≠ none) :
    ∃ b ∈ queue, mark b ∉ marked ∧ ∃ j < k, goalAt next goal j b ≠ none := by
  induction k generalizing a with
  | zero => exact absurd (explored.barren a reached known) present
  | succ k inductionHypothesis =>
      rw [ne_eq, goalAt_succ_eq_none_iff] at present
      push Not at present
      rcases present with ⟨b, member, present⟩
      by_cases bKnown : mark b ∈ marked
      · rcases inductionHypothesis (.step reached member) bKnown present with
          ⟨d, queued, unknown, j, less, found⟩
        exact ⟨d, queued, unknown, j, by omega, found⟩
      · have queued := (explored.onward a reached known b member).resolve_left bKnown
        exact ⟨b, queued, bKnown, k, Nat.lt_succ_self k, present⟩

/-- A marked element at the front of the queue is not the first to lead to a goal. -/
theorem nearest_skip (explored : Explored mark next goal start marked (a :: queue))
    (known : mark a ∈ marked) :
    Nearest next goal (a :: queue) k c ↔ Nearest next goal queue k c := by
  have passed : ∀ j, (∀ i < j, queue.findSome? (goalAt next goal i) = none) →
      goalAt next goal j a = none := by
    intro j earlier
    by_contra present
    have reached := explored.met a List.mem_cons_self
    rcases explored.exists_nearer reached known present with ⟨b, queued, unknown, i, less, found⟩
    rcases List.mem_cons.mp queued with rfl | queued
    · exact unknown known
    · exact found (List.findSome?_eq_none_iff.mp (earlier i less) b queued)
  constructor
  · rintro ⟨found, earlier⟩
    simp only [findSome?_cons_eq_or, Option.or_eq_none_iff] at earlier
    rw [findSome?_cons_eq_or, passed k fun i less => (earlier i less).2, Option.none_or] at found
    exact ⟨found, fun j less => (earlier j less).2⟩
  · rintro ⟨found, earlier⟩
    constructor
    · rw [findSome?_cons_eq_or, passed k earlier, Option.none_or, found]
    · intro j less
      have barren := passed j fun i sooner => earlier i (Nat.lt_trans sooner less)
      rw [findSome?_cons_eq_or, barren, Option.none_or, earlier j less]

end Explored

namespace Finds

theorem eq_some_iff_nearest (search : Finds mark next goal marked queue outcome)
    (faithful : ∀ a b, Reachable next start a → Reachable next start b → mark a = mark b → a = b)
    (explored : Explored mark next goal start marked queue) :
    outcome = some c ↔ ∃ k, Nearest next goal queue k c := by
  induction search with
  | exhausted =>
      apply iff_of_false (by simp)
      rintro ⟨k, found, _⟩
      simp at found
  | skip known _ inductionHypothesis =>
      rw [inductionHypothesis (explored.skip known)]
      exact exists_congr fun k => (explored.nearest_skip known).symm
  | @here marked a queue d unknown here =>
      have first : (a :: queue).findSome? (goalAt next goal 0) = some d := by
        rw [List.findSome?_cons, goalAt, here]
      constructor
      · intro same
        refine ⟨0, first.trans same, ?_⟩
        intro j less
        omega
      · rintro ⟨k, found, earlier⟩
        cases k with
        | zero => exact first.symm.trans found
        | succ k =>
            have absent := earlier 0 (Nat.succ_pos k)
            simp [first] at absent
  | follow _ barren _ inductionHypothesis =>
      rw [inductionHypothesis (explored.follow faithful barren), exists_nearest_follow barren]

/-- A search from one element finds the goal at the end of the least way, shorter ways first. -/
theorem eq_some_iff (search : Finds mark next goal [] [a] outcome)
    (faithful : ∀ b d, Reachable next [a] b → Reachable next [a] d → mark b = mark d → b = d) :
    outcome = some c ↔ ∃ way b, Leads next a way b ∧ goal b = some c ∧
      ∀ other d, Leads next a other d → List.Shortlex (· < ·) other way → goal d = none := by
  rw [search.eq_some_iff_nearest faithful (.initial [a])]
  constructor
  · rintro ⟨k, found, earlier⟩
    rw [List.findSome?_singleton, goalAt_eq_some_iff] at found
    rcases found with ⟨way, b, leads, rfl, here, least⟩
    refine ⟨way, b, leads, here, ?_⟩
    intro other d otherLeads less
    rcases List.shortlex_def.mp less with shorter | ⟨sameLength, less⟩
    · have absent := earlier other.length shorter
      rw [List.findSome?_singleton, goalAt_eq_none_iff] at absent
      exact absent other d otherLeads rfl
    · exact least other d otherLeads sameLength less
  · rintro ⟨way, b, leads, here, least⟩
    refine ⟨way.length, ?_, ?_⟩
    · rw [List.findSome?_singleton, goalAt_eq_some_iff]
      refine ⟨way, b, leads, rfl, here, ?_⟩
      exact fun other d otherLeads sameLength less =>
        least other d otherLeads (.of_lex sameLength less)
    · intro j shorter
      rw [List.findSome?_singleton, goalAt_eq_none_iff]
      rintro other d otherLeads rfl
      exact least other d otherLeads (.of_length_lt shorter)

theorem eq_none_iff (search : Finds mark next goal [] [a] outcome)
    (faithful : ∀ b d, Reachable next [a] b → Reachable next [a] d → mark b = mark d → b = d) :
    outcome = none ↔ ∀ way b, Leads next a way b → goal b = none := by
  constructor
  · intro missing way b leads
    by_contra present
    have distant : goalAt next goal way.length a ≠ none :=
      fun absent => present (goalAt_eq_none_iff.mp absent way b leads rfl)
    rcases exists_nearest distant with ⟨c, nearest⟩
    have found := (search.eq_some_iff_nearest faithful (.initial [a])).mpr nearest
    simp [missing] at found
  · intro barren
    by_contra present
    rcases Option.ne_none_iff_exists'.mp present with ⟨c, found⟩
    rcases (search.eq_some_iff faithful).mp found with ⟨way, b, leads, here, _⟩
    simp [barren way b leads] at here

end Finds

end Architecture.Worklist
