import Architecture.Analyzer
import Mathlib.Data.List.SplitBy

/-!
# The stages of an analysis

Sorting validators by kind and cutting the result where the kind changes gives
the validators of each kind that has any, in the order in which they were
registered.
-/

namespace Architecture

namespace Analyzer

/-- The validators of each kind that has any, in order of kind. -/
def byKind (validators : List Validator) : List (List Validator) :=
  (RuleKind.all.map fun kind => validators.filter (·.kind = kind)).filter (!·.isEmpty)

theorem kind_of_mem_byKind {validators stage : List Validator}
    (member : stage ∈ byKind validators) :
    ∃ kind, stage = validators.filter (·.kind = kind) ∧ stage ≠ [] := by
  simp only [byKind, List.mem_filter, List.mem_map] at member
  rcases member with ⟨⟨kind, _, rfl⟩, nonempty⟩
  exact ⟨kind, rfl, by simpa using nonempty⟩

theorem rank_trans (u v w : Validator) (uv : decide (u.kind.rank ≤ v.kind.rank) = true)
    (vw : decide (v.kind.rank ≤ w.kind.rank) = true) :
    decide (u.kind.rank ≤ w.kind.rank) = true := by
  rw [decide_eq_true_eq] at uv vw ⊢
  exact Nat.le_trans uv vw

theorem rank_total (v w : Validator) :
    (decide (v.kind.rank ≤ w.kind.rank) || decide (w.kind.rank ≤ v.kind.rank)) = true := by
  simpa using Nat.le_total v.kind.rank w.kind.rank

theorem inOrder_pairwise (validators : List Validator) :
    (inOrder validators).Pairwise fun v w => v.kind.rank ≤ w.kind.rank := by
  have sorted := List.pairwise_mergeSort rank_trans rank_total validators
  exact sorted.imp of_decide_eq_true

theorem inOrder_perm (validators : List Validator) : (inOrder validators).Perm validators :=
  List.mergeSort_perm validators _

/-- Sorting does not move validators of one kind past each other. -/
theorem filter_inOrder (validators : List Validator) (kind : RuleKind) :
    (inOrder validators).filter (·.kind = kind) = validators.filter (·.kind = kind) := by
  have sameKind : (validators.filter (·.kind = kind)).Pairwise
      fun v w => decide (v.kind.rank ≤ w.kind.rank) = true := by
    refine List.pairwise_of_forall_mem_list ?_
    intro v vMember w wMember
    simp only [List.mem_filter, decide_eq_true_eq] at vMember wMember
    simp [vMember.2, wMember.2]
  have kept := List.sublist_mergeSort rank_trans rank_total sameKind List.filter_sublist
  have sublist := kept.filter (·.kind = kind)
  rw [List.filter_filter] at sublist
  simp only [Bool.and_self] at sublist
  have permutation := (inOrder_perm validators).filter (·.kind = kind)
  exact (sublist.eq_of_length permutation.length_eq.symm).symm

/-- A list that is sorted by kind is made up of its kinds. -/
theorem eq_flatMap_of_pairwise {validators : List Validator}
    (sorted : validators.Pairwise fun v w => v.kind.rank ≤ w.kind.rank) :
    validators = RuleKind.all.flatMap fun kind => validators.filter (·.kind = kind) := by
  induction validators with
  | nil => rfl
  | cons v rest inductionHypothesis =>
      rcases List.pairwise_cons.mp sorted with ⟨least, restSorted⟩
      have absent : ∀ kind : RuleKind, kind.rank < v.kind.rank →
          rest.filter (·.kind = kind) = [] := by
        intro kind below
        rw [List.filter_eq_nil_iff]
        intro w member same
        have atLeast := least w member
        rw [of_decide_eq_true same] at atLeast
        omega
      have first : (RuleKind.all.flatMap fun kind => (v :: rest).filter (·.kind = kind)) =
          v :: RuleKind.all.flatMap fun kind => rest.filter (·.kind = kind) := by
        cases kind : v.kind with
        | namespaces => simp [RuleKind.all, kind]
        | modules =>
            have noNamespaces := absent .namespaces (by simp [kind, RuleKind.rank])
            simp [RuleKind.all, kind, noNamespaces]
        | dependencies =>
            have noNamespaces := absent .namespaces (by simp [kind, RuleKind.rank])
            have noModules := absent .modules (by simp [kind, RuleKind.rank])
            simp [RuleKind.all, kind, noNamespaces, noModules]
        | shapes =>
            have noNamespaces := absent .namespaces (by simp [kind, RuleKind.rank])
            have noModules := absent .modules (by simp [kind, RuleKind.rank])
            have noDependencies := absent .dependencies (by simp [kind, RuleKind.rank])
            simp [RuleKind.all, kind, noNamespaces, noModules, noDependencies]
      rw [first, ← inductionHypothesis restSorted]

theorem inOrder_eq_flatten (validators : List Validator) :
    inOrder validators = (byKind validators).flatten := by
  rw [byKind, List.flatten_filter_not_isEmpty, ← List.flatMap_def,
    eq_flatMap_of_pairwise (inOrder_pairwise validators)]
  simp only [filter_inOrder]

theorem byKind_pairwise (validators : List Validator) :
    (byKind validators).Pairwise fun stage later =>
      ∀ v ∈ stage, ∀ w ∈ later, v.kind ≠ w.kind := by
  apply List.Pairwise.filter
  rw [List.pairwise_map]
  have distinct : RuleKind.all.Nodup := by decide
  refine distinct.imp ?_
  intro kind other differs v vMember w wMember same
  simp only [List.mem_filter, decide_eq_true_eq] at vMember wMember
  exact differs (vMember.2.symm.trans (same.trans wMember.2))

/-- Cutting the sorted validators where the kind changes separates the kinds. -/
theorem splitBy_inOrder (validators : List Validator) :
    (inOrder validators).splitBy (fun v w => v.kind = w.kind) = byKind validators := by
  rw [inOrder_eq_flatten]
  apply List.splitBy_flatten
  · intro empty
    rcases kind_of_mem_byKind empty with ⟨_, _, nonempty⟩
    exact nonempty rfl
  · intro stage member
    rcases kind_of_mem_byKind member with ⟨kind, rfl, _⟩
    apply List.Pairwise.isChain
    refine List.pairwise_of_forall_mem_list ?_
    intro v vMember w wMember
    simp only [List.mem_filter, decide_eq_true_eq] at vMember wMember ⊢
    exact vMember.2.trans wMember.2.symm
  · apply List.Pairwise.isChain
    refine (byKind_pairwise validators).imp_of_mem ?_
    intro stage later stageMember laterMember differs
    rcases kind_of_mem_byKind stageMember with ⟨_, _, stageNonempty⟩
    rcases kind_of_mem_byKind laterMember with ⟨_, _, laterNonempty⟩
    refine ⟨stageNonempty, laterNonempty, decide_eq_false ?_⟩
    exact differs _ (List.getLast_mem _) _ (List.head_mem _)

theorem flatten_stages (a : Analyzer) : a.stages.flatten = a.validators :=
  List.flatten_splitBy _ _

theorem mem_of_mem_take_stages {a : Analyzer} {v : Validator} {count : Nat}
    (member : v ∈ (a.stages.take count).flatten) : v ∈ a.validators := by
  rw [← flatten_stages]
  exact (List.take_sublist count a.stages).flatten.subset member

end Analyzer

end Architecture
