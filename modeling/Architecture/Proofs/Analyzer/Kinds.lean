import Architecture.Proofs.Analyzer.Agreement

/-!
# Violations kind by kind

The stages of an analysis are those of the early kinds, namespaces and modules, followed
by those of the late ones. Two analyses whose validators of the early kinds are the same
and find the same run as many of these stages, whatever may come later, and so report the
same violations of each early kind.
-/

namespace Architecture

/-- The violations of one kind. -/
def Report.ofKind (r : Report) (kind : RuleKind) : List Violation :=
  r.violations.filter (·.kind = kind)

namespace Analyzer

/-- Where the totals are the same up to some number of stages, as many of these run. -/
theorem StopsAfter.min_eq {limit available offered count more upTo : Nat}
    {total totalToo : Nat → Nat} (enough : upTo ≤ available) (enoughToo : upTo ≤ offered)
    (same : ∀ n ≤ upTo, total n = totalToo n) (stops : StopsAfter limit total available count)
    (stopsToo : StopsAfter limit totalToo offered more) : min count upTo = min more upTo := by
  have notBefore : ∀ {available offered count more : Nat} {total totalToo : Nat → Nat},
      upTo ≤ available → (∀ n ≤ upTo, total n = totalToo n) →
      StopsAfter limit total available count → StopsAfter limit totalToo offered more →
      count < upTo → more ≤ count := by
    intro available offered count more total totalToo enough same stops stopsToo early
    by_contra later
    obtain ⟨positive, reached⟩ := stops.reached (by omega)
    have notYet := stopsToo.first count positive (by omega)
    rw [same count (by omega)] at reached
    omega
  have forward := notBefore enough same stops stopsToo
  have backward := notBefore enoughToo (fun n le => (same n le).symm) stopsToo stops
  omega

namespace Staged

variable {limit : Nat} {ctx later : Context} {stages : List (List Validator)}
  {report other : Report} {count more : Nat}

theorem congr (staged : Staged limit ctx stages report count)
    (same : ∀ n, findings ctx (stages.take n).flatten =
      findings later (stages.take n).flatten) :
    Staged limit later stages report count := by
  obtain ⟨stops, violations, rulesEvaluated, truncated⟩ := staged
  simp only [same] at stops violations
  exact ⟨stops, violations, rulesEvaluated, truncated⟩

/-- All stages run where none is left out. -/
theorem count_eq_of_whole (staged : Staged limit ctx stages report count)
    (whole : report.truncated = false) : count = stages.length := by
  have notFewer := mt staged.truncated.mpr (by simp [whole])
  have noMore := staged.stops.le_available
  omega

theorem eq (staged : Staged limit ctx stages report count)
    (stagedToo : Staged limit ctx stages other more)
    (sameTypes : report.typesChecked = other.typesChecked) : report = other := by
  have sameCount : count = more := staged.stops.unique stagedToo.stops
  subst more
  have sameTruncated : report.truncated = other.truncated := by
    rw [Bool.eq_iff_iff, staged.truncated, stagedToo.truncated]
  have sameViolations := staged.violations.trans stagedToo.violations.symm
  have sameRules := staged.rulesEvaluated.trans stagedToo.rulesEvaluated.symm
  cases report
  cases other
  simp_all only

end Staged

section Kinds

variable {ctx : Context} {validators : List Validator}

theorem filter_findings
    (ownKind : ∀ v ∈ validators, ∀ found ∈ v.findings ctx, found.kind = v.kind)
    (kind : RuleKind) :
    (findings ctx validators).filter (·.kind = kind) =
      findings ctx (validators.filter (·.kind = kind)) := by
  induction validators with
  | nil => rfl
  | cons v rest inductionHypothesis =>
      obtain ⟨ofFirst, ofRest⟩ := List.forall_mem_cons.mp ownKind
      have later := inductionHypothesis ofRest
      simp only [findings, List.flatMap_cons, List.filter_append, List.filter_cons] at later ⊢
      rw [later]
      by_cases same : v.kind = kind
      · have kept : (v.findings ctx).filter (·.kind = kind) = v.findings ctx :=
          List.filter_eq_self.mpr fun found member => by simp [ofFirst found member, same]
        simp [kept, same]
      · have dropped : (v.findings ctx).filter (·.kind = kind) = [] :=
          List.filter_eq_nil_iff.mpr fun found member => by simp [ofFirst found member, same]
        simp [dropped, same]

/-- The stages of some kinds, in the order of these. -/
def stagesOf (kinds : List RuleKind) (validators : List Validator) : List (List Validator) :=
  (kinds.map fun kind => validators.filter (·.kind = kind)).filter (!·.isEmpty)

def earlyKinds : List RuleKind := [.namespaces, .modules]

def lateKinds : List RuleKind := [.dependencies, .shapes]

theorem byKind_eq_append (validators : List Validator) :
    byKind validators = stagesOf earlyKinds validators ++ stagesOf lateKinds validators := by
  rw [stagesOf, stagesOf, ← List.filter_append, ← List.map_append]
  rfl

theorem kind_of_mem_stagesOf {kinds : List RuleKind} {v : Validator} {count : Nat}
    (member : v ∈ ((stagesOf kinds validators).take count).flatten) : v.kind ∈ kinds := by
  obtain ⟨stage, taken, vMember⟩ := List.mem_flatten.mp member
  have stageMember := List.mem_of_mem_filter (List.mem_of_mem_take taken)
  obtain ⟨kind, kindMember, rfl⟩ := List.mem_map.mp stageMember
  rwa [of_decide_eq_true (List.mem_filter.mp vMember).2]

theorem mem_of_mem_stagesOf {kinds : List RuleKind} {v : Validator} {count : Nat}
    (member : v ∈ ((stagesOf kinds validators).take count).flatten) : v ∈ validators := by
  obtain ⟨stage, taken, vMember⟩ := List.mem_flatten.mp member
  have stageMember := List.mem_of_mem_filter (List.mem_of_mem_take taken)
  obtain ⟨kind, _, rfl⟩ := List.mem_map.mp stageMember
  exact List.mem_of_mem_filter vMember

theorem stagesOf_append {kinds : List RuleKind} {others : List Validator}
    (otherKinds : ∀ v ∈ others, v.kind ∉ kinds) :
    stagesOf kinds (validators ++ others) = stagesOf kinds validators := by
  have ofKind : ∀ kind ∈ kinds, (validators ++ others).filter (·.kind = kind) =
      validators.filter (·.kind = kind) := by
    intro kind kindMember
    rw [List.filter_append]
    refine List.append_right_eq_self.mpr (List.filter_eq_nil_iff.mpr ?_)
    intro v member same
    apply otherKinds v member
    rwa [of_decide_eq_true same]
  rw [stagesOf, stagesOf, List.map_congr_left ofKind]

theorem filter_take_byKind {kind : RuleKind} (early : kind ∈ earlyKinds) (count : Nat) :
    ((byKind validators).take count).flatten.filter (·.kind = kind) =
      ((stagesOf earlyKinds validators).take count).flatten.filter (·.kind = kind) := by
  rw [byKind_eq_append, List.take_append, List.flatten_append, List.filter_append]
  refine List.append_right_eq_self.mpr (List.filter_eq_nil_iff.mpr ?_)
  intro v member same
  have late := kind_of_mem_stagesOf member
  rw [of_decide_eq_true same] at late
  cases kind with
  | namespaces | modules => simp [lateKinds] at late
  | dependencies | shapes => simp [earlyKinds] at early

end Kinds

section TwoAnalyses

variable {ctx later : Context} {validators others : List Validator} {limit count more : Nat}
  {report other : Report}

theorem findings_congr (same : ∀ v ∈ validators, v.findings ctx = v.findings later) :
    findings ctx validators = findings later validators :=
  List.flatMap_congr same

theorem ofKind_of_staged (staged : Staged limit ctx (byKind validators) report count)
    (ownKind : ∀ v ∈ validators, ∀ found ∈ v.findings ctx, found.kind = v.kind)
    (kind : RuleKind) :
    report.ofKind kind =
      findings ctx (((byKind validators).take count).flatten.filter (·.kind = kind)) := by
  rw [Report.ofKind, staged.violations, filter_findings]
  exact fun v member => ownKind v (mem_of_mem_take_byKind member)

theorem length_stagesOf_early_le (validators : List Validator) :
    (stagesOf earlyKinds validators).length ≤ (byKind validators).length := by
  rw [byKind_eq_append, List.length_append]
  exact Nat.le_add_right _ _

/-- Of the same early stages that find the same, as many run. -/
theorem take_stagesOf_early_eq
    (sameStages : stagesOf earlyKinds validators = stagesOf earlyKinds others)
    (sameFindings : ∀ v ∈ validators, v.kind ∈ earlyKinds → v.findings ctx = v.findings later)
    (staged : Staged limit ctx (byKind validators) report count)
    (stagedToo : Staged limit later (byKind others) other more) :
    (stagesOf earlyKinds validators).take count = (stagesOf earlyKinds others).take more := by
  have enough := length_stagesOf_early_le validators
  have enoughToo := length_stagesOf_early_le others
  rw [← sameStages] at enoughToo ⊢
  rw [List.take_eq_take_iff]
  refine StopsAfter.min_eq enough enoughToo ?_ staged.stops stagedToo.stops
  intro n within
  rw [byKind_eq_append, byKind_eq_append, ← sameStages, List.take_append_of_le_length within,
    List.take_append_of_le_length within, findings_congr]
  intro v member
  exact sameFindings v (mem_of_mem_stagesOf member) (kind_of_mem_stagesOf member)

/-- The late stages make no difference to the violations of an early kind. -/
theorem ofKind_eq_of_early {kind : RuleKind} (early : kind ∈ earlyKinds)
    (sameStages : stagesOf earlyKinds validators = stagesOf earlyKinds others)
    (sameFindings : ∀ v ∈ validators, v.kind ∈ earlyKinds → v.findings ctx = v.findings later)
    (ownKind : ∀ v ∈ validators, ∀ found ∈ v.findings ctx, found.kind = v.kind)
    (ownKindToo : ∀ v ∈ others, ∀ found ∈ v.findings later, found.kind = v.kind)
    (staged : Staged limit ctx (byKind validators) report count)
    (stagedToo : Staged limit later (byKind others) other more) :
    report.ofKind kind = other.ofKind kind := by
  rw [ofKind_of_staged staged ownKind, ofKind_of_staged stagedToo ownKindToo,
    filter_take_byKind early, filter_take_byKind early,
    ← take_stagesOf_early_eq sameStages sameFindings staged stagedToo]
  apply findings_congr
  intro v member
  have run := List.mem_of_mem_filter member
  exact sameFindings v (mem_of_mem_stagesOf run) (kind_of_mem_stagesOf run)

/-- Where no stage is left out, all that the validators of a kind find is reported. -/
theorem ofKind_eq_of_whole {kind : RuleKind}
    (sameFindings : ∀ v ∈ validators, v.kind = kind → v.findings ctx = v.findings later)
    (ownKind : ∀ v ∈ validators, ∀ found ∈ v.findings ctx, found.kind = v.kind)
    (ownKindToo : ∀ v ∈ validators, ∀ found ∈ v.findings later, found.kind = v.kind)
    (staged : Staged limit ctx (byKind validators) report count)
    (stagedToo : Staged limit later (byKind validators) other more)
    (whole : report.truncated = false) (wholeToo : other.truncated = false) :
    report.ofKind kind = other.ofKind kind := by
  rw [ofKind_of_staged staged ownKind, ofKind_of_staged stagedToo ownKindToo,
    staged.count_eq_of_whole whole, stagedToo.count_eq_of_whole wholeToo]
  apply findings_congr
  intro v member
  obtain ⟨run, sameKind⟩ := List.mem_filter.mp member
  exact sameFindings v (mem_of_mem_take_byKind run) (of_decide_eq_true sameKind)

/-- The same validators make the same report of what they find alike. -/
theorem inquiry_eq {a b : Analyzer} (sameValidators : a.validators = b.validators)
    (sameLimit : a.context.options.maxViolations = b.context.options.maxViolations)
    (sameTypes : a.context.typesUnderTest.length = b.context.typesUnderTest.length)
    (sameFindings : ∀ v ∈ a.validators, v.findings a.context = v.findings b.context) :
    a.inquiry.value = b.inquiry.value := by
  have sameStages : b.stages = a.stages := by rw [stages, stages, sameValidators]
  rcases inquiry_staged a with ⟨count, staged⟩
  rcases inquiry_staged b with ⟨more, stagedToo⟩
  rw [sameStages, ← sameLimit] at stagedToo
  apply Staged.eq (staged.congr ?_) stagedToo
  · rw [inquiry_typesChecked, inquiry_typesChecked, sameTypes]
  · intro n
    apply findings_congr
    intro v member
    exact sameFindings v (mem_of_mem_take_stages member)

end TwoAnalyses

end Analyzer

end Architecture
