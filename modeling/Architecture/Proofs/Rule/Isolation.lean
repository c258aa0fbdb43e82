import Architecture.Proofs.Name
import Architecture.Proofs.Plan
import Architecture.Standard

/-!
# Isolated namespaces

The search of one rule collects the offending references type by type, cut off once
for each type and once for the whole rule. Cut-offs that let anything through do not
change whether something is found. A namespace that is isolated in both directions
then passes exactly if no reference within a module crosses its border.
-/

namespace Architecture

open Analyzer

namespace Isolation

/-- The offending references within the module of a type, before any cut-off. -/
def offences (ctx : Context) (rule : Isolation) (d : Direction) (t : TypeDescriptor) :
    List TypeKey :=
  (t.references ctx.options.rootTypes).internal.filter fun r => rule.offends d r.name.space

/-- What a type contributes to the violations of a rule. -/
def contribution (ctx : Context) (rule : Isolation) (d : Direction) (t : TypeDescriptor) :
    List Violation :=
  ((rule.offences ctx d t).take ctx.options.perTypeCutoff).map (rule.violation d t)

theorem scan_cons_value (ctx : Context) (rule : Isolation) (d : Direction) (found : Nat)
    (t : TypeDescriptor) (rest : List TypeDescriptor) :
    (rule.scan ctx d found (t :: rest)).value =
      if ctx.options.perNamespaceCutoff - found < (rule.contribution ctx d t).length then
        (rule.contribution ctx d t).take (ctx.options.perNamespaceCutoff - found)
      else rule.contribution ctx d t ++
        (rule.scan ctx d (found + (rule.contribution ctx d t).length) rest).value := by
  simp only [scan, Inquiry.value_bind, contribution, List.length_map, ← List.map_take]
  split
  next full => exact (if_pos full).symm
  next fits =>
    rw [Inquiry.value_bind]
    exact (if_neg fits).symm

theorem scan_value (ctx : Context) (rule : Isolation) (d : Direction) (found : Nat)
    (types : List TypeDescriptor) :
    (rule.scan ctx d found types).value =
      (types.flatMap (rule.contribution ctx d)).take (ctx.options.perNamespaceCutoff - found) := by
  induction types generalizing found with
  | nil => simp [scan]
  | cons t rest inductionHypothesis =>
      rw [scan_cons_value, inductionHypothesis, List.flatMap_cons, List.take_append]
      split
      next full =>
        rw [Nat.sub_eq_zero_of_le (Nat.le_of_lt full), List.take_zero, List.append_nil]
      next fits => rw [List.take_of_length_le (Nat.le_of_not_lt fits), Nat.sub_sub]

theorem check_value (ctx : Context) (rule : Isolation) (d : Direction) :
    (check ctx d rule).value =
      ((ctx.typesUnderTest.filter fun t => rule.selects d t.name.space).flatMap
        (rule.contribution ctx d)).take ctx.options.perNamespaceCutoff :=
  scan_value ctx rule d 0 _

theorem exists_offence_of_mem_check {ctx : Context} {rule : Isolation} {d : Direction}
    {v : Violation} (member : v ∈ (check ctx d rule).value) :
    ∃ t ∈ ctx.typesUnderTest, rule.selects d t.name.space = true ∧
      ∃ r ∈ rule.offences ctx d t, v = rule.violation d t r := by
  rw [check_value] at member
  rcases List.mem_flatMap.mp (List.mem_of_mem_take member) with ⟨t, selected, member⟩
  rcases List.mem_filter.mp selected with ⟨underTest, selects⟩
  rcases List.mem_map.mp member with ⟨r, taken, rfl⟩
  exact ⟨t, underTest, selects, r, List.mem_of_mem_take taken, rfl⟩

/-- Cut-offs that are not zero do not hide that there is an offence. -/
theorem check_eq_nil_iff {ctx : Context} {rule : Isolation} {d : Direction}
    (perType : 1 ≤ ctx.options.perTypeCutoff)
    (perNamespace : 1 ≤ ctx.options.perNamespaceCutoff) :
    (check ctx d rule).value = [] ↔
      ∀ t ∈ ctx.typesUnderTest, rule.selects d t.name.space = true →
        rule.offences ctx d t = [] := by
  have typeOpen : ctx.options.perTypeCutoff ≠ 0 := Nat.one_le_iff_ne_zero.mp perType
  have ruleOpen : ctx.options.perNamespaceCutoff ≠ 0 := Nat.one_le_iff_ne_zero.mp perNamespace
  simp [check_value, contribution, List.take_eq_nil_iff, typeOpen, ruleOpen]

theorem referenced_ne {ctx : Context} {rule : Isolation} {v w : Violation}
    (inward : v ∈ (check ctx .inbound rule).value)
    (outward : w ∈ (check ctx .outbound rule).value) : v.referenced ≠ w.referenced := by
  rcases exists_offence_of_mem_check inward with ⟨t, _, _, r, rMember, rfl⟩
  rcases exists_offence_of_mem_check outward with ⟨u, _, _, s, sMember, rfl⟩
  have inside : rule.contains r.name.space = true := (List.mem_filter.mp rMember).2
  have outside := (List.mem_filter.mp sMember).2
  simp only [offends, Bool.and_eq_true, Bool.not_eq_true'] at outside
  -- What comes in refers to the inside of the namespace, what goes out to the outside.
  intro same
  have sameName : r.name = s.name := Subject.type.inj same
  rw [sameName, outside.1.2] at inside
  cases inside

/-- No reference within a module crosses the border of the namespace, if references to
types without a namespace are left aside. -/
def Sealed (ctx : Context) (space : String) : Prop :=
  ∀ t ∈ ctx.typesUnderTest, ∀ r ∈ (t.references ctx.options.rootTypes).internal,
    r.name.space.isSome → (t.name.LiesIn space ↔ r.name.LiesIn space)

/-- The two directions together: a reference offends neither exactly if it does not cross
the border. -/
theorem not_offends_iff (space : String) (source target : TypeName) :
    (∀ d, ({ space } : Isolation).selects d source.space = true →
        ({ space } : Isolation).offends d target.space = false) ↔
      (target.space.isSome → (source.LiesIn space ↔ target.LiesIn space)) := by
  rw [TypeName.liesIn_iff, TypeName.liesIn_iff]
  constructor
  · intro clean named
    have inward := clean .inbound
    have outward := clean .outbound
    simp only [selects, offends, contains, isExempt, named] at inward outward
    cases inSource : namespaceContains space source.space <;> simp_all
  · intro level d selected
    cases named : target.space with
    | none =>
        -- A name without a namespace lies in none, and is not reported on the way out either.
        cases d <;> simp [offends, contains, namespaceContains]
    | some inner =>
        have same := level (by simp [named])
        rw [named] at same
        cases d <;> simp_all [selects, offends, contains, isExempt]

theorem sealed_iff (ctx : Context) (space : String)
    (perType : 1 ≤ ctx.options.perTypeCutoff)
    (perNamespace : 1 ≤ ctx.options.perNamespaceCutoff) :
    Sealed ctx space ↔ ∀ d, (check ctx d { space }).value = [] := by
  simp only [check_eq_nil_iff perType perNamespace, offences, List.filter_eq_nil_iff,
    Bool.not_eq_true, Sealed, ← not_offends_iff]
  constructor
  · exact fun clean d t tested selected r member => clean t tested r member d selected
  · exact fun clean t tested r member d selected => clean d t tested selected r member

/-- The report of a plan that isolates namespaces has no violation of this kind exactly if
no reference within a module crosses the border of one of them. The two directions of a
namespace never report the same reference. -/
theorem report_clean_iff_sealed [PatternNotation] (earlier : List Analyzer)
    {steps : List Registration} {spaces : List String} {a : Analyzer}
    (isolated : steps.filter (·.isIsolation) = spaces.flatMap Plan.isolate)
    (built : (({} : Plan).registerAll steps).build = .ok a)
    (perType : 1 ≤ a.context.options.perTypeCutoff)
    (perNamespace : 1 ≤ a.context.options.perNamespaceCutoff) :
    ((∀ v ∈ (a.evaluate.run (cacheAfter earlier)).1.violations, v.kind ≠ .namespaces) ↔
        ∀ space ∈ spaces, Sealed a.context space) ∧
      ∀ space ∈ spaces, ∀ v ∈ (check a.context .inbound { space }).value,
        ∀ w ∈ (check a.context .outbound { space }).value,
          (v.current, v.referenced) ≠ (w.current, w.referenced) := by
  have reported := Plan.mem_violations_namespaces_iff_isolations earlier built
  have registered := Plan.mem_isolations_of_isolate isolated
  refine ⟨⟨?_, ?_⟩, ?_⟩
  · intro clean space member
    rw [sealed_iff a.context space perType perNamespace]
    intro d
    rw [List.eq_nil_iff_forall_not_mem]
    intro v found
    have known := (reported v).mpr ⟨d, _, (registered d _).mpr ⟨space, member, rfl⟩, found⟩
    exact clean v known.1 known.2
  · intro closed v member kind
    rcases (reported v).mp ⟨member, kind⟩ with ⟨d, rule, ruleMember, found⟩
    rcases (registered d rule).mp ruleMember with ⟨space, spaceMember, rfl⟩
    have sealedSpace := closed space spaceMember
    rw [(sealed_iff a.context space perType perNamespace).mp sealedSpace d] at found
    exact List.not_mem_nil found
  · intro space _ v inward w outward same
    exact referenced_ne inward outward (congrArg Prod.snd same)

/-- Steps that isolate two namespaces of the service, around its registration. -/
def isolatedService : List Registration :=
  Plan.isolate "App.Core" ++ [.options (plainOptions 15), .module serviceModule] ++
    Plan.isolate "App.Web"

open scoped Standard

theorem report_clean_iff_sealed_isolatedService :
    let spaces := ["App.Core", "App.Web"]
    isolatedService.filter (·.isIsolation) = spaces.flatMap Plan.isolate ∧
      ∃ a, (({} : Plan).registerAll isolatedService).build = .ok a ∧
        1 ≤ a.context.options.perTypeCutoff ∧ 1 ≤ a.context.options.perNamespaceCutoff ∧
        ((∀ v ∈ (a.evaluate.run (cacheAfter [a])).1.violations, v.kind ≠ .namespaces) ↔
          ∀ space ∈ spaces, Sealed a.context space) ∧
        ∀ space ∈ spaces, ∀ v ∈ (check a.context .inbound { space }).value,
          ∀ w ∈ (check a.context .outbound { space }).value,
            (v.current, v.referenced) ≠ (w.current, w.referenced) := by
  intro spaces
  obtain ⟨a, built⟩ : ∃ a, (({} : Plan).registerAll isolatedService).build = .ok a := ⟨_, rfl⟩
  have isolated : isolatedService.filter (·.isIsolation) = spaces.flatMap Plan.isolate := rfl
  have options : a.context.options = plainOptions 15 := by
    cases built
    rfl
  have perType : 1 ≤ a.context.options.perTypeCutoff := by
    rw [options]
    decide
  have perNamespace : 1 ≤ a.context.options.perNamespaceCutoff := by
    rw [options]
    decide
  exact ⟨isolated, a, built, perType, perNamespace,
    report_clean_iff_sealed [a] isolated built perType perNamespace⟩

end Isolation

end Architecture
